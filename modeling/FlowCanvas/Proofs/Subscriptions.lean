import FlowCanvas.Canvas.Listeners
import FlowCanvas.Proofs.Runs

/-!
# Subscriptions and their handles

Whoever subscribes is given a handle, and calling the handle is meant to end that subscription. A
subscription is *live* from the moment it is made until its own handle is first called, and an event
should reach the live subscriptions, each once, in the order in which they were made.

A `Desk` is the listeners together with the books that are kept about them: the listener of every
subscription ever made, and the handles called so far. What is live (`Desk.live`) is read off the
books alone. The listeners do not know the books: a handle ends the *first* subscription of its
listener, whichever handle it is (`Listeners.unsubscribe`). A listener that unsubscribes when it
hears of an event calls the handle of its latest subscription.

The main statement is about all runs (`Desk.faithful_along_iff`): an event reaches exactly the live
subscriptions at every moment of a run **exactly if** no move of the run *strays*. A handle strays
if its listener has live subscriptions and this is not one of them, or if somebody else's
subscription stands between it and an earlier one of its listener. An event strays if a listener
that unsubscribes has a live subscription that is not its latest. Where nobody subscribes twice
nothing strays.
-/

namespace FlowCanvas.Listeners

/-- What is done with listeners. -/
inductive Move where
  | subscribe (name : String) (manner : Listener.Manner)
  /-- Calls the handle of a subscription. Subscriptions are numbered from zero. -/
  | release (k : Nat)
  | fire
deriving DecidableEq, Repr

/-- The listener that a move subscribes. -/
def Move.subscribed? : Move → Option String
  | subscribe name _ => some name
  | release _ | fire => none

/-- Listeners and the books about them. -/
structure Desk where
  listeners : Listeners := {}
  /-- The listeners of all subscriptions ever made, in order. -/
  made : List String := []
  /-- The handles called so far. -/
  called : List Nat := []
deriving DecidableEq, Repr

namespace Desk

/-- The listener of a subscription. -/
def name (d : Desk) (k : Nat) : String := d.made.getD k ""

/-- The subscriptions of a listener, live or not. -/
def numbersOf (d : Desk) (name : String) : List Nat :=
  (List.range d.made.length).filter fun k ↦ d.name k == name

/-- The latest subscription of a listener. -/
def latest? (d : Desk) (name : String) : Option Nat := (d.numbersOf name).getLast?

/-- Whether a listener unsubscribes when it hears of an event. -/
def leaves (d : Desk) (name : String) : Bool := d.listeners.manner name == .once

/-- **What is live**: the subscriptions whose handle has not been called, in order. -/
def live (d : Desk) : List Nat :=
  (List.range d.made.length).filter fun k ↦ !d.called.contains k

/-- Carries a move out. -/
def step (d : Desk) : Move → Desk
  | .subscribe name manner =>
    { d with listeners := d.listeners.subscribe name manner, made := d.made ++ [name] }
  | .release k =>
    if k < d.made.length then
      { d with listeners := d.listeners.unsubscribe (d.name k), called := d.called ++ [k] }
    else d
  | .fire =>
    let (receivers, after) := d.listeners.fire
    { d with
      listeners := after
      called := d.called ++ (receivers.filter d.leaves).filterMap d.latest? }

/-- The desk after a run. -/
def run (moves : List Move) : Desk := moves.foldl step {}

/-- An event reaches the live subscriptions, each once, in order. -/
def Faithful (d : Desk) : Prop := d.listeners.fire.1 = d.live.map d.name

instance (d : Desk) : Decidable d.Faithful := inferInstanceAs (Decidable (_ = _))

/-- A handle is in its place: it is live, and between it and an earlier live subscription of its
listener there is none of another listener. -/
def InPlace (d : Desk) (k : Nat) : Prop :=
  k ∈ d.live ∧ ∀ i ∈ d.live, ∀ j ∈ d.live, i < j → j < k → d.name i = d.name k → d.name j = d.name k

/-- **A move strays.** -/
def Strays (d : Desk) : Move → Prop
  | .subscribe _ _ => False
  | .release k => k < d.made.length ∧ (∃ i ∈ d.live, d.name i = d.name k) ∧ ¬ d.InPlace k
  | .fire => ∃ k ∈ d.live, d.leaves (d.name k) = true ∧ d.latest? (d.name k) ≠ some k

variable {d : Desk} {moves : List Move}

theorem run_concat (moves : List Move) (m : Move) : run (moves ++ [m]) = (run moves).step m := by
  simp [run]

theorem faithful_iff : d.Faithful ↔ d.listeners.subscriptions = d.live.map d.name := Iff.rfl

/-- Live subscriptions are listed in the order in which they were made. -/
theorem sortedLT_live (d : Desk) : d.live.Pairwise (· < ·) :=
  List.pairwise_lt_range.filter _

/-- A subscription is live from when it is made until its handle is called. -/
theorem mem_live {k : Nat} : k ∈ d.live ↔ k < d.made.length ∧ k ∉ d.called := by
  simp [live]

theorem name_of_latest? {name : String} {k : Nat} (h : d.latest? name = some k) :
    d.name k = name := by
  have hmem : k ∈ d.numbersOf name := List.mem_of_getLast? h
  simpa using (List.mem_filter.1 hmem).2

theorem lt_of_latest? {name : String} {k : Nat} (h : d.latest? name = some k) :
    k < d.made.length := by
  have hmem : k ∈ d.numbersOf name := List.mem_of_getLast? h
  exact List.mem_range.1 (List.mem_filter.1 hmem).1

/-- Only handles that were given out are called. -/
theorem lt_of_called (moves : List Move) :
    ∀ k ∈ (run moves).called, k < (run moves).made.length := by
  induction moves using List.reverseRecOn with
  | nil => exact fun k hk ↦ absurd hk List.not_mem_nil
  | append_singleton moves m ih =>
    rw [run_concat]
    generalize run moves = d at ih
    intro k hk
    cases m with
    | subscribe name manner =>
      have hlt := ih k hk
      simp only [step, List.length_append, List.length_singleton]
      omega
    | release r =>
      rw [step] at hk ⊢
      split at hk
      · next hr =>
        rw [if_pos hr]
        rcases List.mem_append.1 hk with hk | hk
        · exact ih k hk
        · rwa [List.mem_singleton.1 hk]
      · next hr =>
        rw [if_neg hr]
        exact ih k hk
    | fire =>
      rcases List.mem_append.1 hk with hk | hk
      · exact ih k hk
      · obtain ⟨name, -, hname⟩ := List.mem_filterMap.1 hk
        exact lt_of_latest? hname

/-! ### Subscribing -/

/-- **Subscribing keeps a desk faithful**: the new subscription is the last one that is live. -/
theorem faithful_subscribe (hcalled : ∀ k ∈ d.called, k < d.made.length) (h : d.Faithful)
    (name : String) (manner : Listener.Manner) : (d.step (.subscribe name manner)).Faithful := by
  have hnew : d.made.length ∉ d.called := fun hmem ↦ Nat.lt_irrefl _ (hcalled _ hmem)
  have hlive : (d.step (.subscribe name manner)).live = d.live ++ [d.made.length] := by
    simp only [live, step, List.length_append, List.length_singleton, List.range_succ,
      List.filter_append]
    simp [hnew]
  have hnames : ∀ k ∈ d.live, (d.step (.subscribe name manner)).name k = d.name k := by
    intro k hk
    have hlt := (mem_live.1 hk).1
    simp [Desk.name, step, List.getElem?_append_left hlt]
  have hlast : (d.step (.subscribe name manner)).name d.made.length = name := by
    simp [Desk.name, step]
  rw [faithful_iff] at h ⊢
  rw [hlive, List.map_append, List.map_congr_left hnames, List.map_singleton, hlast, ← h]
  rfl

/-! ### Calling a handle -/

section Erasing

variable {f : Nat → String} {k : Nat}

/-- Where something equal stands in front, leaving out a member leaves the same image exactly if all
before it have that image too. -/
theorem cons_map_filter_eq_iff {l : List Nat} (hl : l.Pairwise (· < ·)) :
    f k :: (l.filter (· != k)).map f = l.map f ↔ k ∈ l ∧ ∀ j ∈ l, j < k → f j = f k := by
  induction l with
  | nil => simp
  | cons y s ih =>
    obtain ⟨hy, hs⟩ := List.pairwise_cons.1 hl
    by_cases hk : y = k
    · subst hk
      have hkeep : s.filter (· != y) = s :=
        List.filter_eq_self.2 fun j hj ↦ by simpa using (Nat.ne_of_lt (hy j hj)).symm
      refine iff_of_true ?_ ⟨List.mem_cons_self, ?_⟩
      · rw [List.filter_cons_of_neg (by simp), hkeep, List.map_cons]
      · intro j hj hlt
        rcases List.mem_cons.1 hj with rfl | hj
        · exact absurd hlt (Nat.lt_irrefl j)
        · exact absurd hlt (Nat.lt_asymm (hy j hj))
    · rw [List.filter_cons_of_pos (by simpa using hk), List.map_cons, List.map_cons,
        List.cons.injEq]
      constructor
      · rintro ⟨heq, hrest⟩
        rw [← heq] at hrest
        obtain ⟨hmem, hall⟩ := (ih hs).1 hrest
        refine ⟨List.mem_cons_of_mem y hmem, fun j hj hlt ↦ ?_⟩
        rcases List.mem_cons.1 hj with rfl | hj
        · exact heq.symm
        · exact hall j hj hlt
      · rintro ⟨hmem, hall⟩
        have hmem' : k ∈ s := (List.mem_cons.1 hmem).resolve_left (Ne.symm hk)
        have heq := hall y List.mem_cons_self (hy k hmem')
        refine ⟨heq.symm, ?_⟩
        rw [heq]
        exact (ih hs).2 ⟨hmem', fun j hj ↦ hall j (List.mem_cons_of_mem y hj)⟩

/-- **When leaving out a member is leaving out the first with its image.** -/
theorem map_filter_eq_erase_iff {l : List Nat} (hl : l.Pairwise (· < ·)) :
    (l.filter (· != k)).map f = (l.map f).erase (f k) ↔
      ((∃ i ∈ l, f i = f k) → k ∈ l ∧ ∀ i ∈ l, ∀ j ∈ l, i < j → j < k → f i = f k → f j = f k) := by
  induction l with
  | nil => simp
  | cons y s ih =>
    obtain ⟨hy, hs⟩ := List.pairwise_cons.1 hl
    by_cases hk : y = k
    · -- The member stands first, and nothing is before it.
      subst hk
      have hkeep : s.filter (· != y) = s :=
        List.filter_eq_self.2 fun j hj ↦ by simpa using (Nat.ne_of_lt (hy j hj)).symm
      refine iff_of_true ?_ fun _ ↦ ⟨List.mem_cons_self, fun i hi j _ hij hjy _ ↦ ?_⟩
      · rw [List.filter_cons_of_neg (by simp), hkeep, List.map_cons, List.erase_cons_head]
      · rcases List.mem_cons.1 hi with rfl | hi
        · exact absurd hij (Nat.lt_asymm hjy)
        · exact absurd (Nat.lt_trans hij hjy) (Nat.lt_asymm (hy i hi))
    · rw [List.filter_cons_of_pos (by simpa using hk), List.map_cons, List.map_cons]
      by_cases heq : f y = f k
      · rw [heq, List.erase_cons_head, cons_map_filter_eq_iff hs]
        constructor
        · rintro ⟨hmem, hall⟩ -
          refine ⟨List.mem_cons_of_mem y hmem, fun i _ j hj hij hjk _ ↦ ?_⟩
          rcases List.mem_cons.1 hj with rfl | hj
          · exact heq
          · exact hall j hj hjk
        · intro h
          obtain ⟨hmem, hall⟩ := h ⟨y, List.mem_cons_self, heq⟩
          refine ⟨(List.mem_cons.1 hmem).resolve_left (Ne.symm hk), fun j hj hjk ↦ ?_⟩
          exact hall y List.mem_cons_self j (List.mem_cons_of_mem y hj) (hy j hj) hjk heq
      · rw [List.erase_cons_tail (by simpa using heq), List.cons.injEq, and_iff_right rfl, ih hs]
        constructor
        · rintro h ⟨i, hi, hname⟩
          have hi' : i ∈ s := by
            rcases List.mem_cons.1 hi with rfl | hi
            · exact absurd hname heq
            · exact hi
          obtain ⟨hmem, hall⟩ := h ⟨i, hi', hname⟩
          refine ⟨List.mem_cons_of_mem y hmem, fun a ha j hj haj hjk hsame ↦ ?_⟩
          rcases List.mem_cons.1 ha with rfl | ha'
          · exact absurd hsame heq
          · rcases List.mem_cons.1 hj with rfl | hj'
            · exact absurd haj (Nat.lt_asymm (hy a ha'))
            · exact hall a ha' j hj' haj hjk hsame
        · rintro h ⟨i, hi, hname⟩
          obtain ⟨hmem, hall⟩ := h ⟨i, List.mem_cons_of_mem y hi, hname⟩
          refine ⟨(List.mem_cons.1 hmem).resolve_left (Ne.symm hk), fun i hi j hj ↦ ?_⟩
          exact hall i (List.mem_cons_of_mem y hi) j (List.mem_cons_of_mem y hj)

end Erasing

/-- **Calling a handle keeps a desk faithful exactly if it does not stray.** -/
theorem faithful_release_iff (h : d.Faithful) (k : Nat) :
    (d.step (.release k)).Faithful ↔ ¬ d.Strays (.release k) := by
  by_cases hk : k < d.made.length
  · have hlive : (d.step (.release k)).live = d.live.filter (· != k) := by
      rw [step, if_pos hk]
      simp only [live, List.filter_filter]
      refine List.filter_congr fun j _ ↦ ?_
      by_cases hj : j = k <;> simp [hj]
    have hname : (d.step (.release k)).name = d.name := by
      funext j
      rw [step, if_pos hk]
      rfl
    have hafter : (d.step (.release k)).listeners.subscriptions =
        d.listeners.subscriptions.erase (d.name k) := by
      rw [step, if_pos hk]
      rfl
    rw [faithful_iff] at h
    rw [faithful_iff, hlive, hname, hafter, h, eq_comm, map_filter_eq_erase_iff (sortedLT_live d)]
    rw [Strays, and_iff_right hk, not_and, not_not]
    rfl
  · rw [step, if_neg hk]
    exact iff_of_true h fun hstrays ↦ hk hstrays.1

/-! ### Events -/

theorem manner_afterDelivery (ls : Listeners) (name : String) :
    (ls.afterDelivery name).manner = ls.manner := by
  funext other
  unfold afterDelivery
  split <;> rfl

/-- Those who unsubscribe when they hear of an event are all gone when it is over. -/
theorem subscriptions_foldl_afterDelivery {ls : Listeners} {stay rest : List String}
    (hall : ls.subscriptions = stay ++ rest) (hstay : ∀ n ∈ stay, ls.manner n ≠ .once) :
    (rest.foldl Listeners.afterDelivery ls).subscriptions =
      stay ++ rest.filter fun n ↦ !(ls.manner n == .once) := by
  induction rest generalizing ls stay with
  | nil => simpa using hall
  | cons n rest ih =>
    rw [List.foldl_cons]
    by_cases hn : ls.manner n = .once
    · have hafter : (ls.afterDelivery n).subscriptions = stay ++ rest := by
        have hnot : n ∉ stay := fun hmem ↦ hstay n hmem hn
        simp only [afterDelivery, hn, unsubscribe, hall]
        rw [List.erase_append_right _ hnot, List.erase_cons_head]
      rw [ih hafter (by rwa [manner_afterDelivery]), manner_afterDelivery,
        List.filter_cons_of_neg (by simp [hn])]
    · have hsame : ls.afterDelivery n = ls := by
        unfold afterDelivery
        split
        · next heq => exact absurd heq hn
        · rfl
        · rfl
      have hstay' : ∀ m ∈ stay ++ [n], ls.manner m ≠ .once := by
        intro m hm
        rcases List.mem_append.1 hm with hm | hm
        · exact hstay m hm
        · rwa [List.mem_singleton.1 hm]
      rw [hsame, ih (by simpa using hall) hstay', List.filter_cons_of_pos (by simpa using hn)]
      simp

/-- **An event keeps a desk faithful exactly if it does not stray.** -/
theorem faithful_fire_iff (h : d.Faithful) : (d.step .fire).Faithful ↔ ¬ d.Strays .fire := by
  rw [faithful_iff] at h
  have hafter : (d.step .fire).listeners.subscriptions =
      (d.live.filter fun k ↦ !d.leaves (d.name k)).map d.name := by
    have hleft := subscriptions_foldl_afterDelivery (List.nil_append d.listeners.subscriptions).symm
      (by simp)
    rw [List.nil_append] at hleft
    refine hleft.trans ?_
    rw [h, List.filter_map]
    rfl
  -- The handles called are those of the latest subscriptions, and here each is its own.
  have hlive : (d.step .fire).live = d.live.filter fun k ↦
      !(d.leaves (d.name k) && d.latest? (d.name k) == some k) := by
    have hcalled : ∀ k ∈ d.live,
        k ∈ (d.listeners.subscriptions.filter d.leaves).filterMap d.latest? ↔
          d.leaves (d.name k) = true ∧ d.latest? (d.name k) = some k := by
      intro k hk
      rw [List.mem_filterMap]
      constructor
      · rintro ⟨n, hn, hlatest⟩
        obtain rfl := name_of_latest? hlatest
        exact ⟨(List.mem_filter.1 hn).2, hlatest⟩
      · rintro ⟨hleaves, hlatest⟩
        refine ⟨d.name k, List.mem_filter.2 ⟨?_, hleaves⟩, hlatest⟩
        rw [h]
        exact List.mem_map_of_mem hk
    have hboth : (d.step .fire).live = d.live.filter fun k ↦
        !((d.listeners.subscriptions.filter d.leaves).filterMap d.latest?).contains k := by
      simp only [live, List.filter_filter]
      refine List.filter_congr fun k _ ↦ ?_
      rw [Bool.and_comm, ← Bool.not_or, ← List.contains_append]
      rfl
    rw [hboth]
    refine List.filter_congr fun k hk ↦ ?_
    rw [Bool.not_inj_iff, Bool.eq_iff_iff, List.contains_iff_mem, hcalled k hk]
    simp
  rw [faithful_iff, hafter, hlive]
  show _ = List.map d.name _ ↔ _
  simp only [Strays, not_exists, not_and, not_not]
  constructor
  · intro heq k hk hleaves
    -- What is left of one list is among what is left of the other, and they are of one length.
    by_contra hother
    have hsub : (d.live.filter fun k ↦ !d.leaves (d.name k)).Sublist (d.live.filter fun k ↦
        !(d.leaves (d.name k) && d.latest? (d.name k) == some k)) := by
      refine List.monotone_filter_right _ fun j hj ↦ ?_
      simp_all
    have hlength := congrArg List.length heq
    rw [List.length_map, List.length_map] at hlength
    have hmem : k ∈ d.live.filter fun k ↦ !d.leaves (d.name k) := by
      rw [hsub.eq_of_length hlength]
      exact List.mem_filter.2 ⟨hk, by simp [hother]⟩
    simpa [hleaves] using (List.mem_filter.1 hmem).2
  · intro hall
    congr 1
    refine List.filter_congr fun k hk ↦ ?_
    rcases hleaves : d.leaves (d.name k) with - | -
    · rfl
    · simp [hall k hk hleaves]

/-! ### Runs -/

/-- **A move keeps a faithful desk faithful exactly if it does not stray.** -/
theorem faithful_step_iff (hcalled : ∀ k ∈ d.called, k < d.made.length) (h : d.Faithful)
    (m : Move) :
    (d.step m).Faithful ↔ ¬ d.Strays m := by
  cases m with
  | subscribe name manner => exact iff_of_true (faithful_subscribe hcalled h name manner) id
  | release k => exact faithful_release_iff h k
  | fire => exact faithful_fire_iff h

/-- The subscriptions that a run has made, by its moves alone. -/
theorem made_run (moves : List Move) : (run moves).made = moves.filterMap Move.subscribed? := by
  induction moves using List.reverseRecOn with
  | nil => rfl
  | append_singleton moves m ih =>
    rw [run_concat, List.filterMap_append, ← ih]
    cases m with
    | subscribe name manner => rfl
    | release k =>
      rw [step]
      split <;> exact (List.append_nil _).symm
    | fire => exact (List.append_nil _).symm

/-- Where no listener has two subscriptions, nothing strays. -/
theorem not_strays_of_nodup (h : d.made.Nodup) (m : Move) : ¬ d.Strays m := by
  have hinj : ∀ {i k}, i < d.made.length → k < d.made.length → d.name i = d.name k → i = k := by
    intro i k hi hk heq
    simp only [Desk.name, List.getD_eq_getElem?_getD, List.getElem?_eq_getElem hi,
      List.getElem?_eq_getElem hk, Option.getD_some] at heq
    exact (List.Nodup.getElem_inj_iff h).1 heq
  cases m with
  | subscribe name manner => exact id
  | release k =>
    rintro ⟨hk, ⟨i, hi, hname⟩, hplace⟩
    obtain rfl := hinj (mem_live.1 hi).1 hk hname
    refine hplace ⟨hi, fun a ha j _ haj hji hsame ↦ ?_⟩
    obtain rfl := hinj (mem_live.1 ha).1 hk hsame
    exact absurd haj (Nat.lt_asymm hji)
  | fire =>
    rintro ⟨k, hk, -, hlatest⟩
    have hlt := (mem_live.1 hk).1
    have hown : k ∈ d.numbersOf (d.name k) :=
      List.mem_filter.2 ⟨List.mem_range.2 hlt, beq_self_eq_true _⟩
    rcases hlast : d.latest? (d.name k) with - | j
    · rw [latest?, List.getLast?_eq_none_iff] at hlast
      exact absurd hown (hlast ▸ List.not_mem_nil)
    · obtain rfl := hinj (lt_of_latest? hlast) hlt (name_of_latest? hlast)
      exact hlatest hlast

/-- **An event reaches exactly the live subscriptions, at every moment of a run, exactly if no move
of the run strays.** For every run, with listeners of any manner that subscribe as often as they
like and handles that are called any number of times: an event that is fired at some moment is
delivered once to each live subscription, in the order in which they were made, unless and until a
handle or an event strays. Where every listener subscribes once that never happens, however often
handles are called. -/
theorem faithful_along_iff (moves : List Move) :
    ((∀ early, early <+: moves → (run early).Faithful) ↔
        ∀ early m, early ++ [m] <+: moves → ¬ (run early).Strays m) ∧
      ((moves.filterMap Move.subscribed?).Nodup →
        ∀ early, early <+: moves → (run early).Faithful) := by
  have hiff : (∀ early, early <+: moves → (run early).Faithful) ↔
      ∀ early m, early ++ [m] <+: moves → ¬ (run early).Strays m := by
    refine Canvas.along_iff (P := fun early ↦ (run early).Faithful) (Q := fun _ ↦ True)
      (B := fun early m ↦ (run early).Strays m) rfl ?_ fun _ _ ↦ trivial
    intro early m _ _ hearly
    rw [run_concat]
    exact faithful_step_iff (lt_of_called early) hearly m
  refine ⟨hiff, fun hnodup ↦ hiff.2 fun early m hearly ↦ ?_⟩
  refine not_strays_of_nodup ?_ m
  rw [made_run]
  have hinit := ((List.prefix_append early [m]).trans hearly).filterMap Move.subscribed?
  exact hinit.sublist.nodup hnodup

/-- **A handle may end the wrong subscription.** A listener subscribes before and after another one.
The handle of its second subscription puts it behind the other; called again, it ends the first
subscription as well, whose own handle nobody has called. -/
theorem second_handle_strays :
    let twice : List Move := [.subscribe "a" .plain, .subscribe "b" .plain, .subscribe "a" .plain]
    ((run (twice ++ [.release 2])).live = [0, 1] ∧
        (run (twice ++ [.release 2])).listeners.fire.1 = ["b", "a"]) ∧
      ((run (twice ++ [.release 2, .release 2])).live = [0, 1] ∧
        (run (twice ++ [.release 2, .release 2])).listeners.fire.1 = ["b"]) ∧
      ¬ (run (twice ++ [.release 2])).Faithful ∧
      ¬ (run (twice ++ [.release 2, .release 2])).Faithful := by
  decide

end Desk

end FlowCanvas.Listeners
