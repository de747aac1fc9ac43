import FlowCanvas.Proofs.Runs

/-!
# Numbered ids

Blocks and wires get their ids from two counters. Both have the same theory, so everything here is
stated for an `Item`, which is a block or a wire. There are two layers.

* **Text.** The id with the number `n` ends in exactly that number (`idSuffix?_numbered`), whatever
  else ids on a canvas may look like; so moving past the ids of a drawing moves past it
  (`lt_past`).
* **Steps.** `Counts` is how ids and counter may move: no id appears but those given out, and those
  are counted by the counter. One step moves them so (`Step.counts`), and by induction every trace
  does (`Trace.counts`).

What follows for whole runs, where drawings with ids of any form are loaded, is a matter of its own.
-/

namespace FlowCanvas

/-! ### The text of a numbered id -/

/-- The id with a number. -/
def numbered (stem : String) (n : Nat) : String := stem ++ "_" ++ toString n

theorem digitValue?_of_isDigit {c : Char} (h : c.isDigit = true) :
    Text.digitValue? c = some (c.toNat - 48) := by
  have hle : c.toNat ≤ 57 := by
    simp only [Char.isDigit, Bool.and_eq_true, decide_eq_true_eq] at h
    exact UInt32.le_iff_toNat_le.1 h.2
  rw [Text.digitValue?, if_pos (by omega), if_pos h]

theorem isDecimal_of_isDigit {c : Char} (h : c.isDigit = true) : Text.isDecimal c = true := by
  rw [Text.isDecimal, digitValue?_of_isDigit h]
  rfl

/-- The digits that an id ends in, after an underscore, are found. -/
theorem suffixDigits?_append (stem : String) {digits : List Char} (hne : digits ≠ [])
    (hdigits : ∀ c ∈ digits, Text.isDecimal c = true) :
    suffixDigits? (stem ++ "_" ++ String.ofList digits) = some digits := by
  have hreverse : ∀ c ∈ digits.reverse, Text.isDecimal c = true := by simpa using hdigits
  obtain ⟨last, front, hlast⟩ := List.exists_cons_of_ne_nil (List.reverse_ne_nil_iff.2 hne)
  have hback : (stem ++ "_" ++ String.ofList digits).toList.reverse =
      last :: (front ++ '_' :: stem.toList.reverse) := by simp [← hlast, ← List.cons_append]
  -- A line feed is no digit, so none is stripped off the end.
  have hfeed : ∀ cs, last :: (front ++ '_' :: stem.toList.reverse) = '\n' :: cs → False := by
    intro cs h
    have hdecimal : Text.isDecimal last = true := hreverse last (by simp [hlast])
    rw [(List.cons.inj h).1] at hdecimal
    exact absurd hdecimal (by decide)
  have htake : (digits.reverse ++ '_' :: stem.toList.reverse).takeWhile Text.isDecimal =
      digits.reverse := by
    rw [List.takeWhile_append_of_pos hreverse, List.takeWhile_cons_of_neg (by decide),
      List.append_nil]
  have hdrop : (digits.reverse ++ '_' :: stem.toList.reverse).dropWhile Text.isDecimal =
      '_' :: stem.toList.reverse := by
    rw [List.dropWhile_append_of_pos hreverse, List.dropWhile_cons_of_neg (by decide)]
  rw [hlast, List.cons_append] at htake hdrop
  simp only [suffixDigits?, hback, htake, hdrop, ← hlast, List.reverse_reverse]
  obtain ⟨d, ds, rfl⟩ := List.exists_cons_of_ne_nil hne
  rfl

/-- An id that ends in very many digits is overlong. -/
theorem isOverlongId_append (stem : String) {digits : List Char} (hne : digits ≠ [])
    (hdigits : ∀ c ∈ digits, Text.isDecimal c = true) :
    isOverlongId (stem ++ "_" ++ String.ofList digits) = Number.isOverlong digits := by
  rw [isOverlongId, suffixDigits?_append stem hne hdigits]
  rfl

/-- The shortest number that is overlong, as an id. -/
def overlongId : String := "x" ++ "_" ++ String.ofList (List.replicate 4301 '1')

theorem isOverlongId_overlongId : isOverlongId overlongId = true := by
  rw [overlongId, isOverlongId_append]
  · rw [Number.isOverlong, List.length_replicate]
    decide
  · refine List.ne_nil_of_length_pos ?_
    rw [List.length_replicate]
    decide
  · intro c hc
    rw [List.eq_of_mem_replicate hc]
    decide

theorem digitsValue_eq_ofDigitChars {cs : List Char} (h : ∀ c ∈ cs, c.isDigit = true) :
    Text.digitsValue cs = Nat.ofDigitChars 10 cs 0 := by
  have hfold : ∀ m, cs.foldl (fun n c ↦ n * 10 + (Text.digitValue? c).getD 0) m =
      Nat.ofDigitChars 10 cs m := by
    induction cs with
    | nil => exact fun m ↦ rfl
    | cons c cs ih =>
      intro m
      rw [List.foldl_cons, ih fun c hc ↦ h c (List.mem_cons_of_mem _ hc), Nat.ofDigitChars_cons,
        digitValue?_of_isDigit (h c List.mem_cons_self), Nat.mul_comm]
      rfl
  exact hfold 0

/-- **A numbered id ends in its number.** -/
theorem idSuffix?_numbered (stem : String) (n : Nat) : idSuffix? (numbered stem n) = some n := by
  have hdigits : ∀ c ∈ Nat.toDigits 10 n, c.isDigit = true := fun c hc ↦
    Nat.isDigit_of_mem_toDigits (by decide) (by decide) hc
  rw [idSuffix?, numbered, Nat.toString_eq_ofList_toDigits,
    suffixDigits?_append stem Nat.toDigits_ne_nil fun c hc ↦ isDecimal_of_isDigit (hdigits c hc),
    Option.map_some, digitsValue_eq_ofDigitChars hdigits, Nat.ofDigitChars_ten_toDigits]

/-- **The number of an id can be read off it**, so that different numbers make different ids. -/
theorem numbered_injective (stem : String) {m n : Nat} (h : numbered stem m = numbered stem n) :
    m = n := by
  have hsuffix := congrArg idSuffix? h
  rw [idSuffix?_numbered, idSuffix?_numbered] at hsuffix
  exact Option.some.inj hsuffix

/-! ### Moving past ids -/

namespace IdSource

private theorem le_foldl_past (ids : List String) (n : Int) :
    n ≤ ids.foldl (fun n id ↦
      match idSuffix? id with
      | some m => max n (m + 1)
      | none => n) n := by
  induction ids generalizing n with
  | nil => exact Int.le_refl n
  | cons id ids ih =>
    refine Int.le_trans ?_ (ih _)
    dsimp only
    split
    · exact Int.le_max_left _ _
    · exact Int.le_refl n

/-- Moving past ids moves past the number of each. -/
theorem lt_past {ids : List String} {id : String} (hid : id ∈ ids) {m : Nat}
    (hm : idSuffix? id = some m) : (m : Int) < past ids := by
  suffices h : ∀ n : Int, (m : Int) < ids.foldl (fun n id ↦
      match idSuffix? id with
      | some m => max n (m + 1)
      | none => n) n from h 0
  induction ids with
  | nil => exact absurd hid List.not_mem_nil
  | cons id' ids ih =>
    intro n
    rcases List.mem_cons.1 hid with rfl | hid
    · refine Int.lt_of_lt_of_le ?_ (le_foldl_past ids _)
      simp only [hm]
      exact Int.lt_of_lt_of_le (Int.lt_succ (m : Int)) (Int.le_max_right _ _)
    · exact ih hid _

/-- The text of an id counted by a counter that is not negative. -/
theorem numbered_toNat {stem : String} {n : Int} (h : 0 ≤ n) :
    numbered stem n.toNat = stem ++ "_" ++ toString n := by
  obtain ⟨k, rfl⟩ := Int.eq_ofNat_of_zero_le h
  rfl

end IdSource

/-! ### Blocks and wires alike -/

/-- What has a numbered id. -/
inductive Item where
  | block
  | wire

namespace Item

/-- What stands in front of the number. -/
def stem : Item → String
  | block => "node"
  | wire => "edge"

/-- The ids that are on a canvas. -/
def ids : Item → Canvas → List String
  | block, c => c.blocks.map Block.id
  | wire, c => c.wires.map Wire.id

/-- The number that is given out next. -/
def next : Item → Canvas → Int
  | block, c => c.ids.nextBlock
  | wire, c => c.ids.nextWire

/-- The id that an event reports as given out. -/
def given? : Item → Event → Option String
  | block, .blockCreated id _ => some id
  | wire, .wireCreated id _ _ => some id
  | _, _ => none

/-- The ids that are given out, as events report them. -/
def allocated (item : Item) (es : List Event) : List String := es.filterMap item.given?

/-- The ids that are given out by one part of a run after the other. -/
@[simp]
theorem allocated_append (item : Item) (es fs : List Event) :
    item.allocated (es ++ fs) = item.allocated es ++ item.allocated fs :=
  List.filterMap_append

/-- **How the ids and the counter of an item may move**: the counter goes forward, an id is there
before or given out, and the ids given out are those from the old value of the counter up to the
new one. -/
structure Counts (item : Item) (c : Canvas) (es : List Event) (c' : Canvas) : Prop where
  forward : item.next c ≤ item.next c'
  known : ∀ id ∈ item.ids c', id ∈ item.ids c ∨ id ∈ item.allocated es
  counted : ∀ id ∈ item.allocated es, ∃ n : Int, id = item.stem ++ "_" ++ toString n ∧
    item.next c ≤ n ∧ n < item.next c'

variable {item : Item} {c c' c'' : Canvas} {es fs : List Event}

theorem Counts.refl (item : Item) (c : Canvas) : Counts item c [] c where
  forward := Int.le_refl _
  known := fun _ h ↦ .inl h
  counted := fun _ h ↦ absurd h List.not_mem_nil

/-- Counting goes on where the part before it has stopped. -/
theorem Counts.trans (h : Counts item c es c') (h' : Counts item c' fs c'') :
    Counts item c (es ++ fs) c'' where
  forward := Int.le_trans h.forward h'.forward
  known := by
    intro id hid
    rw [allocated_append, List.mem_append]
    rcases h'.known id hid with hid | hid
    · rcases h.known id hid with hid | hid
      · exact .inl hid
      · exact .inr (.inl hid)
    · exact .inr (.inr hid)
  counted := by
    intro id hid
    rw [allocated_append, List.mem_append] at hid
    have hforward := h.forward
    have hforward' := h'.forward
    rcases hid with hid | hid
    · obtain ⟨n, hn, hle, hlt⟩ := h.counted id hid
      exact ⟨n, hn, hle, by omega⟩
    · obtain ⟨n, hn, hle, hlt⟩ := h'.counted id hid
      exact ⟨n, hn, by omega, hlt⟩

/-- Nothing is given out, and no id is new. -/
theorem Counts.quiet (hnext : item.next c ≤ item.next c')
    (hids : ∀ id ∈ item.ids c', id ∈ item.ids c) (hes : item.allocated es = []) :
    Counts item c es c' where
  forward := hnext
  known := fun id hid ↦ .inl (hids id hid)
  counted := by simp [hes]

end Item

namespace Canvas

open Item (Counts)

variable {p : Palette} {s : Supply} {c c' : Canvas} {es : List Event}

theorem blockId_eq (c : Canvas) :
    c.ids.blockId = Item.block.stem ++ "_" ++ toString (Item.block.next c) := by
  have hstem : "node" ++ "_" = "node_" := by decide
  rw [Item.stem, hstem]
  rfl

theorem wireId_eq (c : Canvas) :
    c.ids.wireId = Item.wire.stem ++ "_" ++ toString (Item.wire.next c) := by
  have hstem : "edge" ++ "_" = "edge_" := by decide
  rw [Item.stem, hstem]
  rfl

/-- Retouching gives out no id. -/
theorem Retouch.allocated_eq_nil (item : Item) (h : Retouch p s c es c') :
    item.allocated es = [] := by
  cases h with
  | relabel id label value events report =>
    rcases report with rfl | ⟨keys, rfl⟩
    · rfl
    · cases item <;> rfl
  | _ => cases item <;> rfl

/-- A selection is reported without giving anything out. -/
theorem allocated_eq_nil {item : Item} {e : Event} (he : item.given? e = none)
    (h : ∀ e' ∈ es, e' = e ∨ ∃ a b, e' = .selectionChanged a b) : item.allocated es = [] := by
  refine List.filterMap_eq_nil_iff.2 fun e' he' ↦ ?_
  rcases h e' he' with rfl | ⟨a, b, rfl⟩
  · exact he
  · cases item <;> rfl

theorem allocated_deselecting {item : Item} {e : Event} (he : item.given? e = none) (lost : Prop)
    [Decidable lost] : item.allocated ((deselecting lost c).2 ++ [e]) = [] := by
  refine allocated_eq_nil he fun e' he' ↦ ?_
  rcases List.mem_append.1 he' with he' | he'
  · exact .inr ⟨none, none, mem_deselecting he'⟩
  · exact .inl (List.mem_singleton.1 he')

/-- No change gives out the id of a block. -/
theorem Change.allocated_block (h : Change p s c es c') : Item.block.allocated es = [] := by
  cases h with
  | retouch h => exact h.allocated_eq_nil .block
  | remove id b block plain childless => exact allocated_deselecting rfl _
  | connect source target data kind mapping ends new valid => rfl
  | disconnect id w wire => exact allocated_deselecting rfl _
  | select selection known =>
    refine allocated_eq_nil (e := .selectionChanged none none) rfl fun e he ↦ ?_
    exact .inr ⟨_, _, mem_selecting he⟩

/-- No change makes a block. -/
theorem Change.counts_block (h : Change p s c es c') : Counts .block c es c' := by
  -- No change makes a block: ids can only go, and the counter moves only when a number is spent in
  -- vain.
  refine .quiet ?_ ?_ h.allocated_block
  · cases h with
    | retouch h => exact h.kept.nextBlock
    | remove id b block plain childless =>
      rw [deselecting_eq]
      exact Int.le_refl _
    | connect source target data kind mapping ends new valid => exact Int.le_refl _
    | disconnect id w wire =>
      rw [deselecting_eq]
      exact Int.le_refl _
    | select selection known =>
      rw [selecting_eq]
      exact Int.le_refl _
  · cases h with
    | retouch h => exact fun id hid ↦ (congrArg (id ∈ ·) h.kept.blockIds).mp hid
    | remove id b block plain childless =>
      rw [deselecting_eq]
      exact List.map_subset _ (List.filter_subset_self _)
    | connect source target data kind mapping ends new valid => exact fun _ hid ↦ hid
    | disconnect id w wire =>
      rw [deselecting_eq]
      exact fun _ hid ↦ hid
    | select selection known =>
      rw [selecting_eq]
      exact fun _ hid ↦ hid

/-- Connecting is the only change that makes a wire. -/
theorem Change.counts_wire (h : Change p s c es c') : Counts .wire c es c' := by
  cases h with
  | retouch h =>
    refine .quiet (Int.le_of_eq h.kept.nextWire.symm) ?_ (h.allocated_eq_nil .wire)
    exact fun id hid ↦ (congrArg (id ∈ ·) h.kept.wireIds).mp hid
  | remove id b block plain childless =>
    refine .quiet ?_ ?_ (allocated_deselecting rfl _)
    · rw [deselecting_eq]
      exact Int.le_refl _
    · rw [deselecting_eq]
      exact List.map_subset _ (List.filter_subset_self _)
  | connect source target data kind mapping ends new valid =>
    refine ⟨Int.le_of_lt (Int.lt_succ _), fun id hid ↦ ?_, fun id hid ↦ ?_⟩
    · rcases (mem_map_putBy Wire.id).1 hid with rfl | hid
      · exact .inr (List.mem_singleton_self _)
      · exact .inl hid
    · obtain rfl : id = c.ids.wireId := List.mem_singleton.1 hid
      exact ⟨Item.wire.next c, wireId_eq c, Int.le_refl _, Int.lt_succ _⟩
  | disconnect id w wire =>
    refine .quiet ?_ ?_ (allocated_deselecting rfl _)
    · rw [deselecting_eq]
      exact Int.le_refl _
    · rw [deselecting_eq]
      exact List.map_subset _ (List.filter_subset_self _)
  | select selection known =>
    rw [selecting_eq]
    refine .quiet (Int.le_refl _) (fun _ hid ↦ hid) ?_
    refine allocated_eq_nil (e := .selectionChanged none none) rfl fun e he ↦ ?_
    exact .inr ⟨_, _, mem_selecting he⟩

/-- **What one step does to ids and counters.** -/
theorem Step.counts (item : Item) (h : Step p s c es c') : Counts item c es c' := by
  cases h with
  | change h =>
    cases item with
    | block => exact h.counts_block
    | wire => exact h.counts_wire
  | create h =>
    obtain ⟨n, t, properties, position, within, type, defaults, valid, place⟩ := h
    cases item with
    | block =>
      refine ⟨Int.le_of_lt (Int.lt_succ _), fun id hid ↦ ?_, fun id hid ↦ ?_⟩
      · rcases (mem_map_putBy Block.id).1 hid with rfl | hid
        · exact .inr (List.mem_singleton_self _)
        · exact .inl hid
      · obtain rfl : id = c.ids.blockId := List.mem_singleton.1 hid
        exact ⟨Item.block.next c, blockId_eq c, Int.le_refl _, Int.lt_succ _⟩
    | wire => exact .quiet (Int.le_refl _) (fun _ hid ↦ hid) rfl

theorem Trace.allocated_block (h : Trace (Change p s) c es c') : Item.block.allocated es = [] := by
  induction h with
  | nil => rfl
  | cons step _ ih => rw [Item.allocated_append, step.allocated_block, ih, List.append_nil]

/-- **Whatever happens, ids are given out in order.** -/
theorem Trace.counts (item : Item) (h : Trace (Step p s) c es c') : Counts item c es c' := by
  induction h with
  | nil c => exact .refl item c
  | cons step _ ih => exact (step.counts item).trans ih

end Canvas

end FlowCanvas
