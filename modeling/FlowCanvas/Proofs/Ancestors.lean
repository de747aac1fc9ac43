import FlowCanvas.Proofs.Chains
import FlowCanvas.Proofs.Runs

/-!
# The walk up the parents

The place of a block on the canvas is found by a walk: from the block to its parent, on to the
parent of that, and so forth, with the places added on the way. Here the canvas may be any canvas.
Loading checks nothing, so parents can be missing, a block can be its own parent, and parents can go
round in a circle.

* `Canvas.Leads` is following the parents, and nothing else: no sum, no bound, no list of what was
  met.
* `Canvas.Walks` is the walk by its rules, without a bound. **Every walk comes to its end**, since
  it passes a new block in each turn, and `Canvas.absolute` gives what it ends with
  (`walks_absolute`).

A walk keeps what it has met, and that is the line of parents as far as it has followed it
(`Canvas.Traversed`). So it meets a block again only if the line has no end, and what it ends with
says what the line is like (`found_absolute`). `absolute_settled` puts this together: **a block has
a place exactly if its line of parents has an end**, and the place is the sum of the places along
it, as far as there are sums. Places that are floats always have one. An integer beyond the range of
floats has none with a float, and can be the place of a block (`endless_place_unsummed`).
-/

namespace FlowCanvas

open Checks

/-- The places of blocks added to a point, from left to right. -/
def Point.along (point : Point) (path : List Block) : Except FlowCanvas.Fault Point :=
  path.foldlM (fun sum k ↦ sum.plus k.position) point

namespace Point

variable {point sum : Point} {path rest : List Block} {k : Block}

theorem along_cons {fault : FlowCanvas.Fault} (h : point.plus k.position = .error fault) :
    point.along (k :: path) = .error fault := by
  simp [along, h, bind, Except.bind]

theorem along_cons_of_ok (h : point.plus k.position = .ok sum) :
    point.along (k :: path) = sum.along path := by
  simp [along, h, bind, Except.bind]

theorem along_append (point : Point) (path rest : List Block) :
    point.along (path ++ rest) = (point.along path).bind fun sum ↦ sum.along rest := by
  rw [along, List.foldlM_append]
  rfl

/-- The first fault counts. -/
theorem along_append_of_error {fault : FlowCanvas.Fault} (h : point.along path = .error fault)
    (rest : List Block) : point.along (path ++ rest) = .error fault := by
  rw [along_append, h]
  rfl

/-- What has a sum has one as far as one likes. -/
theorem exists_along_of_append (h : point.along (path ++ rest) = .ok sum) :
    ∃ part, point.along path = .ok part := by
  rw [along_append] at h
  obtain ⟨part, hpart, -⟩ := bind_eq_ok_iff.1 h
  exact ⟨part, hpart⟩

theorem along_isFloat (hpoint : point.IsFloat) (hpath : Placed path) :
    ∃ sum, point.along path = .ok sum := by
  induction path generalizing point with
  | nil => exact ⟨point, rfl⟩
  | cons k rest ih =>
    obtain ⟨hk, hrest⟩ := List.forall_mem_cons.1 hpath
    obtain ⟨sum, hsum, hfloat⟩ := hpoint.plus hk
    rw [along_cons_of_ok hsum]
    exact ih hfloat hrest

end Point

namespace Canvas

variable {c : Canvas} {id : String} {q r s : Option String} {path path' rest : List Block}
  {b : Block}

/-! ### Following the parents -/

/-- `c.Leads q path r`: from `q` on, one block after the other is the parent of the one before,
these are the blocks of `path`, and then comes `r`. If that is `none`, the last block has no
parent. -/
inductive Leads (c : Canvas) : Option String → List Block → Option String → Prop
  | stay (q : Option String) : Leads c q [] q
  | up {id : String} {b : Block} {path : List Block} {r : Option String}
      (block : c.block? id = some b) (rest : Leads c b.parent path r) :
      Leads c (some id) (b :: path) r

namespace Leads

theorem append (h : c.Leads q path r) (h' : c.Leads r rest s) : c.Leads q (path ++ rest) s := by
  induction h with
  | stay q => exact h'
  | up block _ ih => exact .up block (ih h')

theorem one (hb : c.block? id = some b) : c.Leads (some id) [b] b.parent :=
  .up hb (.stay _)

theorem mem_blocks (h : c.Leads q path r) : ∀ b ∈ path, b ∈ c.blocks := by
  induction h with
  | stay q => exact fun _ hb ↦ absurd hb List.not_mem_nil
  | up block _ ih => exact List.forall_mem_cons.2 ⟨(mem_of_block? block).1, ih⟩

/-- **There is one way up.** Of two paths from the same point one is the beginning of the other,
which then goes on from where the first one ends. -/
theorem comparable (h : c.Leads q path r) (h' : c.Leads q path' s) :
    (∃ rest, path' = path ++ rest ∧ c.Leads r rest s) ∨
      ∃ rest, path = path' ++ rest ∧ c.Leads s rest r := by
  induction h generalizing path' with
  | stay q => exact .inl ⟨path', rfl, h'⟩
  | up block hrest ih =>
    cases h' with
    | stay => exact .inr ⟨_, rfl, .up block hrest⟩
    | up block' hrest' =>
      obtain rfl := Option.some.inj (block.symm.trans block')
      rcases ih hrest' with ⟨rest, rfl, hlater⟩ | ⟨rest, rfl, hlater⟩
      · exact .inl ⟨rest, rfl, hlater⟩
      · exact .inr ⟨rest, rfl, hlater⟩

/-- Any path is the beginning of one that comes to an end. -/
theorem exists_rest (h : c.Leads q path none) (h' : c.Leads q path' s) :
    ∃ rest, path = path' ++ rest ∧ c.Leads s rest none := by
  rcases comparable h h' with ⟨rest, rfl, hrest⟩ | hshorter
  · cases hrest
    exact ⟨[], by simp, .stay none⟩
  · exact hshorter

/-- One can begin at any block of a path. -/
theorem from_mem (h : c.Leads q path r) (hb : b ∈ path) :
    ∃ tail, tail <:+ path ∧ c.Leads (some b.id) tail r := by
  induction h with
  | stay q => exact absurd hb List.not_mem_nil
  | @up id k path r block hrest ih =>
    rcases List.mem_cons.1 hb with rfl | hb
    · obtain ⟨-, rfl⟩ := mem_of_block? block
      exact ⟨b :: path, List.suffix_refl _, .up block hrest⟩
    · obtain ⟨tail, htail, hleads⟩ := ih hb
      exact ⟨tail, htail.trans (List.suffix_cons k path), hleads⟩

/-- **A line with an end meets no block twice**: from where it does it would go on for ever. -/
theorem nodup (h : c.Leads q path none) : (path.map Block.id).Nodup := by
  generalize hend : (none : Option String) = stop at h
  induction h with
  | stay q => exact List.nodup_nil
  | @up id k path stop block hrest ih =>
    subst hend
    refine List.nodup_cons.2 ⟨fun hmem ↦ ?_, ih rfl⟩
    obtain ⟨b, hb, hid⟩ := List.mem_map.1 hmem
    obtain ⟨-, rfl⟩ := mem_of_block? block
    obtain ⟨tail, htail, hleads⟩ := hrest.from_mem hb
    rw [hid] at hleads
    obtain ⟨rest, heq, -⟩ := exists_rest hleads (.up block hrest)
    have hlength := htail.length_le
    rw [heq, List.length_append, List.length_cons] at hlength
    omega

end Leads

/-! ### Walks -/

/-- `c.Walks turns seen sum next result`: a walk that has met the blocks `seen`, with `sum` for the
sum of their places and `next` for the parent that comes next, goes on for some turns and ends with
`result`. -/
inductive Walks (c : Canvas) : Nat → List String → Point → Option String → Except Fault Point → Prop
  | arrived {seen : List String} {sum : Point} : Walks c 0 seen sum none (.ok sum)
  | circle {seen : List String} {sum : Point} {id : String} (met : id ∈ seen) :
      Walks c 0 seen sum (some id) (.error (.parentCycle id))
  | missing {seen : List String} {sum : Point} {id : String} (unmet : id ∉ seen)
      (gone : c.block? id = none) : Walks c 0 seen sum (some id) (.error (.unknownBlock id))
  | unsummed {seen : List String} {sum : Point} {id : String} {b : Block} {fault : Fault}
      (unmet : id ∉ seen) (block : c.block? id = some b)
      (plus : sum.plus b.position = .error fault) :
      Walks c 0 seen sum (some id) (.error fault)
  | onward {turns : Nat} {seen : List String} {sum sum' : Point} {id : String} {b : Block}
      {result : Except Fault Point} (unmet : id ∉ seen) (block : c.block? id = some b)
      (plus : sum.plus b.position = .ok sum')
      (rest : Walks c turns (id :: seen) sum' b.parent result) :
      Walks c (turns + 1) seen sum (some id) result

/-- Different ids of blocks are at most as many as the blocks. -/
theorem length_le_of_ids {ids : List String} (hdistinct : ids.Nodup)
    (hknown : ids ⊆ c.blocks.map Block.id) : ids.length ≤ c.blocks.length := by
  simpa using (List.subperm_of_subset hdistinct hknown).length_le

/-- **The bound on the walk is never reached**: the walk ends before, by its rules. -/
theorem walks_sumParents (fuel : Nat) {seen : List String} (sum : Point) (q : Option String)
    (hdistinct : seen.Nodup) (hknown : seen ⊆ c.blocks.map Block.id)
    (hroom : c.blocks.length < seen.length + fuel) :
    ∃ turns, turns + seen.length ≤ c.blocks.length ∧
      c.Walks turns seen sum q (c.sumParents fuel seen sum q) := by
  have hseen := length_le_of_ids hdistinct hknown
  induction fuel generalizing seen sum q with
  | zero => omega
  | succ fuel ih =>
    rcases q with - | id
    · exact ⟨0, by omega, .arrived⟩
    · rw [sumParents]
      split
      · next hmet => exact ⟨0, by omega, .circle (by simpa using hmet)⟩
      · next hunmet =>
        have hunmet : id ∉ seen := by simpa using hunmet
        split
        · next hgone => exact ⟨0, by omega, .missing hunmet hgone⟩
        · next b hb =>
          split
          · next fault hplus => exact ⟨0, by omega, .unsummed hunmet hb hplus⟩
          · next sum' hplus =>
            have hmem : id ∈ c.blocks.map Block.id := by
              obtain ⟨hmem, rfl⟩ := mem_of_block? hb
              exact List.mem_map_of_mem hmem
            have hdistinct' : (id :: seen).Nodup := List.nodup_cons.2 ⟨hunmet, hdistinct⟩
            have hknown' : id :: seen ⊆ c.blocks.map Block.id := List.cons_subset.2 ⟨hmem, hknown⟩
            obtain ⟨turns, hturns, hwalk⟩ := ih sum' b.parent hdistinct' hknown'
              (by rw [List.length_cons]; omega) (length_le_of_ids hdistinct' hknown')
            rw [List.length_cons] at hturns
            exact ⟨turns + 1, by omega, .onward hunmet hb hplus hwalk⟩

/-- **The place of a block is what the walk from it ends with**, after fewer turns than there are
blocks. -/
theorem walks_absolute (hb : c.block? id = some b) :
    ∃ turns < c.blocks.length, c.Walks turns [id] b.position b.parent (c.absolute id) := by
  obtain ⟨hmem, rfl⟩ := mem_of_block? hb
  have hknown : [b.id] ⊆ c.blocks.map Block.id := by simpa using List.mem_map_of_mem hmem
  obtain ⟨turns, hturns, hwalk⟩ := walks_sumParents (c.blocks.length + 1) b.position b.parent
    (List.nodup_singleton b.id) hknown (by rw [List.length_singleton]; omega)
  rw [List.length_singleton] at hturns
  have habsolute : c.absolute b.id =
      c.sumParents (c.blocks.length + 1) [b.id] b.position b.parent := by
    rw [absolute, hb]
  exact ⟨turns, hturns, habsolute ▸ hwalk⟩

/-! ### What a walk ends with -/

/-- **What the end of a walk says of the line of parents**: it has an end and a sum, or there are
two places on it that cannot be added before a block is met twice, or else it has no end. -/
inductive Found (c : Canvas) (id : String) : Except Fault Point → Prop
  | place {b : Block} {path : List Block} {spot : Point} (line : c.Leads (some id) (b :: path) none)
      (sum : b.position.along path = .ok spot) : Found c id (.ok spot)
  | unsummed {b : Block} {path : List Block} {r : Option String} {why : Point.Fault}
      (line : c.Leads (some id) (b :: path) r) (once : ((b :: path).map Block.id).Nodup)
      (sum : b.position.along path = .error (.badPoint why)) : Found c id (.error (.badPoint why))
  | lost {fault : Fault} (reference : fault.family = .reference)
      (endless : ∀ path, ¬ c.Leads (some id) path none)
      (summed : ∀ b path r, c.Leads (some id) (b :: path) r → ((b :: path).map Block.id).Nodup →
        ∃ sum, b.position.along path = .ok sum) : Found c id (.error fault)

theorem badPoint_of_plus {point point' : Point} {fault : Fault}
    (h : point.plus point' = .error fault) : ∃ why, fault = .badPoint why := by
  obtain ⟨why, -, rfl⟩ := mapError_eq_error_iff.1 h
  exact ⟨why, rfl⟩

/-- A walk that stands before something it cannot pass is lost. -/
theorem Found.of_blocked {k : String} {sum : Point} {fault : Fault}
    (hreference : fault.family = .reference) (hline : c.Leads (some id) (b :: path) (some k))
    (hsum : b.position.along path = .ok sum)
    (hblocked : ∀ rest s, c.Leads (some k) rest s →
      ((b :: path ++ rest).map Block.id).Nodup → rest = []) : Found c id (.error fault) := by
  refine .lost hreference (fun whole hwhole ↦ ?_) fun b' path' r hline' honce ↦ ?_
  · obtain ⟨rest, rfl, hrest⟩ := hwhole.exists_rest hline
    have hnil := hblocked rest none hrest hwhole.nodup
    subst hnil
    cases hrest
  · rcases hline.comparable hline' with ⟨rest, heq, hrest⟩ | ⟨rest, heq, -⟩
    · rw [heq] at honce
      rw [hblocked rest r hrest honce, List.append_nil] at heq
      obtain ⟨rfl, rfl⟩ := List.cons.inj heq
      exact ⟨sum, hsum⟩
    · obtain ⟨rfl, rfl⟩ := List.cons.inj heq
      exact Point.exists_along_of_append hsum

/-- **What a walk has met is the line of parents as far as it has followed it**, each block once. -/
structure Traversed (c : Canvas) (id : String) (b : Block) (path : List Block) (seen : List String)
    (next : Option String) : Prop where
  line : c.Leads (some id) (b :: path) next
  once : ((b :: path).map Block.id).Nodup
  seen : ∀ k, k ∈ seen ↔ k ∈ (b :: path).map Block.id

/-- The walk meets one more block. -/
theorem Traversed.onward {seen : List String} {k : String} {b' : Block}
    (h : c.Traversed id b path seen (some k)) (hunmet : k ∉ seen) (hb' : c.block? k = some b') :
    c.Traversed id b (path ++ [b']) (k :: seen) b'.parent := by
  obtain ⟨-, rfl⟩ := mem_of_block? hb'
  have hids : (b :: (path ++ [b'])).map Block.id = (b :: path).map Block.id ++ [b'.id] := by simp
  refine ⟨h.line.append (.one hb'), ?_, fun i ↦ ?_⟩
  · rw [hids, List.nodup_append]
    refine ⟨h.once, List.nodup_singleton _, fun i hi j hj ↦ ?_⟩
    rintro rfl
    rw [List.mem_singleton.1 hj] at hi
    exact hunmet ((h.seen _).2 hi)
  · rw [hids, List.mem_append, List.mem_cons, h.seen, List.mem_singleton, or_comm]

/-- **What a walk ends with, from any point of it on.** `path` is the line as far as it was
followed. -/
theorem Walks.found {turns : Nat} {seen : List String} {sum : Point} {result : Except Fault Point}
    (h : c.Walks turns seen sum q result) (htraversed : c.Traversed id b path seen q)
    (hsum : b.position.along path = .ok sum) : Found c id result := by
  induction h generalizing path with
  | arrived => exact .place htraversed.line hsum
  | @circle seen sum k met =>
    refine .of_blocked rfl htraversed.line hsum fun rest s hrest hnodup ↦ ?_
    cases hrest with
    | stay => rfl
    | @up _ b' rest _ block _ =>
      -- The block is on the line already.
      obtain ⟨-, rfl⟩ := mem_of_block? block
      rw [List.map_append, List.nodup_append] at hnodup
      exact absurd rfl (hnodup.2.2 b'.id ((htraversed.seen _).1 met) b'.id (by simp))
  | @missing seen sum k unmet gone =>
    refine .of_blocked rfl htraversed.line hsum fun rest s hrest _ ↦ ?_
    cases hrest with
    | stay => rfl
    | up block _ => exact absurd (gone.symm.trans block) (by simp)
  | @unsummed seen sum k b' fault unmet block plus =>
    obtain ⟨why, rfl⟩ := badPoint_of_plus plus
    have htraversed' := htraversed.onward unmet block
    refine .unsummed htraversed'.line htraversed'.once ?_
    rw [Point.along_append, hsum]
    exact Point.along_cons plus
  | @onward turns seen sum sum' k b' result unmet block plus rest ih =>
    refine ih (htraversed.onward unmet block) ?_
    rw [Point.along_append, hsum]
    exact Point.along_cons_of_ok plus

theorem found_absolute (c : Canvas) (id : String) : Found c id (c.absolute id) := by
  rcases hb : c.block? id with - | b
  · have habsolute : c.absolute id = .error (.unknownBlock id) := by rw [absolute, hb]
    rw [habsolute]
    refine .lost rfl (fun path hline ↦ ?_) fun b path r hline ↦ ?_
    all_goals
      cases hline with
      | up block _ => exact absurd (hb.symm.trans block) (by simp)
  · obtain ⟨turns, -, hwalk⟩ := walks_absolute hb
    obtain ⟨-, rfl⟩ := mem_of_block? hb
    exact hwalk.found ⟨.one hb, List.nodup_singleton _, fun k ↦ Iff.rfl⟩ rfl

namespace Found

variable {result : Except Fault Point} {spot : Point} {why : Point.Fault}

/-- A path along which there is no sum is part of no line that has a sum. -/
theorem not_unsummed {b' : Block} {fault : Fault} (hline : c.Leads (some id) (b :: path) none)
    (hsum : b.position.along path = .ok spot) (hline' : c.Leads (some id) (b' :: path') r)
    (hsum' : b'.position.along path' = .error fault) : False := by
  obtain ⟨rest, heq, -⟩ := hline.exists_rest hline'
  obtain ⟨rfl, rfl⟩ := List.cons.inj heq
  obtain ⟨part, hpart⟩ := Point.exists_along_of_append hsum
  exact absurd (hpart.symm.trans hsum') (by simp)

theorem eq_ok_iff (h : Found c id result) :
    result = .ok spot ↔
      ∃ b path, c.Leads (some id) (b :: path) none ∧ b.position.along path = .ok spot := by
  constructor
  · rintro rfl
    cases h with
    | place line sum => exact ⟨_, _, line, sum⟩
  · rintro ⟨b, path, hline, hsum⟩
    cases h with
    | @place b' path' spot' line sum =>
      -- The line is the same one, since both have an end.
      obtain ⟨rest, heq, hrest⟩ := hline.exists_rest line
      cases hrest
      rw [List.append_nil] at heq
      obtain ⟨rfl, rfl⟩ := List.cons.inj heq
      rw [← sum, ← hsum]
    | unsummed line once sum => exact (not_unsummed hline hsum line sum).elim
    | lost reference endless => exact absurd hline (endless _)

theorem eq_badPoint_iff (h : Found c id result) :
    result = .error (.badPoint why) ↔ ∃ b path r, c.Leads (some id) (b :: path) r ∧
      ((b :: path).map Block.id).Nodup ∧ b.position.along path = .error (.badPoint why) := by
  constructor
  · intro heq
    cases h with
    | place => exact absurd heq (by simp)
    | unsummed line once sum =>
      obtain rfl : _ = why := Fault.badPoint.inj (Except.error.inj heq)
      exact ⟨_, _, _, line, once, sum⟩
    | lost reference =>
      rw [Except.error.inj heq] at reference
      exact absurd reference (by simp [Fault.family])
  · rintro ⟨b, path, r, hline, honce, hsum⟩
    cases h with
    | place line sum => exact (not_unsummed line sum hline hsum).elim
    | @unsummed b' path' r' why' line once sum =>
      -- Of the two paths one is part of the other, and the fault is the same.
      rcases hline.comparable line with ⟨rest, heq, -⟩ | ⟨rest, heq, -⟩
      · obtain ⟨rfl, rfl⟩ := List.cons.inj heq
        exact sum.symm.trans (Point.along_append_of_error hsum rest)
      · obtain ⟨rfl, rfl⟩ := List.cons.inj heq
        exact (Point.along_append_of_error sum rest).symm.trans hsum
    | lost reference endless summed =>
      obtain ⟨sum, hsum'⟩ := summed b path r hline honce
      exact absurd (hsum'.symm.trans hsum) (by simp)

theorem of_other {fault : Fault} (h : Found c id (.error fault))
    (hother : ∀ why, fault ≠ .badPoint why) :
    fault.family = .reference ∧ ∀ path, ¬ c.Leads (some id) path none := by
  cases h with
  | unsummed => exact absurd rfl (hother _)
  | lost reference endless => exact ⟨reference, endless⟩

/-- Where places are floats, nothing is without a sum. -/
theorem ne_badPoint (h : Found c id result) (hplaced : Placed c.blocks) (why : Point.Fault) :
    result ≠ .error (.badPoint why) := by
  rintro heq
  obtain ⟨b, path, r, hline, -, hsum⟩ := h.eq_badPoint_iff.1 heq
  obtain ⟨hb, hpath⟩ := List.forall_mem_cons.1 hline.mem_blocks
  obtain ⟨sum, hsum'⟩ := Point.along_isFloat (hplaced b hb) fun k hk ↦ hplaced k (hpath k hk)
  exact absurd (hsum'.symm.trans hsum) (by simp)

end Found

/-- **The walk up the parents of any canvas.** It ends after fewer turns than there are blocks. It
finds a place exactly if the line of parents has an end and the places along it a sum, which is then
the place; it complains of a point exactly if two places on the line cannot be added before a block
is met twice; and otherwise the line has no end, and the fault is a name that does not resolve.
Where places are floats there is always a sum, so that only the line counts. -/
theorem absolute_settled (c : Canvas) (id : String) :
    (∀ b, c.block? id = some b →
      ∃ turns < c.blocks.length, c.Walks turns [id] b.position b.parent (c.absolute id)) ∧
    (∀ spot, c.absolute id = .ok spot ↔
      ∃ b path, c.Leads (some id) (b :: path) none ∧ b.position.along path = .ok spot) ∧
    (∀ why, c.absolute id = .error (.badPoint why) ↔ ∃ b path r, c.Leads (some id) (b :: path) r ∧
      ((b :: path).map Block.id).Nodup ∧ b.position.along path = .error (.badPoint why)) ∧
    (∀ fault, c.absolute id = .error fault → (∀ why, fault ≠ .badPoint why) →
      fault.family = .reference ∧ ∀ path, ¬ c.Leads (some id) path none) ∧
    (Placed c.blocks →
      ((∃ spot, c.absolute id = .ok spot) ↔ ∃ path, c.Leads (some id) path none) ∧
      ∀ fault, c.absolute id = .error fault → fault.family = .reference) := by
  have hfound := found_absolute c id
  refine ⟨fun b hb ↦ walks_absolute hb, fun spot ↦ hfound.eq_ok_iff,
    fun why ↦ hfound.eq_badPoint_iff, fun fault hfault ↦ (hfault ▸ hfound).of_other,
    fun hplaced ↦ ?_⟩
  have hother : ∀ fault, c.absolute id = .error fault →
      fault.family = .reference ∧ ∀ path, ¬ c.Leads (some id) path none := by
    intro fault hfault
    refine (hfault ▸ hfound).of_other ?_
    rintro why rfl
    exact hfound.ne_badPoint hplaced why hfault
  refine ⟨⟨fun ⟨spot, hspot⟩ ↦ ?_, fun ⟨path, hline⟩ ↦ ?_⟩,
    fun fault hfault ↦ (hother fault hfault).1⟩
  · obtain ⟨b, path, hline, -⟩ := hfound.eq_ok_iff.1 hspot
    exact ⟨b :: path, hline⟩
  · rcases hresult : c.absolute id with fault | spot
    · exact absurd hline ((hother fault hresult).2 path)
    · exact ⟨spot, rfl⟩

/-- A drawing as nobody has checked it: two blocks that are parents of each other, one that is its
own parent, one whose parent is missing, and a line of three. -/
def tangled : Drawing where
  blocks := [
    { id := "a", type := "debug", parent := some "b" },
    { id := "b", type := "debug", parent := some "a" },
    { id := "self", type := "debug", parent := some "self" },
    { id := "lone", type := "debug", parent := some "ghost" },
    { id := "x", type := "debug", position := .ofFloats 1 2, parent := some "y" },
    { id := "y", type := "debug", position := .ofFloats 10 20, parent := some "z" },
    { id := "z", type := "debug", position := .ofFloats 100 200 }]

theorem tangled_settled :
    let c := run .bundled [.follow (.load tangled)]
    Placed c.blocks ∧
      (∃ b path, c.Leads (some "x") (b :: path) none ∧
        b.position.along path = .ok (.ofFloats 111 222)) ∧
      ∀ id ∈ ["a", "self", "lone"], (∀ path, ¬ c.Leads (some id) path none) ∧
        ∃ fault, c.absolute id = .error fault ∧ fault.family = .reference := by
  intro c
  have hblocks : c.blocks = tangled.blocks := by decide +kernel
  have hplaced : Placed c.blocks := by
    rw [hblocks]
    simp [Placed, tangled, Point.IsFloat, Point.origin]
  have hplace : c.absolute "x" = .ok (.ofFloats 111 222) := by decide +kernel
  have hfaults : ∀ id ∈ ["a", "self", "lone"], ∃ fault ∈ [.parentCycle id, .unknownBlock "ghost"],
      c.absolute id = .error fault := by decide +kernel
  obtain ⟨-, hfound, -⟩ := absolute_settled c "x"
  refine ⟨hplaced, (hfound _).1 hplace, fun id hid ↦ ?_⟩
  obtain ⟨fault, -, hfault⟩ := hfaults id hid
  obtain ⟨-, -, -, -, hfloats⟩ := absolute_settled c id
  obtain ⟨hline, hfamily⟩ := hfloats hplaced
  refine ⟨fun path hpath ↦ ?_, fault, hfault, hfamily fault hfault⟩
  obtain ⟨spot, hspot⟩ := hline.2 ⟨path, hpath⟩
  exact absurd (hfault.symm.trans hspot) (by simp)

/-- **A block may have no place although its line of parents has an end**: its own is an integer
beyond the range of floats, and that of its parent a float. -/
theorem endless_place_unsummed :
    let far : Value := .point (.int (Int.pow 10 400)) (.int 0)
    let c := run .bundled [
      .follow (.create { type := .text "function-definition" }),
      .follow (.create { type := .text "debug" }),
      .follow (.reparent (.text "node_1") (.text "node_0") far)]
    (∃ path, c.Leads (some "node_1") path none) ∧
      c.absolute "node_1" = .error (.badPoint (.coordinate .tooLarge)) ∧
      (Fault.badPoint (.coordinate .tooLarge)).family ≠ .reference := by
  intro far c
  have hparent : (c.block? "node_1").map Block.parent = some (some "node_0") := by decide +kernel
  have htop : (c.block? "node_0").map Block.parent = some none := by decide +kernel
  obtain ⟨b, hb, hbparent⟩ := Option.map_eq_some_iff.1 hparent
  obtain ⟨k, hk, hkparent⟩ := Option.map_eq_some_iff.1 htop
  have hline : c.Leads (some "node_0") [k] none := by
    have hline := Leads.one hk
    rwa [hkparent] at hline
  exact ⟨⟨[b, k], .up hb (hbparent ▸ hline)⟩, by decide +kernel, by decide⟩

end Canvas

end FlowCanvas
