import FlowCanvas.Canvas.Basic
import Mathlib.Data.List.Forall2
import Mathlib.Data.List.Nodup

/-!
# Lists with keys

Blocks and wires are kept in document order and looked up by id. Everything that later modules need
to know about such lists is said here once, for any items with a text for a key:

* putting an item (`putBy`) changes the list of keys at its end or not at all, so distinct keys stay
  distinct (`nodup_putBy`) and no key is lost (`mem_map_putBy`);
* of items with distinct keys, looking one up finds it (`find?_key_eq_some_iff`), also after items
  were changed in place (`find?_key_forall₂`);
* leaving one of them out takes away the item at its place (`filter_key_ne_eq_eraseIdx`);
* a list with distinct keys is left alone by `keyedBy` (`keyedBy_of_nodup`), and no key is lost in
  it (`mem_map_keyedBy`).
-/

namespace FlowCanvas.Canvas

variable {α : Type} (key : α → String)

/-! ### Putting an item -/

/-- **The keys after an item was put**: those before, and the key of the item at the end if it is
new. -/
theorem map_putBy (x : α) (ys : List α) :
    (putBy key x ys).map key =
      if key x ∈ ys.map key then ys.map key else ys.map key ++ [key x] := by
  induction ys with
  | nil => simp [putBy]
  | cons y ys ih =>
    by_cases h : key y = key x
    · simp [putBy, h]
    · rw [putBy, if_neg h, List.map_cons, ih]
      by_cases hx : key x ∈ ys.map key
      · rw [if_pos hx, if_pos (by simpa using Or.inr hx), List.map_cons]
      · rw [if_neg hx, if_neg (by simp_all [Ne.symm h]), List.map_cons, List.cons_append]

theorem mem_map_putBy {x : α} {ys : List α} {k : String} :
    k ∈ (putBy key x ys).map key ↔ k = key x ∨ k ∈ ys.map key := by
  rw [map_putBy]
  split
  · constructor
    · exact Or.inr
    · rintro (rfl | h) <;> assumption
  · simp [or_comm]

theorem nodup_putBy (x : α) {ys : List α} (h : (ys.map key).Nodup) :
    ((putBy key x ys).map key).Nodup := by
  rw [map_putBy]
  split
  · exact h
  · next hx => exact h.append (List.nodup_singleton _) (by simpa using hx)

theorem mem_putBy {x z : α} {ys : List α} (h : z ∈ putBy key x ys) : z = x ∨ z ∈ ys := by
  induction ys with
  | nil => exact Or.inl (by simpa [putBy] using h)
  | cons y ys ih =>
    rw [putBy] at h
    split at h
    · rcases List.mem_cons.1 h with rfl | hz
      · exact Or.inl rfl
      · exact Or.inr (List.mem_cons_of_mem _ hz)
    · rcases List.mem_cons.1 h with rfl | hz
      · exact Or.inr List.mem_cons_self
      · exact (ih hz).imp_right (List.mem_cons_of_mem _)

theorem mem_putBy_self {x : α} {ys : List α} : x ∈ putBy key x ys := by
  induction ys with
  | nil => exact List.mem_singleton_self x
  | cons y ys ih =>
    rw [putBy]
    split
    · exact List.mem_cons_self
    · exact List.mem_cons_of_mem y ih

/-- Items with other keys stay. -/
theorem mem_putBy_of_ne {x z : α} {ys : List α} (hz : z ∈ ys) (hne : key z ≠ key x) :
    z ∈ putBy key x ys := by
  induction ys with
  | nil => exact absurd hz List.not_mem_nil
  | cons y ys ih =>
    rw [putBy]
    split
    · next hy =>
      rcases List.mem_cons.1 hz with rfl | hz
      · exact absurd hy hne
      · exact List.mem_cons_of_mem x hz
    · rcases List.mem_cons.1 hz with rfl | hz
      · exact List.mem_cons_self
      · exact List.mem_cons_of_mem y (ih hz)

/-- An item with a new key goes to the end. -/
theorem putBy_of_not_mem {x : α} {ys : List α} (h : key x ∉ ys.map key) :
    putBy key x ys = ys ++ [x] := by
  induction ys with
  | nil => rfl
  | cons y ys ih =>
    simp only [List.map_cons, List.mem_cons, not_or] at h
    rw [putBy, if_neg (Ne.symm h.1), ih h.2, List.cons_append]

/-- What is read off the items grows at its end **exactly if** the key is new. -/
theorem map_putBy_eq_concat_iff {β : Type} (f : α → β) {x : α} {ys : List α} :
    (putBy key x ys).map f = ys.map f ++ [f x] ↔ key x ∉ ys.map key := by
  constructor
  · intro h hmem
    have hkeys : (putBy key x ys).length = ys.length := by
      have hmap := congrArg List.length (map_putBy key x ys)
      rwa [if_pos hmem, List.length_map, List.length_map] at hmap
    have hlength := congrArg List.length h
    rw [List.length_append, List.length_map, List.length_map, List.length_singleton] at hlength
    omega
  · intro h
    rw [putBy_of_not_mem key h, List.map_append, List.map_singleton]

/-- Putting an item adds at most itself to what is counted: another item may have to go for it. -/
theorem countP_putBy_le (q : α → Bool) (x : α) (ys : List α) :
    (putBy key x ys).countP q ≤ ys.countP q + if q x then 1 else 0 := by
  induction ys with
  | nil => simp [putBy, List.countP_cons]
  | cons y ys ih =>
    rw [putBy]
    split
    · rw [List.countP_cons, List.countP_cons]
      omega
    · rw [List.countP_cons, List.countP_cons]
      omega

/-! ### Of several items with one key the last -/

private theorem foldl_putBy_of_nodup (xs : List α) {acc : List α}
    (h : ((acc ++ xs).map key).Nodup) :
    xs.foldl (fun acc x ↦ putBy key x acc) acc = acc ++ xs := by
  induction xs generalizing acc with
  | nil => simp
  | cons x xs ih =>
    have hx : key x ∉ acc.map key := by
      rw [List.map_append, List.map_cons, List.nodup_append] at h
      exact fun hmem ↦ h.2.2 _ hmem _ List.mem_cons_self rfl
    rw [List.foldl_cons, putBy_of_not_mem key hx, ih (by simpa using h), List.append_assoc,
      List.singleton_append]

private theorem nodup_foldl_putBy (xs : List α) {acc : List α} (h : (acc.map key).Nodup) :
    ((xs.foldl (fun acc x ↦ putBy key x acc) acc).map key).Nodup := by
  induction xs generalizing acc with
  | nil => exact h
  | cons x xs ih => exact ih (nodup_putBy key x h)

/-- Settled keys are distinct. -/
theorem nodup_keyedBy (xs : List α) : ((keyedBy key xs).map key).Nodup :=
  nodup_foldl_putBy key xs List.nodup_nil

/-- **Distinct keys leave nothing to settle.** -/
theorem keyedBy_of_nodup {xs : List α} (h : (xs.map key).Nodup) : keyedBy key xs = xs :=
  foldl_putBy_of_nodup key xs (by simpa using h)

private theorem mem_map_foldl_putBy (xs : List α) {acc : List α} {k : String} :
    k ∈ (xs.foldl (fun acc x ↦ putBy key x acc) acc).map key ↔
      k ∈ acc.map key ∨ k ∈ xs.map key := by
  induction xs generalizing acc with
  | nil => simp
  | cons x xs ih =>
    rw [List.foldl_cons, ih, mem_map_putBy, List.map_cons, List.mem_cons]
    tauto

/-- No key is lost, and none is new. -/
theorem mem_map_keyedBy {xs : List α} {k : String} :
    k ∈ (keyedBy key xs).map key ↔ k ∈ xs.map key := by
  simp [keyedBy, mem_map_foldl_putBy]

/-! ### Looking up -/

/-- **Looking up a key finds the item**, where keys are distinct. -/
theorem find?_key_eq_some_iff {xs : List α} (h : (xs.map key).Nodup) {k : String} {x : α} :
    xs.find? (fun y ↦ key y == k) = some x ↔ x ∈ xs ∧ key x = k := by
  constructor
  · intro hf
    exact ⟨List.mem_of_find?_eq_some hf, by simpa using List.find?_some hf⟩
  · rintro ⟨hx, rfl⟩
    rcases hf : xs.find? (fun y ↦ key y == key x) with - | y
    · exact absurd (List.find?_eq_none.1 hf x hx) (by simp)
    · have hk : key y = key x := by simpa using List.find?_some hf
      rw [List.inj_on_of_nodup_map h (List.mem_of_find?_eq_some hf) hx hk]

/-- Nothing is found under a key exactly if the key is not there. -/
theorem find?_key_eq_none_iff {xs : List α} {k : String} :
    (xs.find? fun y ↦ key y == k) = none ↔ k ∉ xs.map key := by
  simp [List.find?_eq_none]

/-- Changing the items in place, their keys kept, changes what is found. -/
theorem find?_key_map {xs : List α} {f : α → α} (hf : ∀ x ∈ xs, key (f x) = key x) {k : String} :
    ((xs.map f).find? fun y ↦ key y == k) = (xs.find? fun y ↦ key y == k).map f := by
  induction xs with
  | nil => rfl
  | cons x xs ih =>
    have hx : key (f x) = key x := hf x List.mem_cons_self
    rw [List.map_cons, List.find?_cons, List.find?_cons, hx]
    by_cases h : key x == k
    · simp [h]
    · simpa [h] using ih fun y hy ↦ hf y (List.mem_cons_of_mem _ hy)

/-- What was put is found under its key. -/
theorem find?_putBy_self (x : α) (ys : List α) :
    ((putBy key x ys).find? fun y ↦ key y == key x) = some x := by
  induction ys with
  | nil => simp [putBy]
  | cons y ys ih =>
    rw [putBy]
    split
    · simp
    · next h => rw [List.find?_cons_of_neg (by simpa using h), ih]

/-- Under any other key the same is found. -/
theorem find?_putBy_of_ne {x : α} {k : String} (h : key x ≠ k) (ys : List α) :
    ((putBy key x ys).find? fun y ↦ key y == k) = ys.find? fun y ↦ key y == k := by
  induction ys with
  | nil => simp [putBy, h]
  | cons y ys ih =>
    rw [putBy]
    split
    · next heq =>
      rw [List.find?_cons_of_neg (by simpa using h),
        List.find?_cons_of_neg (by simpa [heq] using h)]
    · rw [List.find?_cons, List.find?_cons, ih]

/-- Of items with distinct keys, leaving one out by its key takes away the one at its place. -/
theorem filter_key_ne_eq_eraseIdx {x : α} {ys : List α} (h : (ys.map key).Nodup) {i : Nat}
    (hx : ys[i]? = some x) : (ys.filter fun y ↦ key y != key x) = ys.eraseIdx i := by
  induction ys generalizing i with
  | nil => exact absurd hx (by simp)
  | cons y ys ih =>
    rw [List.map_cons, List.nodup_cons] at h
    cases i with
    | zero =>
      obtain rfl : y = x := by simpa using hx
      have hrest : ∀ z ∈ ys, (key z != key y) = true := by
        intro z hz
        have hne : key z ≠ key y := fun heq ↦ h.1 (heq ▸ List.mem_map_of_mem hz)
        simpa using hne
      rw [List.filter_cons_of_neg (by simp), List.filter_eq_self.2 hrest, List.eraseIdx_cons_zero]
    | succ i =>
      rw [List.getElem?_cons_succ] at hx
      have hne : key y ≠ key x := fun heq ↦
        h.1 (heq ▸ List.mem_map_of_mem (List.mem_of_getElem? hx))
      rw [List.filter_cons_of_pos (by simpa using hne), ih h.2 hx, List.eraseIdx_cons_succ]

theorem exists_of_forall₂ {β : Type} {R : α → β → Prop} {xs : List α} {ys : List β}
    (h : List.Forall₂ R xs ys) {y : β} (hy : y ∈ ys) : ∃ x ∈ xs, R x y := by
  induction h with
  | nil => exact absurd hy List.not_mem_nil
  | @cons a b as bs hab _ ih =>
    rcases List.mem_cons.1 hy with rfl | hy
    · exact ⟨a, List.mem_cons_self, hab⟩
    · obtain ⟨x, hx, hxy⟩ := ih hy
      exact ⟨x, List.mem_cons_of_mem a hx, hxy⟩

theorem map_forall₂ {β γ : Type} {f : α → γ} {g : β → γ} {R : α → β → Prop}
    (hR : ∀ x y, R x y → g y = f x) {xs : List α} {ys : List β} (h : List.Forall₂ R xs ys) :
    ys.map g = xs.map f := by
  induction h with
  | nil => rfl
  | cons hab _ ih => rw [List.map_cons, List.map_cons, hR _ _ hab, ih]

/-- Items changed one by one, their keys kept, are found under the same key. -/
theorem find?_key_forall₂ {R : α → α → Prop} (hR : ∀ {x y}, R x y → key y = key x)
    {xs ys : List α} (h : List.Forall₂ R xs ys) {k : String} {x : α}
    (hx : (xs.find? fun y ↦ key y == k) = some x) :
    ∃ y, (ys.find? fun y ↦ key y == k) = some y ∧ R x y := by
  induction h with
  | nil => simp at hx
  | @cons a b as bs hab _ ih =>
    rw [List.find?_cons] at hx ⊢
    rw [hR hab]
    by_cases hk : key a == k
    · simp only [hk, Option.some.injEq] at hx ⊢
      exact ⟨b, rfl, hx ▸ hab⟩
    · simp only [hk] at hx ⊢
      exact ih hx

end FlowCanvas.Canvas
