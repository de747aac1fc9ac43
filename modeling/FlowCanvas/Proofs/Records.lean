import FlowCanvas.Value.Basic
import Mathlib.Data.List.Nodup

/-!
# Ordered records

What later modules need to know about records, whatever they hold: what is found under a name, which
entries there are after writing, and that names stay distinct. A record with distinct names is found
as it stands (`get?_of_mem`), and settling its names changes nothing (`ofList_of_nodup`).

The last part is about values whose objects repeat no name, at any depth. That is a matter of
`Value.settled`, which leaves such values as they are, and every part of them too.
-/

namespace FlowCanvas

namespace Fields

variable {α β : Type} {fields patch : Fields α} {key : String} {v value : α} {e : String × α}

/-! ### Looking up and writing -/

theorem mem_of_get? (h : get? fields key = some v) : (key, v) ∈ fields := by
  induction fields with
  | nil => simp at h
  | cons e rest ih =>
    obtain ⟨k, w⟩ := e
    by_cases hk : k = key
    · obtain rfl : w = v := by simpa [get?, hk] using h
      exact hk ▸ List.mem_cons_self
    · rw [get?, if_neg hk] at h
      exact List.mem_cons_of_mem _ (ih h)

/-- Writing what is there already changes nothing. -/
theorem set_of_get? (h : get? fields key = some v) : set fields key v = fields := by
  induction fields with
  | nil => simp at h
  | cons e rest ih =>
    obtain ⟨k, w⟩ := e
    by_cases hk : k = key
    · obtain rfl : w = v := by simpa [get?, hk] using h
      rw [set, if_pos hk]
    · rw [get?, if_neg hk] at h
      rw [set, if_neg hk, ih h]

/-- A new name is written at the end. -/
theorem set_of_not_mem (h : key ∉ keys fields) : set fields key v = fields ++ [(key, v)] := by
  induction fields with
  | nil => rfl
  | cons e rest ih =>
    obtain ⟨k, w⟩ := e
    simp only [keys, List.map_cons, List.mem_cons, not_or] at h
    rw [set, if_neg fun hk ↦ h.1 hk.symm, ih h.2, List.cons_append]

/-- Entries under new and distinct names are appended in their order. -/
theorem merge_of_disjoint (hnew : ∀ e ∈ patch, e.1 ∉ keys fields)
    (hdistinct : (keys patch).Nodup) : merge fields patch = fields ++ patch := by
  induction patch generalizing fields with
  | nil => simp [merge]
  | cons e rest ih =>
    obtain ⟨hfirst, hrest⟩ := List.forall_mem_cons.1 hnew
    obtain ⟨hmem, hdistinct⟩ := List.nodup_cons.1 hdistinct
    have hmerge : merge fields (e :: rest) = merge (set fields e.1 e.2) rest := rfl
    rw [hmerge, set_of_not_mem hfirst, ih _ hdistinct]
    · simp
    · intro e' he'
      have hne : e'.1 ≠ e.1 := fun heq ↦ hmem (heq ▸ List.mem_map_of_mem he')
      have hold : e'.1 ∉ keys fields := hrest e' he'
      simpa [keys, hne] using hold

theorem mem_of_mem_set (h : e ∈ set fields key value) : e = (key, value) ∨ e ∈ fields := by
  induction fields with
  | nil => exact .inl (List.mem_singleton.1 h)
  | cons entry rest ih =>
    obtain ⟨k, v⟩ := entry
    rw [set] at h
    split at h
    · next hk =>
      subst hk
      exact (List.mem_cons.1 h).imp_right (List.mem_cons_of_mem _)
    · rcases List.mem_cons.1 h with rfl | h
      · exact .inr List.mem_cons_self
      · exact (ih h).imp_right (List.mem_cons_of_mem _)

/-- What is found after writing an entry is that entry, or was found before. -/
theorem get?_of_get?_set {other : String}
    (h : get? (set fields key value) other = some v) :
    (other, v) = (key, value) ∨ get? fields other = some v := by
  by_cases hkey : key = other
  · subst hkey
    rw [get?_set_self] at h
    exact .inl (by rw [Option.some.inj h])
  · rw [get?_set_of_ne fields value hkey] at h
    exact .inr h

/-! ### Distinct names -/

/-- Writing over an entry leaves the names in their order. -/
theorem keys_set_of_mem (h : key ∈ keys fields) : keys (set fields key value) = keys fields := by
  induction fields with
  | nil => exact absurd h List.not_mem_nil
  | cons e rest ih =>
    obtain ⟨k, v⟩ := e
    rw [set]
    split
    · rfl
    · next hk =>
      have hrest : key ∈ keys rest := (List.mem_cons.1 h).resolve_left fun heq ↦ hk heq.symm
      exact congrArg (k :: ·) (ih hrest)

/-- **Writing an entry never repeats a name.** -/
theorem nodup_keys_set (h : (keys fields).Nodup) : (keys (set fields key value)).Nodup := by
  by_cases hmem : key ∈ keys fields
  · rwa [keys_set_of_mem hmem]
  · rw [set_of_not_mem hmem, keys, List.map_append]
    exact h.append (List.nodup_singleton _) (by simpa [keys] using hmem)

/-- Nor does writing all the entries of a patch. -/
theorem nodup_keys_merge (h : (keys fields).Nodup) (patch : Fields α) :
    (keys (merge fields patch)).Nodup := by
  induction patch generalizing fields with
  | nil => exact h
  | cons e rest ih => exact ih (nodup_keys_set h)

theorem nodup_keys_ofList (entries : List (String × α)) : (keys (ofList entries)).Nodup :=
  have hnil : (keys ([] : Fields α)).Nodup := List.nodup_nil
  nodup_keys_merge hnil entries

/-- Where no name is repeated, every entry is found under its name. -/
theorem get?_of_mem (h : (keys fields).Nodup) (he : e ∈ fields) :
    get? fields e.1 = some e.2 := by
  induction fields with
  | nil => exact absurd he List.not_mem_nil
  | cons first rest ih =>
    obtain ⟨hfirst, hrest⟩ := List.nodup_cons.1 h
    rcases List.mem_cons.1 he with rfl | he
    · rw [get?, if_pos rfl]
    · have hne : first.1 ≠ e.1 := fun heq ↦ hfirst (heq ▸ List.mem_map_of_mem he)
      rw [get?, if_neg hne, ih hrest he]

theorem mem_keys_set {k : String} :
    k ∈ keys (set fields key value) ↔ k = key ∨ k ∈ keys fields := by
  by_cases hmem : key ∈ keys fields
  · rw [keys_set_of_mem hmem]
    exact ⟨.inr, fun h ↦ h.elim (fun heq ↦ heq ▸ hmem) id⟩
  · rw [set_of_not_mem hmem, keys, List.map_append, List.mem_append, or_comm]
    exact or_congr_left List.mem_singleton

/-- Merging loses no name. -/
theorem mem_keys_merge {k : String} :
    k ∈ keys (merge fields patch) ↔ k ∈ keys fields ∨ k ∈ keys patch := by
  induction patch generalizing fields with
  | nil => exact (or_iff_left List.not_mem_nil).symm
  | cons e rest ih =>
    have hmerge : merge fields (e :: rest) = merge (set fields e.1 e.2) rest := rfl
    have hkeys : keys (e :: rest) = e.1 :: keys rest := rfl
    rw [hmerge, ih, mem_keys_set, hkeys, List.mem_cons, or_assoc, or_left_comm]

/-- What has a name is found under it. -/
theorem exists_get?_iff : (∃ v, get? fields key = some v) ↔ key ∈ keys fields := by
  constructor
  · rintro ⟨v, hv⟩
    exact List.mem_map.2 ⟨(key, v), mem_of_get? hv, rfl⟩
  · intro h
    induction fields with
    | nil => exact absurd h List.not_mem_nil
    | cons e rest ih =>
      rw [get?]
      split
      · exact ⟨e.2, rfl⟩
      · next hne => exact ih ((List.mem_cons.1 h).resolve_left fun heq ↦ hne heq.symm)

theorem get?_mapValues (f : α → β) (fields : Fields α) (key : String) :
    get? (mapValues f fields) key = (get? fields key).map f := by
  induction fields with
  | nil => rfl
  | cons e rest ih =>
    have hmap : mapValues f (e :: rest) = (e.1, f e.2) :: mapValues f rest := rfl
    rw [hmap, get?, get?, ih]
    split <;> rfl

/-- What is left out by its name is not found, and all else is found as before. -/
theorem get?_filter (keep : String → Bool) (fields : Fields α) (key : String) :
    get? (fields.filter fun e ↦ keep e.1) key = if keep key then get? fields key else none := by
  induction fields with
  | nil => simp
  | cons e rest ih =>
    rw [List.filter_cons]
    by_cases hkey : e.1 = key
    · subst hkey
      by_cases hkeep : keep e.1 = true <;> simp [hkeep, get?, ih]
    · by_cases hkeep : keep e.1 = true <;> simp [hkeep, get?, hkey, ih]

/-- What was written last is found first. -/
theorem get?_merge (h : (keys patch).Nodup) (fields : Fields α) (key : String) :
    get? (merge fields patch) key = (get? patch key).or (get? fields key) := by
  induction patch generalizing fields with
  | nil => rfl
  | cons e rest ih =>
    obtain ⟨hfirst, hrest⟩ := List.nodup_cons.1 h
    have hmerge : merge fields (e :: rest) = merge (set fields e.1 e.2) rest := rfl
    rw [hmerge, ih hrest, get?]
    by_cases hkey : e.1 = key
    · subst hkey
      have hnone : get? rest e.1 = none := by
        refine Option.eq_none_iff_forall_ne_some.2 fun v hv ↦ hfirst ?_
        exact List.mem_map.2 ⟨(e.1, v), mem_of_get? hv, rfl⟩
      rw [if_pos rfl, hnone, get?_set_self]
      rfl
    · rw [if_neg hkey, get?_set_of_ne fields e.2 hkey]

/-- Distinct names leave nothing to settle. -/
theorem ofList_of_nodup (h : (keys fields).Nodup) : ofList fields = fields :=
  merge_of_disjoint (fun _ _ ↦ List.not_mem_nil) h

end Fields

/-! ### Objects that repeat no name -/

namespace Value

variable {fields : Fields Value} {items : List Value}

theorem text?_eq_some_iff {v : Value} {s : String} : v.text? = some s ↔ v = text s := by
  cases v <;> simp [text?]

theorem keys_settledEntries (entries : List (String × Value)) :
    Fields.keys (settledEntries entries) = Fields.keys entries := by
  induction entries with
  | nil => rw [settledEntries]
  | cons e rest ih =>
    rw [settledEntries]
    exact congrArg (e.1 :: ·) ih

/-- **A settled object repeats no name.** -/
theorem nodup_keys_settledFields (entries : List (String × Value)) :
    (Fields.keys (settledFields entries)).Nodup := by
  rw [settledFields]
  exact Fields.nodup_keys_ofList (settledEntries entries)

/-- The names of an object that settling leaves as it is are distinct. -/
theorem nodup_of_settled (h : settled (.object fields) = .object fields) :
    (Fields.keys fields).Nodup := by
  rw [settled, object.injEq] at h
  rw [← h]
  exact nodup_keys_settledFields fields

/-- **The parts of an object that settling leaves as it is are left as they are, too.** -/
theorem settled_of_get? (h : settled (.object fields) = .object fields) {key : String} {v : Value}
    (hv : Fields.get? fields key = some v) : settled v = v := by
  have hentries : settledEntries fields = fields := by
    have hnodup : (Fields.keys (settledEntries fields)).Nodup := by
      rw [keys_settledEntries]
      exact nodup_of_settled h
    rw [settled, object.injEq, settledFields] at h
    exact (Fields.ofList_of_nodup hnodup).symm.trans h
  have hmem : (key, v) ∈ fields := Fields.mem_of_get? hv
  clear h hv
  induction fields with
  | nil => exact absurd hmem List.not_mem_nil
  | cons e rest ih =>
    rw [settledEntries, List.cons.injEq] at hentries
    obtain ⟨hfirst, hrest⟩ := hentries
    rcases List.mem_cons.1 hmem with rfl | hmem
    · exact congrArg Prod.snd hfirst
    · exact ih hrest hmem

/-- The items of a settled list are settled. -/
theorem settled_of_mem (h : settled (.list items) = .list items) : ∀ v ∈ items, settled v = v := by
  rw [settled, list.injEq] at h
  induction items with
  | nil => exact fun _ hv ↦ absurd hv List.not_mem_nil
  | cons v rest ih =>
    rw [settledItems, List.cons.injEq] at h
    exact List.forall_mem_cons.2 ⟨h.1, ih h.2⟩

end Value

end FlowCanvas
