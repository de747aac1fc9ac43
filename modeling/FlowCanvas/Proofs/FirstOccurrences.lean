import Mathlib.Data.List.Basic
import Mathlib.Data.List.Nodup

/-!
# First occurrences

Names that were met several times are listed once, where they were first met. `FirstOccurrences`
says what such a list is, and `List.eraseDups` gives it (`firstOccurrences_eraseDups`).
-/

namespace FlowCanvas

variable {names : List String}

/-- The first occurrences in a list: what is in it, each once, in the order in which it first
occurs. -/
structure FirstOccurrences (names firsts : List String) : Prop where
  mem_iff : ∀ name, name ∈ firsts ↔ name ∈ names
  ordered : firsts.Pairwise fun a b ↦ names.idxOf a < names.idxOf b

theorem FirstOccurrences.nodup {firsts : List String} (h : FirstOccurrences names firsts) :
    firsts.Nodup := by
  refine h.ordered.imp ?_
  rintro a _ hlt rfl
  exact Nat.lt_irrefl _ hlt

/-- Leaving out what is not wanted does not change which of two others is first. -/
theorem idxOf_filter_lt {keep : String → Bool} {a b : String} (ha : keep a = true)
    (hb : keep b = true) (h : (names.filter keep).idxOf a < (names.filter keep).idxOf b) :
    names.idxOf a < names.idxOf b := by
  induction names with
  | nil => exact absurd h (by simp)
  | cons n names ih =>
    cases hn : keep n with
    | false =>
      have hna : n ≠ a := fun heq ↦ absurd (heq ▸ ha) (by simp [hn])
      have hnb : n ≠ b := fun heq ↦ absurd (heq ▸ hb) (by simp [hn])
      rw [List.filter_cons_of_neg (by simp [hn])] at h
      rw [List.idxOf_cons_ne _ hna, List.idxOf_cons_ne _ hnb]
      exact Nat.succ_lt_succ (ih h)
    | true =>
      rw [List.filter_cons_of_pos hn] at h
      by_cases hnb : n = b
      · rw [hnb, List.idxOf_cons_self] at h
        exact absurd h (Nat.not_lt_zero _)
      · by_cases hna : n = a
        · rw [hna, List.idxOf_cons_self, List.idxOf_cons_ne _ (hna ▸ hnb)]
          exact Nat.succ_pos _
        · rw [List.idxOf_cons_ne _ hna, List.idxOf_cons_ne _ hnb] at h ⊢
          exact Nat.succ_lt_succ (ih (Nat.lt_of_succ_lt_succ h))

/-- **Dropping duplicates keeps the first occurrences.** -/
theorem firstOccurrences_eraseDups (names : List String) :
    FirstOccurrences names names.eraseDups := by
  refine ⟨fun _ ↦ List.mem_eraseDups, ?_⟩
  -- By the length: what is left out behind the first name may be anywhere.
  induction hlength : names.length using Nat.strongRecOn generalizing names with
  | ind n ih =>
    cases names with
    | nil => exact .nil
    | cons a names =>
      have hshort : (names.filter fun b ↦ !b == a).length < n := by
        have := List.length_filter_le (fun b ↦ !b == a) names
        rw [List.length_cons] at hlength
        omega
      have hother : ∀ b ∈ (names.filter fun b ↦ !b == a).eraseDups, (!b == a) = true :=
        fun b hb ↦ (List.mem_filter.1 (List.mem_eraseDups.1 hb)).2
      have hne : ∀ b ∈ (names.filter fun b ↦ !b == a).eraseDups, a ≠ b := by
        rintro b hb rfl
        exact absurd (hother a hb) (by simp)
      rw [List.eraseDups_cons]
      refine .cons (fun b hb ↦ ?_) ?_
      · rw [List.idxOf_cons_self, List.idxOf_cons_ne _ (hne b hb)]
        exact Nat.succ_pos _
      · refine List.Pairwise.imp_of_mem ?_ (ih _ hshort _ rfl)
        intro b c hb hc hlt
        rw [List.idxOf_cons_ne _ (hne b hb), List.idxOf_cons_ne _ (hne c hc)]
        exact Nat.succ_lt_succ (idxOf_filter_lt (hother b hb) (hother c hc) hlt)

end FlowCanvas
