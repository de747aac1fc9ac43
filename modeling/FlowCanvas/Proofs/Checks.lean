/-!
# Sequences of checks

Operations and documents are checked step by step, and the first check that fails ends the whole.
The lemmas here say what it means that such a sequence came through: **every** check in it did. They
are stated for any type of faults, since canvases and documents have different ones.
-/

namespace FlowCanvas.Checks

variable {ε α β : Type}

/-- A check that is followed by another came through if both did. -/
theorem bind_eq_ok_iff {x : Except ε α} {f : α → Except ε β} {b : β} :
    (x >>= f) = .ok b ↔ ∃ a, x = .ok a ∧ f a = .ok b := by
  cases x with
  | error e => simp [bind, Except.bind]
  | ok a => simp [bind, Except.bind]

/-- Two checks in a row came through if both did. -/
theorem andThen_eq_ok_iff {x : Except ε Unit} {y : Except ε β} {b : β} :
    (x >>= fun _ ↦ y) = .ok b ↔ x = .ok () ∧ y = .ok b := by
  rw [bind_eq_ok_iff]
  exact ⟨fun ⟨_, hx, hy⟩ ↦ ⟨hx, hy⟩, fun ⟨hx, hy⟩ ↦ ⟨(), hx, hy⟩⟩

theorem map_eq_ok_iff {x : Except ε α} {f : α → β} {b : β} :
    x.map f = .ok b ↔ ∃ a, x = .ok a ∧ f a = b := by
  cases x with
  | error e => simp [Except.map]
  | ok a => simp [Except.map]

theorem mapError_eq_error_iff {ε' : Type} {x : Except ε α} {f : ε → ε'} {e' : ε'} :
    x.mapError f = .error e' ↔ ∃ e, x = .error e ∧ f e = e' := by
  cases x with
  | error e =>
    show (.error (f e) : Except ε' α) = .error e' ↔ _
    simp
  | ok a =>
    show (.ok a : Except ε' α) = .error e' ↔ _
    simp

/-- Naming a fault otherwise makes no difference to what passes. -/
theorem mapError_eq_ok_iff {ε' : Type} {x : Except ε α} {f : ε → ε'} {a : α} :
    x.mapError f = .ok a ↔ x = .ok a := by
  cases x with
  | error e =>
    show (.error (f e) : Except ε' α) = .ok a ↔ _
    simp
  | ok b =>
    show (.ok b : Except ε' α) = .ok a ↔ _
    simp

/-- For a closed computation whose result is known, the left side can be decided. -/
theorem toOption_eq_some_iff {x : Except ε α} {a : α} : x.toOption = some a ↔ x = .ok a := by
  cases x with
  | error e => simp [Except.toOption]
  | ok a => simp [Except.toOption]

theorem pure_eq_ok_iff {a b : α} : (pure a : Except ε α) = .ok b ↔ a = b := by
  simp [pure, Except.pure]

/-- A guard that refuses came through if its condition does not hold. -/
theorem guard_eq_ok_iff {q : Prop} [Decidable q] {e : ε} {x : Except ε β} {b : β} :
    (if q then .error e else x) = .ok b ↔ ¬ q ∧ x = .ok b := by
  split <;> simp_all

theorem throw_eq_ok_iff {e : ε} {a : α} : (throw e : Except ε α) = .ok a ↔ False := by
  simp [throw, throwThe, MonadExceptOf.throw]

/-- A guard in a sequence of checks is passed if its condition does not hold. -/
theorem ite_throw_eq_ok_iff {q : Prop} [Decidable q] {e : ε} {f : α → Except ε β}
    {x : Except ε β} {b : β} :
    (if q then (throw e : Except ε α) >>= f else x) = .ok b ↔ ¬ q ∧ x = .ok b := by
  split
  · next h => simp [bind_eq_ok_iff, throw_eq_ok_iff, h]
  · next h => simp [h]

end FlowCanvas.Checks
