import FlowCanvas.Number.Binary
import FlowCanvas.Value.Basic

/-!
# Equality of values

Two notions. `=` is equality of the data and is decidable. `same` is the equality of the domain:
numbers compare by value (`1`, `1.0` and `true` are the same), a NaN is not the same as itself, and
the order of an object's fields does not matter.
-/

namespace FlowCanvas.Value

/-! ### Equality of the data -/

mutual

/-- Decides equality of two values. -/
def decEq : (a b : Value) → Decidable (a = b)
  | null, null => isTrue rfl
  | callback, callback => isTrue rfl
  | bool x, bool y => decidable_of_iff (x = y) (by simp)
  | int x, int y => decidable_of_iff (x = y) (by simp)
  | float x, float y => decidable_of_iff (x = y) (by simp)
  | text x, text y => decidable_of_iff (x = y) (by simp)
  | argument n t, argument n' t' => decidable_of_iff (n = n' ∧ t = t') (by simp)
  | point x y, point x' y' =>
    match decEq x x', decEq y y' with
    | isTrue h, isTrue h' => isTrue (by rw [h, h'])
    | isFalse h, _ => isFalse (by intro e; cases e; exact h rfl)
    | _, isFalse h => isFalse (by intro e; cases e; exact h rfl)
  | list xs, list ys =>
    match decEqItems xs ys with
    | isTrue h => isTrue (by rw [h])
    | isFalse h => isFalse (by intro e; cases e; exact h rfl)
  | object xs, object ys =>
    match decEqFields xs ys with
    | isTrue h => isTrue (by rw [h])
    | isFalse h => isFalse (by intro e; cases e; exact h rfl)
  | null, bool _ | null, int _ | null, float _ | null, text _ | null, list _ | null, object _
  | null, argument _ _ | null, point _ _ | null, callback => isFalse nofun
  | bool _, null | bool _, int _ | bool _, float _ | bool _, text _ | bool _, list _
  | bool _, object _ | bool _, argument _ _ | bool _, point _ _ | bool _, callback => isFalse nofun
  | int _, null | int _, bool _ | int _, float _ | int _, text _ | int _, list _ | int _, object _
  | int _, argument _ _ | int _, point _ _ | int _, callback => isFalse nofun
  | float _, null | float _, bool _ | float _, int _ | float _, text _ | float _, list _
  | float _, object _ | float _, argument _ _ | float _, point _ _
  | float _, callback => isFalse nofun
  | text _, null | text _, bool _ | text _, int _ | text _, float _ | text _, list _
  | text _, object _ | text _, argument _ _ | text _, point _ _ | text _, callback => isFalse nofun
  | list _, null | list _, bool _ | list _, int _ | list _, float _ | list _, text _
  | list _, object _ | list _, argument _ _ | list _, point _ _ | list _, callback => isFalse nofun
  | object _, null | object _, bool _ | object _, int _ | object _, float _ | object _, text _
  | object _, list _ | object _, argument _ _ | object _, point _ _
  | object _, callback => isFalse nofun
  | argument _ _, null | argument _ _, bool _ | argument _ _, int _ | argument _ _, float _
  | argument _ _, text _ | argument _ _, list _ | argument _ _, object _ | argument _ _, point _ _
  | argument _ _, callback => isFalse nofun
  | point _ _, null | point _ _, bool _ | point _ _, int _ | point _ _, float _ | point _ _, text _
  | point _ _, list _ | point _ _, object _ | point _ _, argument _ _
  | point _ _, callback => isFalse nofun
  | callback, null | callback, bool _ | callback, int _ | callback, float _ | callback, text _
  | callback, list _ | callback, object _ | callback, argument _ _
  | callback, point _ _ => isFalse nofun

/-- Decides equality of two lists of values. -/
def decEqItems : (xs ys : List Value) → Decidable (xs = ys)
  | [], [] => isTrue rfl
  | [], _ :: _ | _ :: _, [] => isFalse nofun
  | x :: xs, y :: ys =>
    match decEq x y, decEqItems xs ys with
    | isTrue h, isTrue h' => isTrue (by rw [h, h'])
    | isFalse h, _ => isFalse (by intro e; cases e; exact h rfl)
    | _, isFalse h => isFalse (by intro e; cases e; exact h rfl)

/-- Decides equality of two lists of entries. -/
def decEqFields : (xs ys : List (String × Value)) → Decidable (xs = ys)
  | [], [] => isTrue rfl
  | [], _ :: _ | _ :: _, [] => isFalse nofun
  | (k, x) :: xs, (l, y) :: ys =>
    if hk : k = l then
      match decEq x y, decEqFields xs ys with
      | isTrue h, isTrue h' => isTrue (by rw [hk, h, h'])
      | isFalse h, _ => isFalse (by intro e; cases e; exact h rfl)
      | _, isFalse h => isFalse (by intro e; cases e; exact h rfl)
    else isFalse (by intro e; cases e; exact hk rfl)

end

instance : DecidableEq Value := decEq

/-! ### Equality of the domain -/

/-- The whole number a value stands for, where `true` counts as one and `false` as zero. -/
def whole? : Value → Option Int
  | bool b => some (if b then 1 else 0)
  | int n => some n
  | float x => Number.wholeValue? x
  | _ => none

/-- Whether two scalar values are the same number, text or mark. -/
def sameScalar : Value → Value → Bool
  | null, null => true
  | callback, callback => true
  | text s, text t => s == t
  | argument n t, argument n' t' => n == n' && t == t'
  | float x, float y => x == y
  | v, w =>
    match v.whole?, w.whole? with
    | some m, some n => m == n
    | _, _ => false

mutual

/-- Whether two values are the same in the domain. -/
def same : Value → Value → Bool
  | list xs, w =>
    match w with
    | list ys => sameItems xs ys
    | _ => false
  | object xs, w =>
    match w with
    | object ys => xs.length == ys.length && sameFields xs ys
    | _ => false
  | point x y, w =>
    match w with
    | point x' y' => same x x' && same y y'
    | _ => false
  | v, w => sameScalar v w

/-- Whether two lists hold the same values in the same order. -/
def sameItems : List Value → List Value → Bool
  | [], [] => true
  | x :: xs, y :: ys => same x y && sameItems xs ys
  | _, _ => false

/-- Whether every entry of the first list has an entry of the same value in the second. -/
def sameFields : List (String × Value) → List (String × Value) → Bool
  | [], _ => true
  | (k, x) :: xs, ys =>
    (match Fields.get? ys k with
      | some y => same x y
      | none => false) && sameFields xs ys

end

end FlowCanvas.Value
