import FlowCanvas.Value.Coerce

/-!
# Reckoning with values

Sum, difference and order of values that are no more than values. The sum of two integers is an
integer, any other sum of numbers a float; points add coordinate by coordinate, and texts and lists
are joined. Numbers compare by value, texts and lists item by item. What is left has no sum and no
order.
-/

namespace FlowCanvas.Value

/-! ### Sum and difference -/

/-- Combines two numbers: integers exactly, others as floats. -/
def combineNumbers (whole : Int → Int → Int) (real : Float → Float → Float) (v w : Value) :
    Except NumberFault Value :=
  let floats : Except NumberFault Value :=
    match v.toFloat, w.toFloat with
    | .ok x, .ok y => .ok (.float (real x y))
    | .error why, _ | _, .error why => .error why
  match v, w with
  | .text _, _ | _, .text _ => .error .notNumeric
  | .float _, _ | _, .float _ => floats
  | _, _ =>
    match v.integer?, w.integer? with
    | some m, some n => .ok (.int (whole m n))
    | _, _ => .error .notNumeric

/-- The sum of two values. -/
def plus : Value → Value → Except NumberFault Value
  | point x y, w =>
    match w with
    | point x' y' =>
      match plus x x', plus y y' with
      | .ok a, .ok b => .ok (point a b)
      | .error why, _ | .ok _, .error why => .error why
    | _ => .error .notPoint
  | text s, text t => .ok (text (s ++ t))
  | list vs, list ws => .ok (list (vs ++ ws))
  | v, w => combineNumbers (· + ·) (· + ·) v w

/-- The difference of two values. -/
def minus : Value → Value → Except NumberFault Value
  | point x y, w =>
    match w with
    | point x' y' =>
      match minus x x', minus y y' with
      | .ok a, .ok b => .ok (point a b)
      | .error why, _ | .ok _, .error why => .error why
    | _ => .error .notPoint
  | v, w => combineNumbers (· - ·) (· - ·) v w

@[simp]
theorem plus_float (x y : Float) : plus (.float x) (.float y) = .ok (.float (x + y)) := by
  simp [plus, combineNumbers, toFloat]

@[simp]
theorem minus_float (x y : Float) : minus (.float x) (.float y) = .ok (.float (x - y)) := by
  simp [minus, combineNumbers, toFloat]

/-! ### Order -/

/-- Compares two numbers by value, given the comparison of floats and that of integers. What is not
finite compares with an integer as it does with zero. -/
def compareNumbers (floats : Float → Float → Bool) (wholes : Int → Int → Bool) :
    Value → Value → Except NumberFault Bool
  | float x, float y => .ok (floats x y)
  | v, w =>
    match v.integer?, w.integer?, v, w with
    | some m, some n, _, _ => .ok (wholes m n)
    | some m, none, _, float y =>
      .ok (match (Number.Binary.ofFloat? y).map Number.Binary.fraction with
        | some (above, below) => wholes (m * below) above
        | none => floats 0 y)
    | none, some n, float x, _ =>
      .ok (match (Number.Binary.ofFloat? x).map Number.Binary.fraction with
        | some (above, below) => wholes above (n * below)
        | none => floats x 0)
    | _, _, _, _ => .error .notNumeric

/-- Whether one number is less than another. -/
def less : Value → Value → Except NumberFault Bool :=
  compareNumbers (fun x y ↦ x < y) fun m n ↦ m < n

mutual

/-- Whether one value is at most another. -/
def atMost : Value → Value → Except NumberFault Bool
  | text s, text t => .ok (s ≤ t)
  | list vs, w =>
    match w with
    | list ws => itemsAtMost vs ws
    | _ => .error .notNumeric
  | v, w => compareNumbers (fun x y ↦ x ≤ y) (fun m n ↦ m ≤ n) v w

/-- Whether items are at most others: the first that differ decide. -/
def itemsAtMost : List Value → List Value → Except NumberFault Bool
  | [], _ => .ok true
  | _ :: _, [] => .ok false
  | v :: vs, w :: ws => if same v w then itemsAtMost vs ws else atMost v w

end

@[simp]
theorem less_float (x y : Float) : less (.float x) (.float y) = .ok (decide (x < y)) := by
  simp [less, compareNumbers]

@[simp]
theorem atMost_float (x y : Float) : atMost (.float x) (.float y) = .ok (decide (x ≤ y)) := by
  simp [atMost, compareNumbers]

end FlowCanvas.Value
