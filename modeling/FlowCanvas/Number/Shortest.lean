import FlowCanvas.Number.Binary

/-!
# The shortest decimal text of a float

A float is written with the fewest digits that read back as the same float. The reals that round to
`m * 2 ^ q` form an interval around it, closed if `m` is even; the text is the multiple of the
largest power of ten in that interval, the nearer one if there are two.

The layout is a matter of its own: a number whose leading digit stands for `10 ^ e` is written
positionally for `-4 ≤ e < 16`, with at least one digit after the point, and otherwise with an
exponent of a sign and at least two digits.
-/

namespace FlowCanvas.Number

/-- The number `digits * 10 ^ exponent`. -/
structure Decimal where
  digits : Nat
  exponent : Int
deriving DecidableEq, Repr

namespace Shortest

/-- The interval of reals that round to a float, its ends and its middle scaled by `4 / 2 ^
exponent` of the float, so that they are whole. -/
structure Interval where
  low : Nat
  middle : Nat
  high : Nat
  closed : Bool
  /-- The power of two that a unit stands for. -/
  unit : Int

/-- The interval of a positive float. Below a power of two the floats lie twice as dense. -/
def Interval.ofBinary (b : Binary) : Interval where
  low := 4 * b.mantissa -
    if b.mantissa = Binary.scaleWeight ∧ Binary.leastExponent < b.exponent then 1 else 2
  middle := 4 * b.mantissa
  high := 4 * b.mantissa + 2
  closed := b.mantissa % 2 = 0
  unit := b.exponent - 2

/-- The multiple of `10 ^ t` in an interval that is nearest to its middle, if there is one. -/
def Interval.multiple? (i : Interval) (t : Int) : Option Nat :=
  let up := Nat.pow 2 i.unit.toNat * Nat.pow 10 (-t).toNat
  let down := Nat.pow 2 (-i.unit).toNat * Nat.pow 10 t.toNat
  let inside (c : Nat) : Bool :=
    if i.closed then i.low * up ≤ c * down && c * down ≤ i.high * up
    else i.low * up < c * down && c * down < i.high * up
  let middle := i.middle * up
  let below := middle / down
  let above := below + 1
  match inside below, inside above with
  | false, false => none
  | true, false => some below
  | false, true => some above
  | true, true =>
    let short := middle - below * down
    let long := above * down - middle
    if short < long || (short == long && below % 2 == 0) then some below else some above

/-- The first multiple found on the grids of `10 ^ t`, `10 ^ (t - 1)`, and so on. -/
def search (i : Interval) : (fuel : Nat) → (t : Int) → Decimal
  | 0, t => ⟨i.middle, t⟩
  | fuel + 1, t =>
    match i.multiple? t with
    | some c => ⟨c, t⟩
    | none => search i fuel (t - 1)

/-- The shortest decimal of a positive float. The search starts above the number, and seventeen
digits always suffice. -/
def decimal (b : Binary) : Decimal :=
  let top := (Int.fdiv ((Nat.log2 b.mantissa + 1 + b.exponent) * 30103) 100000) + 2
  search (Interval.ofBinary b) 24 top

end Shortest

/-- The layout of a decimal number. -/
def Decimal.layout (d : Decimal) : List Char :=
  let digits := Nat.toDigits 10 d.digits
  let count := digits.length
  let point : Int := count + d.exponent
  let exponent := point - 1
  if -4 ≤ exponent ∧ exponent < 16 then
    if point ≤ 0 then '0' :: '.' :: List.replicate (-point).toNat '0' ++ digits
    else if count ≤ point then digits ++ List.replicate (point - count).toNat '0' ++ ['.', '0']
    else digits.take point.toNat ++ '.' :: digits.drop point.toNat
  else
    let size := Nat.toDigits 10 exponent.natAbs
    digits.take 1 ++ (if count = 1 then [] else '.' :: digits.drop 1) ++
      'e' :: (if exponent < 0 then '-' else '+') ::
      (if size.length < 2 then '0' :: size else size)

/-- The text of a float. -/
def floatText (x : Float) : String :=
  match Binary.ofFloat? x with
  | none => if x.isNaN then "nan" else if x < 0 then "-inf" else "inf"
  | some b =>
    let body := if b.mantissa = 0 then ['0', '.', '0'] else (Shortest.decimal b).layout
    String.ofList (if b.negative then '-' :: body else body)

end FlowCanvas.Number
