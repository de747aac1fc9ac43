/-!
# Floats as binary fractions

A finite float is a whole number times a power of two. `Binary.ofFloat?` reads that form off the
bits of the float; everything exact about floats (being whole, comparing with integers, finding the
shortest decimal text) is arithmetic on it.
-/

namespace FlowCanvas.Number

/-- The number `mantissa * 2 ^ exponent`, negated if `negative`. -/
structure Binary where
  negative : Bool
  mantissa : Nat
  exponent : Int
deriving DecidableEq, Repr

namespace Binary

/-- The least exponent of a float. -/
def leastExponent : Int := -1074

/-- The weight of the sign among the bits of a float. -/
def signWeight : Nat := 0x8000000000000000

/-- The weight of the scale among the bits of a float; a normal mantissa is at least this. -/
def scaleWeight : Nat := 0x10000000000000

/-- The number of scales of a float. The last one marks what is not finite. -/
def scales : Nat := 0x800

/-- The form of a finite float; an infinity or a NaN has none. -/
def ofFloat? (x : Float) : Option Binary :=
  let bits : Nat := x.toBits.toNat
  let negative := decide (signWeight ≤ bits)
  let scale : Nat := bits / scaleWeight % scales
  let fraction : Nat := bits % scaleWeight
  if scale + 1 = scales then none
  else if scale = 0 then some ⟨negative, fraction, leastExponent⟩
  else some ⟨negative, fraction + scaleWeight, (scale : Int) - 1075⟩

/-- The value of a form that stands for a whole number. -/
def toInt? (b : Binary) : Option Int :=
  let signed (n : Nat) : Int := if b.negative then -n else n
  if 0 ≤ b.exponent then some (signed (b.mantissa * Nat.pow 2 b.exponent.toNat))
  else
    let unit := Nat.pow 2 (-b.exponent).toNat
    if b.mantissa % unit = 0 then some (signed (b.mantissa / unit)) else none

/-- The form as a fraction: what stands above the line, and the power of two below it. -/
def fraction (b : Binary) : Int × Nat :=
  let above : Nat := b.mantissa * Nat.pow 2 b.exponent.toNat
  (if b.negative then -above else above, Nat.pow 2 (-b.exponent).toNat)

end Binary

/-- The value of a float that is a whole number. -/
def wholeValue? (x : Float) : Option Int := (Binary.ofFloat? x).bind Binary.toInt?

/-- The float nearest to an integer, ties to the even one; `none` for an integer beyond the range of
floats. -/
def floatOfInt? (n : Int) : Option Float :=
  let x := Float.ofInt n
  if x.isFinite then some x else none

end FlowCanvas.Number
