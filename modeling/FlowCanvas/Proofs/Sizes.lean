import FlowCanvas.Canvas.Entries
import Mathlib.Algebra.Order.Ring.Int
import Mathlib.Algebra.Order.Ring.Nat
import Mathlib.Order.Compare
import Mathlib.Tactic.Ring

/-!
# Numbers compare by their sizes

Two values may stand for one number: an integer and a float that is whole, or zero with either sign.
Numbers are compared in three ways, floats by their bits, integers as integers, and an integer with
a float through the fraction that the float is. Here **all three are one comparison of integers**.

Every finite float is a whole number of units, where a unit is the least positive float
(`Binary.units`). The bits of a float put its exponent above its mantissa, and a greater exponent
comes with a greater number since mantissas are as long as they can be (`Binary.Canonical`). So
comparing floats is comparing their units (`Binary.order_eq`), and an integer is a whole number of
units as well. A value that is a finite number has a size, in units (`Value.units?`), and numbers
are compared by their sizes (`Value.compareBy_eq`); what is not finite compares with all of them as
with zero (`Value.compareBy_zero`).

What follows is what geometry needs: **values that stand for the same number compare alike with
everything** (`Value.Alike`, `Value.compare_of_same`), so a place may be replaced by one that is the
same.
-/

namespace FlowCanvas.Number

open Float.Model (UnpackedFloat)
open Float.Model.UnpackedFloat (Sign unpackMantissa unpackExponent unpackSign)

/-- How two floats compare; a NaN compares with nothing. -/
def order (x y : Float) : Option Ordering := x.toModel.unpack.compare y.toModel.unpack

theorem le_iff {x y : Float} : x ≤ y ↔ (order x y).any Ordering.isLE = true := by
  show Float.le x y = true ↔ _
  rw [Float.le, decide_eq_true_iff]
  rfl

theorem lt_iff {x y : Float} : x < y ↔ (order x y).any (· == .lt) = true := by
  have h : x < y ↔ (order x y == some .lt) = true := by
    show Float.lt x y = true ↔ _
    rw [Float.lt, decide_eq_true_iff]
    rfl
  rw [h]
  rcases order x y with - | o
  · simp
  · simp

theorem beq_iff {x y : Float} : (x == y) = true ↔ order x y = some .eq := by
  have h : (x == y) = (order x y == some .eq) := rfl
  rw [h, beq_iff_eq]

namespace Binary

/-! ### Taking floats apart -/

/-- The sign of a float with or without a minus. -/
def sign (negative : Bool) : Sign := if negative then .negative else .positive

section Bits

variable (bits : BitVec 64)

theorem toNat_unpackMantissa :
    (@unpackMantissa .binary64 bits).toNat = bits.toNat % scaleWeight := by
  have h : (@unpackMantissa .binary64 bits).toNat = bits.toNat >>> 0 % 2 ^ (51 - 0 + 1) := by
    rw [← BitVec.extractLsb_toNat]
    exact BitVec.toNat_cast _ _
  rw [h, Nat.shiftRight_zero]
  rfl

theorem toNat_unpackExponent :
    (@unpackExponent .binary64 bits).toNat = bits.toNat / scaleWeight % scales := by
  have h : (@unpackExponent .binary64 bits).toNat = bits.toNat >>> 52 % 2 ^ (62 - 52 + 1) := by
    rw [← BitVec.extractLsb_toNat]
    exact BitVec.toNat_cast _ _
  rw [h, Nat.shiftRight_eq_div_pow]
  rfl

theorem ofBitVec_unpackSign :
    Sign.ofBitVec (@unpackSign .binary64 bits) = sign (decide (signWeight ≤ bits.toNat)) := by
  have h : (@unpackSign .binary64 bits).toNat = bits.toNat >>> 63 % 2 ^ (63 - 63 + 1) := by
    rw [← BitVec.extractLsb_toNat]
    exact BitVec.toNat_cast _ _
  have hlt : bits.toNat < 2 ^ 64 := bits.isLt
  have hzero : @unpackSign .binary64 bits = 0#1 ↔ ¬ signWeight ≤ bits.toNat := by
    rw [← BitVec.toNat_inj, h, Nat.shiftRight_eq_div_pow, signWeight, BitVec.toNat_ofNat]
    omega
  by_cases hneg : signWeight ≤ bits.toNat
  · rw [Sign.ofBitVec, if_neg fun heq ↦ hzero.1 heq hneg]
    simp [sign, hneg]
  · rw [Sign.ofBitVec, if_pos (hzero.2 hneg)]
    simp [sign, hneg]

theorem unpackExponent_eq_neg_one_iff :
    @unpackExponent .binary64 bits = -1#11 ↔ bits.toNat / scaleWeight % scales + 1 = scales := by
  rw [← BitVec.toNat_inj, toNat_unpackExponent]
  show _ = 2047 ↔ _
  rw [scales]
  omega

theorem unpackExponent_eq_zero_iff :
    @unpackExponent .binary64 bits = 0#11 ↔ bits.toNat / scaleWeight % scales = 0 := by
  rw [← BitVec.toNat_inj, toNat_unpackExponent]
  rfl

theorem unpackMantissa_eq_zero_iff :
    @unpackMantissa .binary64 bits = 0#52 ↔ bits.toNat % scaleWeight = 0 := by
  rw [← BitVec.toNat_inj, toNat_unpackMantissa]
  rfl

theorem toNat_one_append (m : BitVec 52) : (1#1 ++ m).toNat = m.toNat + scaleWeight := by
  rw [BitVec.toNat_append, ← Nat.shiftLeft_add_eq_or_of_lt m.isLt, Nat.add_comm]
  rfl

end Bits

variable {x y : Float} {a b : Binary}

theorem finite_congr {s : Sign} {m m' : Nat} {e e' : Int} {h : 0 < m} {h' : 0 < m'} (hm : m = m')
    (he : e = e') : UnpackedFloat.finite s m e h = .finite s m' e' h' := by
  subst hm he
  rfl

/-- **How a finite float is taken apart.** -/
theorem unpack_eq_of_some (h : ofFloat? x = some b) :
    x.toModel.unpack = if hpos : 0 < b.mantissa then
      .finite (sign b.negative) b.mantissa b.exponent hpos else .zero (sign b.negative) := by
  have hbits : x.toBits.toNat = x.toModel.toBits.toBitVec.toNat := rfl
  rw [ofFloat?, hbits] at h
  rw [Float.Model.unpack]
  generalize x.toModel.toBits.toBitVec = bits at h
  have hexponent := toNat_unpackExponent bits
  have hmantissa := toNat_unpackMantissa bits
  delta UnpackedFloat.unpack
  dsimp only at h ⊢
  rw [ofBitVec_unpackSign]
  split at h
  · exact absurd h (by simp)
  · next hfinite =>
    rw [if_neg fun heq ↦ hfinite ((unpackExponent_eq_neg_one_iff bits).1 heq)]
    split at h
    · next hsmall =>
      obtain rfl := Option.some.inj h
      rw [if_pos ((unpackExponent_eq_zero_iff bits).2 hsmall)]
      by_cases hzero : @unpackMantissa .binary64 bits = 0#52
      · have hnone : ¬ 0 < bits.toNat % scaleWeight := by
          rw [(unpackMantissa_eq_zero_iff bits).1 hzero]
          exact Nat.lt_irrefl 0
        rw [dif_pos hzero, dif_neg hnone]
      · have hpos := Nat.pos_iff_ne_zero.2 ((unpackMantissa_eq_zero_iff bits).not.1 hzero)
        rw [dif_neg hzero, dif_pos hpos]
        refine finite_congr hmantissa ?_
        rw [hexponent, hsmall]
        rfl
    · next hnormal =>
      obtain rfl := Option.some.inj h
      have hpos : 0 < bits.toNat % scaleWeight + scaleWeight := by
        rw [scaleWeight]
        omega
      rw [if_neg fun heq ↦ hnormal ((unpackExponent_eq_zero_iff bits).1 heq), dif_pos hpos]
      refine finite_congr ?_ ?_
      · rw [toNat_one_append, hmantissa]
      · rw [hexponent]
        rfl

/-- What is not finite is a NaN or an infinity. -/
theorem unpack_eq_of_none (h : ofFloat? x = none) :
    x.toModel.unpack = .notANumber ∨ ∃ s, x.toModel.unpack = .infinity s := by
  have hbits : x.toBits.toNat = x.toModel.toBits.toBitVec.toNat := rfl
  rw [ofFloat?, hbits] at h
  rw [Float.Model.unpack]
  generalize x.toModel.toBits.toBitVec = bits at h
  split at h
  · next hlast =>
    delta UnpackedFloat.unpack
    dsimp only
    rw [if_pos ((unpackExponent_eq_neg_one_iff bits).2 hlast)]
    split
    · exact .inr ⟨_, rfl⟩
    · exact .inl rfl
  · split at h <;> simp at h

/-! ### Sizes of floats -/

/-- **The mantissa is as long as it can be**: it has all its digits, unless the exponent is the
least. -/
structure Canonical (b : Binary) : Prop where
  short : b.mantissa < 2 * scaleWeight
  least : leastExponent ≤ b.exponent
  full : b.exponent = leastExponent ∨ scaleWeight ≤ b.mantissa

theorem canonical_of_some (h : ofFloat? x = some b) : b.Canonical := by
  have hlt : x.toBits.toNat % scaleWeight < scaleWeight := Nat.mod_lt _ (by decide)
  unfold ofFloat? at h
  dsimp only at h
  split at h
  · exact absurd h (by simp)
  · split at h
    · obtain rfl := Option.some.inj h
      exact ⟨by dsimp only; omega, Int.le_refl _, .inl rfl⟩
    · next hscale =>
      obtain rfl := Option.some.inj h
      refine ⟨by dsimp only; omega, ?_, .inr (Nat.le_add_left _ _)⟩
      dsimp only [leastExponent]
      omega

/-- The size of a form without its sign, in units of the least positive float. -/
def magnitude (b : Binary) : Nat := b.mantissa * Nat.pow 2 (b.exponent - leastExponent).toNat

/-- The size of a form, in units of the least positive float. -/
def units (b : Binary) : Int := if b.negative then -b.magnitude else b.magnitude

theorem magnitude_pos (h : 0 < b.mantissa) : 0 < b.magnitude :=
  Nat.mul_pos h (Nat.two_pow_pos _)

theorem magnitude_lt (ha : a.Canonical) (hb : b.Canonical) (h : a.exponent < b.exponent) :
    a.magnitude < b.magnitude := by
  have hfull : scaleWeight ≤ b.mantissa := by
    rcases hb.full with heq | hfull
    · exact absurd ha.least (by omega)
    · exact hfull
  have hless : (a.exponent - leastExponent).toNat + 1 ≤ (b.exponent - leastExponent).toNat := by
    have := ha.least
    omega
  calc a.magnitude < 2 * scaleWeight * Nat.pow 2 (a.exponent - leastExponent).toNat :=
        Nat.mul_lt_mul_of_pos_right ha.short (Nat.two_pow_pos _)
    _ = scaleWeight * 2 ^ ((a.exponent - leastExponent).toNat + 1) := by
        rw [Nat.pow_eq, pow_succ]
        ring
    _ ≤ b.magnitude := Nat.mul_le_mul hfull (Nat.pow_le_pow_right Nat.two_pos hless)

/-- **Comparing exponents, and mantissas only where they agree, is comparing sizes.** -/
theorem compare_exponent_mantissa (ha : a.Canonical) (hb : b.Canonical) :
    (compare a.exponent b.exponent).then (compare a.mantissa b.mantissa) =
      compare a.magnitude b.magnitude := by
  rcases lt_trichotomy a.exponent b.exponent with hlt | heq | hgt
  · rw [compare_lt_iff_lt.2 hlt, compare_lt_iff_lt.2 (magnitude_lt ha hb hlt)]
    rfl
  · have hpos : 0 < Nat.pow 2 (b.exponent - leastExponent).toNat := Nat.two_pow_pos _
    rw [compare_eq_iff_eq.2 heq, magnitude, magnitude, heq, Ordering.eq_then, ← cmp_eq_compare,
      ← cmp_eq_compare, cmp_mul_pos_right hpos]
  · rw [compare_gt_iff_gt.2 hgt, compare_gt_iff_gt.2 (magnitude_lt hb ha hgt)]
    rfl

/-- The three kinds of finite floats. -/
theorem unpack_cases (h : ofFloat? x = some b) :
    (b.units = 0 ∧ ∃ s, x.toModel.unpack = .zero s) ∨
      ∃ hpos : 0 < b.mantissa, 0 < b.magnitude ∧
        ((b.units = b.magnitude ∧
            x.toModel.unpack = .finite .positive b.mantissa b.exponent hpos) ∨
          (b.units = -b.magnitude ∧
            x.toModel.unpack = .finite .negative b.mantissa b.exponent hpos)) := by
  rw [unpack_eq_of_some h]
  by_cases hpos : 0 < b.mantissa
  · refine .inr ⟨hpos, magnitude_pos hpos, ?_⟩
    rw [dif_pos hpos, units, sign]
    rcases b.negative with - | -
    · exact .inl ⟨rfl, rfl⟩
    · exact .inr ⟨rfl, rfl⟩
  · have hzero : b.mantissa = 0 := by omega
    rw [dif_neg hpos]
    exact .inl ⟨by simp [units, magnitude, hzero], _, rfl⟩

/-- **Finite floats compare as their sizes do.** -/
theorem order_eq (hx : ofFloat? x = some a) (hy : ofFloat? y = some b) :
    order x y = some (compare a.units b.units) := by
  have hsizes := compare_exponent_mantissa (canonical_of_some hx) (canonical_of_some hy)
  rw [order]
  rcases unpack_cases hx with ⟨ha, s, hs⟩ | ⟨hpa, hma, ⟨ha, hs⟩ | ⟨ha, hs⟩⟩
  · rcases unpack_cases hy with ⟨hb, t, ht⟩ | ⟨hpb, hmb, ⟨hb, ht⟩ | ⟨hb, ht⟩⟩
    · rw [hs, ht, compare_eq_iff_eq.2 (ha.trans hb.symm)]
      rfl
    · rw [hs, ht, compare_lt_iff_lt.2 (by omega)]
      rfl
    · rw [hs, ht, compare_gt_iff_gt.2 (by omega)]
      rfl
  · rcases unpack_cases hy with ⟨hb, t, ht⟩ | ⟨hpb, hmb, ⟨hb, ht⟩ | ⟨hb, ht⟩⟩
    · rw [hs, ht, compare_gt_iff_gt.2 (by omega)]
      rfl
    · rw [hs, ht, ha, hb, ← cmp_eq_compare (a.magnitude : Int),
        Nat.strictMono_cast.cmp_map_eq, cmp_eq_compare, ← hsizes]
      rfl
    · rw [hs, ht, compare_gt_iff_gt.2 (by omega)]
      rfl
  · rcases unpack_cases hy with ⟨hb, t, ht⟩ | ⟨hpb, hmb, ⟨hb, ht⟩ | ⟨hb, ht⟩⟩
    · rw [hs, ht, compare_lt_iff_lt.2 (by omega)]
      rfl
    · rw [hs, ht, compare_lt_iff_lt.2 (by omega)]
      rfl
    · have hanti : StrictAnti fun n : Nat ↦ -(n : Int) := fun _ _ h ↦ by simpa using h
      rw [hs, ht, ha, hb, ← cmp_eq_compare (-(a.magnitude : Int)), hanti.cmp_map_eq, ← cmp_swap,
        cmp_eq_compare, ← hsizes]
      rfl

theorem ofFloat?_zero : ofFloat? 0 = some ⟨false, 0, leastExponent⟩ := by
  decide +kernel

/-- What is not finite compares in one way with all finite floats. -/
theorem order_of_none (hx : ofFloat? x = none) :
    ∃ o : Option Ordering, o ≠ some .eq ∧ ∀ {y : Float} {b : Binary}, ofFloat? y = some b →
      order x y = o ∧ order y x = o.map Ordering.swap := by
  rcases unpack_eq_of_none hx with hs | ⟨s, hs⟩
  · refine ⟨none, by simp, fun hy ↦ ?_⟩
    rcases unpack_cases hy with ⟨-, t, ht⟩ | ⟨hpos, -, ⟨-, ht⟩ | ⟨-, ht⟩⟩
    all_goals
      rw [order, order, hs, ht]
      exact ⟨rfl, rfl⟩
  · cases s with
    | positive =>
      refine ⟨some .gt, by simp, fun hy ↦ ?_⟩
      rcases unpack_cases hy with ⟨-, t, ht⟩ | ⟨hpos, -, ⟨-, ht⟩ | ⟨-, ht⟩⟩
      all_goals
        rw [order, order, hs, ht]
        exact ⟨rfl, rfl⟩
    | negative =>
      refine ⟨some .lt, by simp, fun hy ↦ ?_⟩
      rcases unpack_cases hy with ⟨-, t, ht⟩ | ⟨hpos, -, ⟨-, ht⟩ | ⟨-, ht⟩⟩
      all_goals
        rw [order, order, hs, ht]
        exact ⟨rfl, rfl⟩

/-- **What is not finite compares with every finite float as with zero.** -/
theorem order_zero (hx : ofFloat? x = none) (hy : ofFloat? y = some b) :
    order x y = order x 0 ∧ order y x = order 0 x := by
  obtain ⟨o, -, ho⟩ := order_of_none hx
  obtain ⟨hxy, hyx⟩ := ho hy
  obtain ⟨hx0, h0x⟩ := ho ofFloat?_zero
  exact ⟨hxy.trans hx0.symm, hyx.trans h0x.symm⟩

/-- Two that are not finite and equal are one infinity. -/
theorem unpack_eq_of_order (hx : ofFloat? x = none) (hy : ofFloat? y = none)
    (h : order x y = some .eq) : x.toModel.unpack = y.toModel.unpack := by
  rw [order] at h
  rcases unpack_eq_of_none hx with hs | ⟨s, hs⟩
  · rw [hs] at h
    have hnone : (none : Option Ordering) = some .eq := h
    exact absurd hnone (by simp)
  · rcases unpack_eq_of_none hy with ht | ⟨t, ht⟩
    · rw [hs, ht] at h
      have hnone : (none : Option Ordering) = some .eq := h
      exact absurd hnone (by simp)
    · rw [hs, ht] at h ⊢
      have hsigns : compare s t = .eq := Option.some.inj h
      have hsign : s = t := by
        cases s with
        | positive => cases t with
          | positive => rfl
          | negative => exact absurd hsigns (by decide)
        | negative => cases t with
          | positive => exact absurd hsigns (by decide)
          | negative => rfl
      rw [hsign]

/-- **Floats that are equal** have the same size, or are one infinity. -/
theorem eq_of_order (h : order x y = some .eq) :
    (∃ a b, ofFloat? x = some a ∧ ofFloat? y = some b ∧ a.units = b.units) ∨
      ofFloat? x = none ∧ ofFloat? y = none ∧ x.toModel.unpack = y.toModel.unpack := by
  rcases hx : ofFloat? x with - | a
  · rcases hy : ofFloat? y with - | b
    · exact .inr ⟨rfl, rfl, unpack_eq_of_order hx hy h⟩
    · obtain ⟨o, ho, horder⟩ := order_of_none hx
      exact absurd ((horder hy).1.symm.trans h) ho
  · rcases hy : ofFloat? y with - | b
    · obtain ⟨o, ho, horder⟩ := order_of_none hy
      rw [(horder hx).2, Option.map_eq_some_iff] at h
      obtain ⟨o', rfl, hswap⟩ := h
      cases o' <;> simp_all
    · rw [order_eq hx hy, Option.some.injEq, compare_eq_iff_eq] at h
      exact .inl ⟨a, b, rfl, rfl, h⟩

/-- The number one. -/
def one : Binary := ⟨false, 1, 0⟩

/-- A form above its line is as many ones as it is units over what is below the line. -/
theorem mul_magnitude_one (h : leastExponent ≤ b.exponent) :
    b.mantissa * Nat.pow 2 b.exponent.toNat * one.magnitude =
      b.magnitude * Nat.pow 2 (-b.exponent).toNat := by
  have hadd : ∀ m n, Nat.pow 2 (m + n) = Nat.pow 2 m * Nat.pow 2 n := Nat.pow_add 2
  have hleast : leastExponent ≤ 0 := by decide
  rw [magnitude, magnitude, one]
  -- The least exponent is of no matter here, and its power of two is better not worked out.
  generalize leastExponent = least at h hleast
  have hsplit : b.exponent.toNat + (0 - least).toNat =
      (b.exponent - least).toNat + (-b.exponent).toNat := by
    omega
  rw [Nat.one_mul, Nat.mul_assoc, Nat.mul_assoc, ← hadd, ← hadd, hsplit]

/-- What stands above the line of the fraction of a form has as many units as the form has times
what is below the line. -/
theorem fraction_units (h : b.Canonical) :
    b.fraction.1 * one.magnitude = b.units * b.fraction.2 := by
  have hcast : ((b.mantissa * Nat.pow 2 b.exponent.toNat : Nat) : Int) * one.magnitude =
      b.magnitude * (Nat.pow 2 (-b.exponent).toNat : Nat) := by
    rw [← Int.natCast_mul, ← Int.natCast_mul, mul_magnitude_one h.least]
  rw [fraction, units]
  rcases b.negative with - | -
  · exact hcast
  · simp only [if_true, Int.neg_mul, hcast]

theorem fraction_pos (b : Binary) : 0 < (b.fraction.2 : Int) :=
  Int.natCast_pos.2 (Nat.two_pow_pos _)

/-- The fraction of a form that stands for a whole number. -/
theorem fraction_of_toInt? {n : Int} (h : b.toInt? = some n) :
    b.fraction.1 = n * b.fraction.2 := by
  unfold toInt? at h
  rw [fraction]
  dsimp only at h ⊢
  split at h
  · next hwhole =>
    have hbelow : (-b.exponent).toNat = 0 := by omega
    rw [hbelow, ← Option.some.inj h]
    simp
  · next hbroken =>
    have habove : b.exponent.toNat = 0 := by omega
    rw [Option.ite_none_right_eq_some] at h
    obtain ⟨hmod, h⟩ := h
    obtain rfl := Option.some.inj h
    have hcast := congrArg (Nat.cast : Nat → Int)
      (Nat.div_mul_cancel (Nat.dvd_of_mod_eq_zero hmod))
    rw [Int.natCast_mul] at hcast
    rw [habove]
    rcases b.negative with - | -
    · simpa using hcast.symm
    · simpa using hcast.symm

/-- A form that stands for a whole number has that many times the units of one. -/
theorem units_of_toInt? (h : b.Canonical) {n : Int} (hn : b.toInt? = some n) :
    b.units = n * one.magnitude := by
  have hunits := fraction_units h
  rw [fraction_of_toInt? hn, Int.mul_right_comm] at hunits
  exact (Int.eq_of_mul_eq_mul_right (fraction_pos b).ne' hunits).symm

/-- Comparing a fraction with a whole number over the same line is comparing units. -/
theorem compare_fraction (h : b.Canonical) (n : Int) :
    compare b.fraction.1 (n * b.fraction.2) = compare b.units (n * one.magnitude) := by
  have hone : 0 < (one.magnitude : Int) := Int.natCast_pos.2 (magnitude_pos Nat.one_pos)
  rw [← cmp_eq_compare, ← cmp_eq_compare, ← cmp_mul_pos_right hone, fraction_units h,
    Int.mul_right_comm, cmp_mul_pos_right (fraction_pos b)]

end Binary

end FlowCanvas.Number

namespace FlowCanvas.Value

open Number (order Binary)

variable {v w u : Value} {rel : Ordering → Bool} {m n : Int} {x y : Float} {b : Binary}

/-! ### Sizes of values -/

/-- The size of a value that is a finite number, in units of the least positive float. -/
def units? : Value → Option Int
  | float x => (Binary.ofFloat? x).map Binary.units
  | v => v.integer?.map (· * (Binary.one.magnitude : Int))

theorem units?_of_integer? (h : v.integer? = some n) :
    v.units? = some (n * (Binary.one.magnitude : Int)) := by
  unfold units?
  split
  · exact absurd h (by simp [integer?])
  · rw [h]
    rfl

/-- What has a size is a finite float or an integer. -/
theorem units?_cases (h : v.units? = some n) :
    (∃ x b, v = float x ∧ Binary.ofFloat? x = some b ∧ n = b.units) ∨
      ∃ m, v.integer? = some m ∧ n = m * (Binary.one.magnitude : Int) := by
  unfold units? at h
  split at h
  · next x =>
    obtain ⟨b, hb, rfl⟩ := Option.map_eq_some_iff.1 h
    exact .inl ⟨x, b, rfl, hb, rfl⟩
  · obtain ⟨m, hm, rfl⟩ := Option.map_eq_some_iff.1 h
    exact .inr ⟨m, hm, rfl⟩

/-- Compares two numbers, given what is asked of how they compare. -/
def compareBy (rel : Ordering → Bool) : Value → Value → Except NumberFault Bool :=
  compareNumbers (fun x y ↦ (order x y).any rel) fun m n ↦ rel (compare m n)

theorem compareBy_float_float : compareBy rel (float x) (float y) = .ok ((order x y).any rel) :=
  rfl

theorem compareBy_integer_integer (hv : v.integer? = some m) (hw : w.integer? = some n) :
    compareBy rel v w = .ok (rel (compare m n)) := by
  unfold compareBy compareNumbers
  split
  · exact absurd hv (by simp [integer?])
  · simp only [hv, hw]

theorem compareBy_integer_float (hv : v.integer? = some m) (hy : Binary.ofFloat? y = some b) :
    compareBy rel v (float y) = .ok (rel (compare (m * b.fraction.2) b.fraction.1)) := by
  have hfloat : (float y).integer? = none := rfl
  unfold compareBy compareNumbers
  split
  · exact absurd hv (by simp [integer?])
  · simp only [hv, hfloat, hy, Option.map_some]

theorem compareBy_float_integer (hx : Binary.ofFloat? x = some b) (hw : w.integer? = some n) :
    compareBy rel (float x) w = .ok (rel (compare b.fraction.1 (n * b.fraction.2))) := by
  have hfloat : (float x).integer? = none := rfl
  unfold compareBy compareNumbers
  split
  · exact absurd hw (by simp [integer?])
  · simp only [hw, hfloat, hx, Option.map_some]

/-- **Finite numbers compare as their sizes do.** -/
theorem compareBy_eq (hv : v.units? = some m) (hw : w.units? = some n) :
    compareBy rel v w = .ok (rel (compare m n)) := by
  have hone : 0 < (Binary.one.magnitude : Int) :=
    Int.natCast_pos.2 (Binary.magnitude_pos Nat.one_pos)
  obtain ⟨x, a, rfl, hx, rfl⟩ | ⟨m, hm, rfl⟩ := units?_cases hv
  · obtain ⟨y, b, rfl, hy, rfl⟩ | ⟨n, hn, rfl⟩ := units?_cases hw
    · rw [compareBy_float_float, Binary.order_eq hx hy]
      rfl
    · rw [compareBy_float_integer hx hn, Binary.compare_fraction (Binary.canonical_of_some hx)]
  · obtain ⟨y, b, rfl, hy, rfl⟩ | ⟨n, hn, rfl⟩ := units?_cases hw
    · rw [compareBy_integer_float hm hy, Std.OrientedOrd.eq_swap,
        Binary.compare_fraction (Binary.canonical_of_some hy), ← Std.OrientedOrd.eq_swap]
    · rw [compareBy_integer_integer hm hn, ← cmp_eq_compare, ← cmp_eq_compare,
        cmp_mul_pos_right hone]

/-- A float that is not finite compares with all finite numbers as with zero. -/
theorem compareBy_endless (hv : v.units? = some m) (hy : Binary.ofFloat? y = none) :
    compareBy rel v (float y) = .ok ((order 0 y).any rel) ∧
      compareBy rel (float y) v = .ok ((order y 0).any rel) := by
  have hfloat : (float y).integer? = none := rfl
  obtain ⟨x, b, rfl, hx, -⟩ | ⟨n, hn, -⟩ := units?_cases hv
  · obtain ⟨hyx, hxy⟩ := Binary.order_zero hy hx
    rw [compareBy_float_float, compareBy_float_float, hxy, hyx]
    exact ⟨rfl, rfl⟩
  · unfold compareBy compareNumbers
    constructor
    · split
      · exact absurd hn (by simp [integer?])
      · simp only [hn, hfloat, hy, Option.map_none]
    · split
      · exact absurd hn (by simp [integer?])
      · simp only [hn, hfloat, hy, Option.map_none]

/-- What is no number compares with nothing. -/
theorem compareBy_of_not_isNumeric (hw : w.isNumeric = false) :
    compareBy rel v w = .error .notNumeric ∧ compareBy rel w v = .error .notNumeric := by
  have hinteger : w.integer? = none := by
    cases w with
    | bool => exact absurd hw (by simp [isNumeric])
    | int => exact absurd hw (by simp [isNumeric])
    | _ => rfl
  have hfloat : ∀ y, w ≠ float y := by
    rintro y rfl
    exact absurd hw (by simp [isNumeric])
  unfold compareBy compareNumbers
  constructor
  · split
    · exact absurd rfl (hfloat _)
    · rw [hinteger]
      split
      · simp_all
      · simp_all
      · simp_all
      · rfl
  · split
    · exact absurd rfl (hfloat _)
    · rw [hinteger]
      split
      · simp_all
      · simp_all
      · simp_all
      · rfl

/-- **What has no size compares with every finite number as with zero**, if it compares at all. -/
theorem compareBy_zero (hv : v.units? = some m) (hw : w.units? = none) :
    compareBy rel v w = compareBy rel (.int 0) w ∧
      compareBy rel w v = compareBy rel w (.int 0) := by
  by_cases hnumeric : w.isNumeric = true
  · have hzero : (int 0).units? = some 0 :=
      (units?_of_integer? rfl).trans (congrArg some (Int.zero_mul _))
    obtain ⟨y, rfl⟩ : ∃ y, w = float y := by
      cases w with
      | float y => exact ⟨y, rfl⟩
      | bool t => exact absurd ((units?_of_integer? rfl).symm.trans hw) (Option.some_ne_none _)
      | int n => exact absurd ((units?_of_integer? rfl).symm.trans hw) (Option.some_ne_none _)
      | _ => exact absurd hnumeric (by simp [isNumeric])
    have hy : Binary.ofFloat? y = none := Option.map_eq_none_iff.1 hw
    rw [(compareBy_endless hv hy).1, (compareBy_endless hv hy).2, (compareBy_endless hzero hy).1,
      (compareBy_endless hzero hy).2]
    exact ⟨rfl, rfl⟩
  · have hno : w.isNumeric = false := by simpa using hnumeric
    rw [(compareBy_of_not_isNumeric hno).1, (compareBy_of_not_isNumeric hno).2,
      (compareBy_of_not_isNumeric hno).1, (compareBy_of_not_isNumeric hno).2]
    exact ⟨rfl, rfl⟩

/-- **Two values are alike**: they compare alike with everything. -/
def Alike (v w : Value) : Prop :=
  ∀ (rel : Ordering → Bool) (u : Value),
    compareBy rel v u = compareBy rel w u ∧ compareBy rel u v = compareBy rel u w

/-- Numbers of the same size are alike. -/
theorem alike_of_units? (hv : v.units? = some n) (hw : w.units? = some n) : v.Alike w := by
  intro rel u
  rcases hu : u.units? with - | m
  · rw [(compareBy_zero hv hu).1, (compareBy_zero hv hu).2, (compareBy_zero hw hu).1,
      (compareBy_zero hw hu).2]
    exact ⟨rfl, rfl⟩
  · rw [compareBy_eq hv hu, compareBy_eq hu hv, compareBy_eq hw hu, compareBy_eq hu hw]
    exact ⟨rfl, rfl⟩

/-- Floats that are equal are alike. -/
theorem alike_of_beq (h : (x == y) = true) : (float x).Alike (float y) := by
  obtain ⟨a, b, hx, hy, hunits⟩ | ⟨hx, hy, hunpack⟩ := Binary.eq_of_order (Number.beq_iff.1 h)
  · refine alike_of_units? (n := a.units) ?_ ?_
    · rw [units?, hx, Option.map_some]
    · rw [units?, hy, Option.map_some, hunits]
  · intro rel u
    have horder : ∀ z, order x z = order y z ∧ order z x = order z y := by
      intro z
      rw [order, order, order, order, hunpack]
      exact ⟨rfl, rfl⟩
    cases u with
    | float z =>
      rw [compareBy_float_float, compareBy_float_float, compareBy_float_float,
        compareBy_float_float, (horder z).1, (horder z).2]
      exact ⟨rfl, rfl⟩
    | _ =>
      simp only [compareBy, compareNumbers, integer?, hx, hy, Option.map_none, (horder 0).1,
        (horder 0).2, and_self]

/-! ### The comparisons of values -/

theorem less_eq (v w : Value) : less v w = compareBy (· == .lt) v w := by
  have hfloats : (fun x y : Float ↦ decide (x < y)) = fun x y ↦ (order x y).any (· == .lt) := by
    funext x y
    rw [Bool.eq_iff_iff, decide_eq_true_iff, Number.lt_iff]
  have hwholes : (fun m n : Int ↦ decide (m < n)) = fun m n ↦ compare m n == .lt := by
    funext m n
    rw [Bool.eq_iff_iff, decide_eq_true_iff, beq_iff_eq, compare_lt_iff_lt]
  rw [less, hfloats, hwholes]
  rfl

/-- Whether a value is at most a number is a comparison of numbers. -/
theorem atMost_eq (h : w.isNumeric = true) : atMost v w = compareBy Ordering.isLE v w := by
  have hfloats : (fun x y : Float ↦ decide (x ≤ y)) = fun x y ↦ (order x y).any Ordering.isLE := by
    funext x y
    rw [Bool.eq_iff_iff, decide_eq_true_iff, Number.le_iff]
  have hwholes : (fun m n : Int ↦ decide (m ≤ n)) = fun m n ↦ (compare m n).isLE := by
    funext m n
    rw [Bool.eq_iff_iff, decide_eq_true_iff, Int.isLE_compare]
  unfold atMost
  split
  · exact absurd h (by simp [isNumeric])
  · rw [(compareBy_of_not_isNumeric rfl).2]
    split
    · exact absurd h (by simp [isNumeric])
    · rfl
  · rw [hfloats, hwholes]
    rfl

/-- What is less than something is a number. -/
theorem isNumeric_of_less {t : Bool} (h : less v w = .ok t) : v.isNumeric = true := by
  by_contra hno
  rw [less_eq, (compareBy_of_not_isNumeric (by simpa using hno)).2] at h
  exact absurd h (by simp)

/-- The size of a value that stands for a whole number. -/
theorem units?_of_whole? (h : v.whole? = some n) :
    v.units? = some (n * (Binary.one.magnitude : Int)) := by
  cases v with
  | bool t =>
    obtain rfl := Option.some.inj h
    rfl
  | int k =>
    obtain rfl := Option.some.inj h
    rfl
  | float x =>
    obtain ⟨b, hb, hn⟩ := Option.bind_eq_some_iff.1 h
    rw [units?, hb, Option.map_some, Binary.units_of_toInt? (Binary.canonical_of_some hb) hn]
  | _ => exact absurd h (by simp [whole?])

/-- Two numbers that are the same are equal floats, or stand for one whole number. -/
theorem same_cases (hv : v.isNumeric = true) (h : v.same w = true) :
    (∃ x y, v = float x ∧ w = float y ∧ (x == y) = true) ∨
      ∃ n, v.whole? = some n ∧ w.whole? = some n := by
  have hscalar : v.sameScalar w = true := by
    cases v with
    | bool => simpa [same] using h
    | int => simpa [same] using h
    | float => simpa [same] using h
    | _ => exact absurd hv (by simp [isNumeric])
  unfold sameScalar at hscalar
  split at hscalar
  case h_5 x y => exact .inl ⟨x, y, rfl, rfl, hscalar⟩
  case h_6 =>
    split at hscalar
    · next m n hm hn =>
      obtain rfl : m = n := by simpa using hscalar
      exact .inr ⟨m, hm, hn⟩
    · exact absurd hscalar (by simp)
  all_goals exact absurd hv (by simp [isNumeric])

/-- **Numbers that are the same compare alike**, with whatever they are compared. -/
theorem compare_of_same (hv : v.isNumeric = true) (h : v.same w = true) (u : Value) :
    atMost u v = atMost u w ∧ less v u = less w u := by
  obtain ⟨halike, hw⟩ : v.Alike w ∧ w.isNumeric = true := by
    obtain ⟨x, y, rfl, rfl, hequal⟩ | ⟨n, hm, hn⟩ := same_cases hv h
    · exact ⟨alike_of_beq hequal, rfl⟩
    · refine ⟨alike_of_units? (units?_of_whole? hm) (units?_of_whole? hn), ?_⟩
      cases w with
      | bool => rfl
      | int => rfl
      | float => rfl
      | _ => exact absurd hn (by simp [whole?])
  rw [atMost_eq hv, atMost_eq hw, less_eq, less_eq]
  exact ⟨(halike _ u).2, (halike _ u).1⟩

end FlowCanvas.Value
