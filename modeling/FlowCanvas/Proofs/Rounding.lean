import FlowCanvas.Number.Numeral
import FlowCanvas.Proofs.Sizes

/-!
# Whole numbers as floats

A float keeps 53 binary digits. A whole number with more of them is rounded to the nearest number
that has no more, and a number that lies half way goes to the even one (`Number.nearest`). This is
what reading a numeral without a point and an exponent comes to (`wholeValue?_toFloat`), and the
number that is read is the number that was written **exactly if** its digits fit (`nearest_eq_iff`).

Floats are made in two ways, and both are followed here through the same three steps: digits are cut
off a mantissa one by one, and two bits remember what was cut (`shiftRight_eq_cut`); the rest is
rounded by them (`roundedMantissa_cut`); and the result is packed into bits (`ofFloat?_pack`). A
number of at most 53 digits is made with a full mantissa and multiplied by one, a longer one is
lengthened by 53 digits and cut to 53.
-/

namespace FlowCanvas.Number

open Binary (scaleWeight)
open Float.Model (UnpackedFloat Format totalExponent)
open Float.Model.UnpackedFloat (Sign ExtendedMantissa packComponents packedInfinity
  roundWithAccuracy shiftToTargetExponent)

/-! ### Rounding -/

/-- A quotient rounded to the nearest whole number; a half goes to the even one. -/
def halfEven (n unit : Nat) : Nat :=
  if 2 * (n % unit) < unit ∨ 2 * (n % unit) = unit ∧ n / unit % 2 = 0 then n / unit
  else n / unit + 1

theorem unit_pos (k : Nat) : 0 < Nat.pow 2 k := Nat.two_pow_pos k

theorem halfEven_one (n : Nat) : halfEven n 1 = n := by
  simp [halfEven, Nat.mod_one]

/-- A common factor makes no difference to rounding. -/
theorem halfEven_mul (n unit : Nat) {c : Nat} (hc : 0 < c) :
    halfEven (n * c) (unit * c) = halfEven n unit := by
  have hlt : 2 * (n % unit * c) < unit * c ↔ 2 * (n % unit) < unit := by
    rw [← Nat.mul_assoc, Nat.mul_lt_mul_right hc]
  have heq : 2 * (n % unit * c) = unit * c ↔ 2 * (n % unit) = unit := by
    rw [← Nat.mul_assoc, Nat.mul_left_inj (Nat.ne_of_gt hc)]
  rw [halfEven, halfEven, Nat.mul_mod_mul_right, Nat.mul_div_mul_right _ _ hc]
  simp only [hlt, heq]

theorem le_halfEven (n unit : Nat) : n / unit ≤ halfEven n unit := by
  unfold halfEven
  split <;> omega

theorem halfEven_le (n unit : Nat) : halfEven n unit ≤ n / unit + 1 := by
  unfold halfEven
  split <;> omega

/-- Rounding loses nothing exactly if there is no remainder. -/
theorem halfEven_mul_self_iff {n unit : Nat} (hunit : 0 < unit) :
    halfEven n unit * unit = n ↔ n % unit = 0 := by
  constructor
  · intro h
    rw [← h]
    exact Nat.mul_mod_left _ _
  · intro h
    rw [halfEven, if_pos (.inl (by omega))]
    exact Nat.div_mul_cancel (Nat.dvd_of_mod_eq_zero h)

/-- The number of binary digits that a float drops from a whole number. -/
def dropped (n : Nat) : Nat := n.log2 - 52

/-- The number nearest to `n` among those of at most 53 binary digits, with zeros behind them; of
two that are as near, the one whose digits are even. -/
def nearest (n : Nat) : Nat := halfEven n (Nat.pow 2 (dropped n)) * Nat.pow 2 (dropped n)

/-- The whole numbers that are floats: those of at most 1024 binary digits, of which all behind the
first 53 are zeros. -/
def IsExact (n : Nat) : Prop := n.log2 < 1024 ∧ ∃ m k, m < Nat.pow 2 53 ∧ n = m * Nat.pow 2 k

section Nearest

variable {n : Nat}

theorem dropped_of_lt (h : n < Nat.pow 2 53) : dropped n = 0 := by
  rcases Nat.eq_zero_or_pos n with rfl | hpos
  · rfl
  · have := (Nat.log2_lt (Nat.ne_of_gt hpos)).2 h
    rw [dropped]
    omega

/-- An integer of at most 53 binary digits is kept. -/
theorem nearest_of_lt (h : n < Nat.pow 2 53) : nearest n = n := by
  rw [nearest, dropped_of_lt h]
  show halfEven n 1 * 1 = n
  rw [halfEven_one, Nat.mul_one]

theorem log2_of_le (h : Nat.pow 2 53 ≤ n) : n.log2 = dropped n + 52 := by
  have hpos : n ≠ 0 := Nat.ne_of_gt (Nat.lt_of_lt_of_le (Nat.two_pow_pos 53) h)
  have := (Nat.le_log2 hpos).2 h
  rw [dropped]
  omega

theorem log2_of_full (hlow : scaleWeight ≤ n) (hhigh : n < 2 * scaleWeight) : n.log2 = 0 + 52 :=
  (Nat.log2_eq_iff (by rintro rfl; exact absurd hlow (by decide))).2 ⟨hlow, hhigh⟩

/-- The digits that are kept are 53. -/
theorem quotient_bounds {m k : Nat} (h : m.log2 = k + 52) :
    scaleWeight ≤ m / Nat.pow 2 k ∧ m / Nat.pow 2 k < 2 * scaleWeight := by
  have hpos : m ≠ 0 := by
    rintro rfl
    rw [Nat.log2_zero] at h
    omega
  obtain ⟨hlow, hhigh⟩ := (Nat.log2_eq_iff hpos).1 h
  constructor
  · refine (Nat.le_div_iff_mul_le (unit_pos k)).2 ?_
    calc scaleWeight * Nat.pow 2 k = 2 ^ (k + 52) := by
          rw [Nat.add_comm, Nat.pow_add]
          rfl
      _ ≤ m := hlow
  · refine (Nat.div_lt_iff_lt_mul (unit_pos k)).2 ?_
    calc m < 2 ^ (k + 52 + 1) := hhigh
      _ = 2 * scaleWeight * Nat.pow 2 k := by
          rw [Nat.add_assoc, Nat.add_comm, Nat.pow_add]
          rfl

/-- The nearest number has no fewer binary digits. -/
theorem log2_le_nearest (h : Nat.pow 2 53 ≤ n) : Nat.pow 2 n.log2 ≤ nearest n := by
  have hlog := log2_of_le h
  calc Nat.pow 2 n.log2 = scaleWeight * Nat.pow 2 (dropped n) := by
        rw [hlog, Nat.add_comm]
        exact Nat.pow_add 2 52 (dropped n)
    _ ≤ n / Nat.pow 2 (dropped n) * Nat.pow 2 (dropped n) :=
        Nat.mul_le_mul_right _ (quotient_bounds hlog).1
    _ ≤ nearest n := Nat.mul_le_mul_right _ (le_halfEven _ _)

theorem dropped_le {m k : Nat} (hm : m < Nat.pow 2 53) : dropped (m * Nat.pow 2 k) ≤ k := by
  rcases Nat.lt_or_ge (m * Nat.pow 2 k) (Nat.pow 2 53) with hshort | hlong
  · rw [dropped_of_lt hshort]
    exact Nat.zero_le k
  · have hpos : m * Nat.pow 2 k ≠ 0 := Nat.ne_of_gt (Nat.lt_of_lt_of_le (unit_pos 53) hlong)
    have hlt : m * Nat.pow 2 k < 2 ^ (53 + k) := by
      rw [Nat.pow_add]
      exact Nat.mul_lt_mul_of_pos_right hm (unit_pos k)
    have := (Nat.log2_lt hpos).2 hlt
    rw [dropped]
    omega

/-- **A whole number is its own nearest float exactly if it is one.** -/
theorem nearest_eq_iff : nearest n = n ∧ n.log2 < 1024 ↔ IsExact n := by
  rw [nearest, halfEven_mul_self_iff (unit_pos _), and_comm, IsExact]
  refine and_congr_right fun _ ↦ ⟨fun h ↦ ?_, ?_⟩
  · refine ⟨n / Nat.pow 2 (dropped n), dropped n, ?_,
      (Nat.div_mul_cancel (Nat.dvd_of_mod_eq_zero h)).symm⟩
    rcases Nat.lt_or_ge n (Nat.pow 2 53) with hshort | hlong
    · exact Nat.lt_of_le_of_lt (Nat.div_le_self _ _) hshort
    · exact (quotient_bounds (log2_of_le hlong)).2
  · rintro ⟨m, k, hm, rfl⟩
    exact Nat.mod_eq_zero_of_dvd (Dvd.dvd.mul_left (Nat.pow_dvd_pow 2 (dropped_le hm)) m)

end Nearest

/-! ### Cutting digits off -/

/-- A mantissa without its last `k` binary digits, and whether these are at least a half, and
neither nothing nor a half. -/
def cut (m k : Nat) : ExtendedMantissa :=
  ⟨m / Nat.pow 2 k, decide (Nat.pow 2 k ≤ 2 * (m % Nat.pow 2 k)),
    decide (m % Nat.pow 2 k ≠ 0 ∧ 2 * (m % Nat.pow 2 k) ≠ Nat.pow 2 k)⟩

/-- The two bits are kept up to date when one more digit is cut off. -/
theorem shiftRightOne_cut (m k : Nat) : (cut m k).shiftRightOne = cut m (k + 1) := by
  have hunit : Nat.pow 2 (k + 1) = Nat.pow 2 k * 2 := Nat.pow_succ 2 k
  have hpos : 0 < Nat.pow 2 k := Nat.two_pow_pos k
  have hrest : m % Nat.pow 2 (k + 1) = m % Nat.pow 2 k + Nat.pow 2 k * (m / Nat.pow 2 k % 2) := by
    rw [hunit, Nat.mod_mul]
  have hlt : m % Nat.pow 2 k < Nat.pow 2 k := Nat.mod_lt _ hpos
  rw [cut, cut, ExtendedMantissa.shiftRightOne, hrest, hunit, Nat.div_div_eq_div_mul]
  generalize Nat.pow 2 k = unit at *
  rcases Nat.mod_two_eq_zero_or_one (m / unit) with hdigit | hdigit
  all_goals
    simp only [hdigit, ExtendedMantissa.mk.injEq, true_and]
    grind

/-- **What is left after digits are cut off one by one.** -/
theorem shiftRight_eq_cut (m k : Nat) :
    ExtendedMantissa.ofMantissaAndAccuracy m .exact >>> k = cut m k := by
  show Nat.repeat ExtendedMantissa.shiftRightOne k ⟨m, false, false⟩ = cut m k
  induction k with
  | zero => simp [Nat.repeat, cut, Nat.mod_one]
  | succ k ih => rw [Nat.repeat, ih, shiftRightOne_cut]

/-- **The two bits are enough to round by.** -/
theorem roundedMantissa_cut (m k : Nat) : (cut m k).roundedMantissa = halfEven m (Nat.pow 2 k) := by
  have hpos := unit_pos k
  rw [cut, halfEven]
  generalize Nat.pow 2 k = unit at *
  rcases Nat.lt_trichotomy (2 * (m % unit)) unit with hless | hhalf | hmore
  · rw [decide_eq_false (Nat.not_le_of_lt hless), if_pos (.inl hless)]
    rcases decide (m % unit ≠ 0 ∧ 2 * (m % unit) ≠ unit) with - | - <;> rfl
  · have hclear : ¬ (m % unit ≠ 0 ∧ 2 * (m % unit) ≠ unit) := fun h ↦ h.2 hhalf
    rw [decide_eq_true (Nat.le_of_eq hhalf.symm), decide_eq_false hclear]
    show m / unit + m / unit % 2 = _
    split <;> omega
  · have hset : m % unit ≠ 0 ∧ 2 * (m % unit) ≠ unit := by omega
    rw [decide_eq_true (Nat.le_of_lt hmore), decide_eq_true hset, if_neg (by omega)]
    rfl

/-! ### Rounding to 53 digits -/

/-- A mantissa that is too long is cut down to 53 digits. -/
theorem shiftToTargetExponent_eq {m k : Nat} {e : Int} (hlog : m.log2 = k + 52)
    (he : Binary.leastExponent ≤ e + k) :
    shiftToTargetExponent .binary64 m e .exact = (cut m k, e + k) := by
  have htarget : Format.binary64.targetExponent (totalExponent m e) = e + k := by
    show max ((m.log2 : Int) + 1 + e - 53) (-1074) = e + k
    rw [Binary.leastExponent] at he
    omega
  have hshift : (e + k - e).toNat = k := by omega
  show (ExtendedMantissa.ofMantissaAndAccuracy m .exact >>> _, e + _) = _
  rw [htarget, hshift, shiftRight_eq_cut]

/-- **A long mantissa is rounded to 53 digits**: the quotient, or half of it if it became too long.
-/
theorem roundWithAccuracy_eq (s : Sign) {m k : Nat} {e : Int} (hlog : m.log2 = k + 52)
    (he : Binary.leastExponent ≤ e + k) :
    ∃ M E, ∃ hpos : 0 < M, roundWithAccuracy .binary64 s m e .exact = .finite s M E hpos ∧
      scaleWeight ≤ M ∧ M < 2 * scaleWeight ∧
        (M = halfEven m (Nat.pow 2 k) ∧ E = e + k ∨
          M * 2 = halfEven m (Nat.pow 2 k) ∧ E = e + k + 1) := by
  have hround : roundWithAccuracy .binary64 s m e .exact =
      let first := shiftToTargetExponent .binary64 m e .exact
      let second := shiftToTargetExponent .binary64 first.1.roundedMantissa first.2 .exact
      if h : second.1.mantissa = 0 then .zero s
      else .finite s second.1.mantissa second.2 (Nat.pos_of_ne_zero h) := rfl
  rw [hround, shiftToTargetExponent_eq hlog he]
  dsimp only
  rw [roundedMantissa_cut]
  obtain ⟨hlow, hhigh⟩ := quotient_bounds hlog
  have hle := le_halfEven m (Nat.pow 2 k)
  have hge := halfEven_le m (Nat.pow 2 k)
  generalize halfEven m (Nat.pow 2 k) = q at *
  rcases Nat.lt_or_ge q (2 * scaleWeight) with hshort | hlong
  · have hlog' : q.log2 = 0 + 52 := log2_of_full (by omega) hshort
    have hwhole : (cut q 0).mantissa = q := Nat.div_one q
    rw [shiftToTargetExponent_eq hlog' (by omega)]
    dsimp only
    rw [dif_neg (by rw [hwhole, scaleWeight] at *; omega)]
    refine ⟨_, _, _, rfl, ?_⟩
    rw [hwhole]
    refine ⟨by omega, hshort, .inl ⟨rfl, by omega⟩⟩
  · obtain rfl : q = 2 * scaleWeight := by omega
    have hlog' : (2 * scaleWeight).log2 = 1 + 52 := by decide
    rw [shiftToTargetExponent_eq hlog' (by omega)]
    refine ⟨scaleWeight, _, by decide, rfl, ?_⟩
    exact ⟨Nat.le_refl _, by decide, .inr ⟨Nat.mul_comm _ _, rfl⟩⟩

/-! ### Packing -/

namespace Binary

theorem toNat_packComponents (negative : Bool) (scale : BitVec 11) (fraction : BitVec 52) :
    (packComponents .binary64 (sign negative) scale fraction).toNat =
      (if negative then signWeight else 0) + scale.toNat * scaleWeight + fraction.toNat := by
  show ((sign negative).toBitVec ++ scale ++ fraction).toNat = _
  rw [BitVec.toNat_append, ← Nat.shiftLeft_add_eq_or_of_lt fraction.isLt, BitVec.toNat_append,
    ← Nat.shiftLeft_add_eq_or_of_lt scale.isLt, Nat.shiftLeft_eq, Nat.shiftLeft_eq, signWeight,
    scaleWeight]
  rcases negative with - | -
  · show (0 * 2 ^ 11 + scale.toNat) * 2 ^ 52 + fraction.toNat = _
    simp
  · show (1 * 2 ^ 11 + scale.toNat) * 2 ^ 52 + fraction.toNat = _
    simp
    omega

/-- The form of a float whose bits are put together from parts. -/
theorem ofFloat?_of_bits {x : Float} {negative : Bool} {scale : BitVec 11} {fraction : BitVec 52}
    (h : x.toModel.toBits.toBitVec = packComponents .binary64 (sign negative) scale fraction) :
    ofFloat? x =
      if scale.toNat + 1 = scales then none
      else if scale.toNat = 0 then some ⟨negative, fraction.toNat, leastExponent⟩
      else some ⟨negative, fraction.toNat + scaleWeight, (scale.toNat : Int) - 1075⟩ := by
  have hbits : x.toBits.toNat =
      (if negative then signWeight else 0) + scale.toNat * scaleWeight + fraction.toNat := by
    rw [← toNat_packComponents, ← h]
    rfl
  have hscale : scale.toNat < 2048 := scale.isLt
  have hfraction : fraction.toNat < 4503599627370496 := fraction.isLt
  have hparts : decide (signWeight ≤ x.toBits.toNat) = negative ∧
      x.toBits.toNat / scaleWeight % scales = scale.toNat ∧
        x.toBits.toNat % scaleWeight = fraction.toNat := by
    rw [hbits, signWeight, scaleWeight, scales]
    rcases negative with - | -
    · refine ⟨decide_eq_false ?_, ?_, ?_⟩ <;> simp only [Bool.false_eq_true, if_false] <;> omega
    · refine ⟨decide_eq_true ?_, ?_, ?_⟩ <;> simp only [if_true] <;> omega
  rw [ofFloat?, hparts.1, hparts.2.1, hparts.2.2]

/-- The bits of a full mantissa, within the range and beyond it. -/
theorem pack_finite (s : Sign) {M : Nat} {E : Int} (hpos : 0 < M) (hlow : scaleWeight ≤ M)
    (hhigh : M < 2 * scaleWeight) (hE : leastExponent ≤ E) :
    UnpackedFloat.pack .binary64 (.finite s M E hpos) =
      if E ≤ 971 then
        packComponents .binary64 s (BitVec.ofNat 11 (E + 1075).toNat) (BitVec.ofNat 52 M)
      else packedInfinity .binary64 s := by
  have hscale : (E + 1023 + 52).toNat = (E + 1075).toNat := by omega
  have hpack : UnpackedFloat.pack .binary64 (.finite s M E hpos) =
      if 2048 ≤ (E + 1023 + 52).toNat + 1 then packedInfinity .binary64 s
      else if M.log2 + 1 = 53 then
        packComponents .binary64 s (BitVec.ofNat 11 (E + 1023 + 52).toNat) (BitVec.ofNat 52 M)
      else packComponents .binary64 s 0#11 (BitVec.ofNat 52 M) := rfl
  have hfull : M.log2 + 1 = 53 := by rw [log2_of_full hlow hhigh]
  rw [leastExponent] at hE
  rw [hpack, hscale]
  by_cases hrange : E ≤ 971
  · rw [if_pos hrange, if_neg (by omega), if_pos hfull]
  · rw [if_neg hrange, if_pos (by omega)]

/-- **What is packed is taken apart again**, unless it is beyond the range. -/
theorem ofFloat?_pack (negative : Bool) {M : Nat} {E : Int} (hpos : 0 < M) (hlow : scaleWeight ≤ M)
    (hhigh : M < 2 * scaleWeight) (hE : leastExponent ≤ E) :
    ofFloat? ⟨Float.Model.pack (.finite (sign negative) M E hpos)⟩ =
      if E ≤ 971 then some ⟨negative, M, E⟩ else none := by
  have hbits := pack_finite (sign negative) hpos hlow hhigh hE
  by_cases hrange : E ≤ 971
  · rw [if_pos hrange] at hbits ⊢
    have hscale : (BitVec.ofNat 11 (E + 1075).toNat).toNat = (E + 1075).toNat := by
      rw [BitVec.toNat_ofNat]
      rw [leastExponent] at hE
      omega
    have hfraction : (BitVec.ofNat 52 M).toNat + scaleWeight = M := by
      rw [BitVec.toNat_ofNat]
      rw [scaleWeight] at *
      omega
    rw [leastExponent] at hE
    rw [ofFloat?_of_bits hbits, hscale, hfraction, if_neg (by rw [scales]; omega),
      if_neg (by omega)]
    congr 2
    omega
  · rw [if_neg hrange] at hbits ⊢
    have hlast :
        (⟨Float.Model.pack (.finite (sign negative) M E hpos)⟩ : Float).toModel.toBits.toBitVec =
        packComponents .binary64 (sign negative) (-1#11) 0#52 := hbits
    rw [ofFloat?_of_bits hlast]
    rfl

/-- **A float within the range is unpacked as it was packed.** -/
theorem unpack_pack (negative : Bool) {M : Nat} {E : Int} (hpos : 0 < M) (hlow : scaleWeight ≤ M)
    (hhigh : M < 2 * scaleWeight) (hE : leastExponent ≤ E) (hrange : E ≤ 971) :
    (Float.Model.pack (.finite (sign negative) M E hpos)).unpack =
      .finite (sign negative) M E hpos := by
  have hx := ofFloat?_pack negative hpos hlow hhigh hE
  rw [if_pos hrange] at hx
  have hunpack := unpack_eq_of_some hx
  rwa [dif_pos hpos] at hunpack

end Binary

/-! ### Making a float of a whole number -/

theorem log2_mul_pow {m : Nat} (hm : m ≠ 0) (k : Nat) : (m * Nat.pow 2 k).log2 = m.log2 + k := by
  obtain ⟨hlow, hhigh⟩ := (Nat.log2_eq_iff hm).1 rfl
  refine (Nat.log2_eq_iff (Nat.mul_ne_zero hm (Nat.ne_of_gt (unit_pos k)))).2 ⟨?_, ?_⟩
  · rw [Nat.pow_add]
    exact Nat.mul_le_mul_right _ hlow
  · rw [Nat.add_right_comm, Nat.pow_add]
    exact Nat.mul_lt_mul_of_pos_right hhigh (unit_pos k)

/-- A full mantissa with zeros behind it is kept. -/
theorem roundWithAccuracy_full (s : Sign) {M : Nat} {E : Int} (hpos : 0 < M)
    (hlow : scaleWeight ≤ M) (hhigh : M < 2 * scaleWeight) (hE : Binary.leastExponent ≤ E)
    (k : Nat) :
    roundWithAccuracy .binary64 s (M * Nat.pow 2 k) (E - k) .exact = .finite s M E hpos := by
  have hlog : (M * Nat.pow 2 k).log2 = k + 52 := by
    rw [log2_mul_pow (Nat.ne_of_gt hpos), log2_of_full hlow hhigh]
    omega
  have hkept : halfEven (M * Nat.pow 2 k) (Nat.pow 2 k) = M := by
    have h := halfEven_mul M 1 (unit_pos k)
    rwa [Nat.one_mul, halfEven_one] at h
  obtain ⟨M', E', hpos', hround, hlow', hhigh', hcases⟩ :=
    roundWithAccuracy_eq s (e := E - k) hlog (by omega)
  rw [hkept] at hcases
  rw [hround]
  rcases hcases with ⟨hM, hE'⟩ | ⟨hM, -⟩
  · exact Binary.finite_congr hM (by omega)
  · omega

/-- A number of at most 53 digits, lengthened to them. -/
theorem lengthened_full {n : Nat} (hn : 0 < n) (hshort : n < Nat.pow 2 53) :
    scaleWeight ≤ n * Nat.pow 2 (52 - n.log2) ∧ n * Nat.pow 2 (52 - n.log2) < 2 * scaleWeight := by
  have hne : n ≠ 0 := Nat.ne_of_gt hn
  have hlog : (n * Nat.pow 2 (52 - n.log2)).log2 = 52 := by
    have := (Nat.log2_lt hne).2 hshort
    rw [log2_mul_pow hne]
    omega
  exact (Nat.log2_eq_iff (Nat.mul_ne_zero hne (Nat.ne_of_gt (unit_pos _)))).1 hlog

/-- An integer of at most 53 binary digits fills its mantissa up with zeros. -/
theorem toFloat_toUInt64 {n : Nat} (hn : 0 < n) (hshort : n < Nat.pow 2 53)
    (hpos : 0 < n * Nat.pow 2 (52 - n.log2)) :
    n.toUInt64.toFloat =
      ⟨Float.Model.pack (.finite .positive (n * Nat.pow 2 (52 - n.log2)) (n.log2 - 52) hpos)⟩ := by
  have hlog : n.log2 < 53 := (Nat.log2_lt (Nat.ne_of_gt hn)).2 hshort
  obtain ⟨hlow, hhigh⟩ := lengthened_full hn hshort
  have hword : n.toUInt64.toNat = n :=
    Nat.mod_eq_of_lt (Nat.lt_trans hshort (Nat.pow_lt_pow_right (by decide) (by decide)))
  have hmake :
      n.toUInt64.toFloat = ⟨Float.Model.pack (UnpackedFloat.ofInt .binary64 n.toUInt64.toNat)⟩ :=
    rfl
  have hsign : UnpackedFloat.ofInt .binary64 n = UnpackedFloat.round .binary64 .positive n 0 := by
    have hgt : compare (n : Int) 0 = .gt := Int.compare_eq_gt.2 (by omega)
    delta UnpackedFloat.ofInt UnpackedFloat.normalize
    rw [hgt]
    rfl
  have htarget : Format.binary64.targetExponent (totalExponent n 0) = n.log2 - 52 := by
    show max ((n.log2 : Int) + 1 + 0 - 53) (-1074) = n.log2 - 52
    omega
  have hround : UnpackedFloat.round .binary64 .positive n 0 =
      roundWithAccuracy .binary64 .positive
        (n <<< (0 - Format.binary64.targetExponent (totalExponent n 0)).toNat)
        (0 - ((0 - Format.binary64.targetExponent (totalExponent n 0)).toNat : Int)) .exact := rfl
  have hshift : (0 - ((n.log2 : Int) - 52)).toNat = 52 - n.log2 := by omega
  have hexponent : (0 : Int) - (52 - n.log2 : Nat) = (n.log2 : Int) - 52 - (0 : Nat) := by omega
  rw [hmake, hword, hsign, hround, htarget, hshift, Nat.shiftLeft_eq, hexponent]
  have hfull := roundWithAccuracy_full .positive hpos hlow hhigh
    (E := (n.log2 : Int) - 52) (by rw [Binary.leastExponent]; omega) 0
  have hzeros : n * Nat.pow 2 (52 - n.log2) * Nat.pow 2 0 = n * 2 ^ (52 - n.log2) := Nat.mul_one _
  rw [hzeros] at hfull
  exact congrArg (fun f ↦ (⟨Float.Model.pack f⟩ : Float)) hfull

/-- Multiplying by one changes nothing. -/
theorem mul_one_pack {M : Nat} {E : Int} (hpos : 0 < M) (hlow : scaleWeight ≤ M)
    (hhigh : M < 2 * scaleWeight) (hE : Binary.leastExponent ≤ E) (hrange : E ≤ 971) :
    (⟨Float.Model.pack (.finite .positive M E hpos)⟩ : Float) * Float.ofBits 4607182418800017408 =
      ⟨Float.Model.pack (.finite .positive M E hpos)⟩ := by
  have hleft : (⟨Float.Model.pack (.finite .positive M E hpos)⟩ : Float).toModel.unpack =
      .finite .positive M E hpos := Binary.unpack_pack false hpos hlow hhigh hE hrange
  have hone : (Float.ofBits 4607182418800017408).toModel.unpack =
      .finite .positive scaleWeight (-52) (by decide) := by
    have hform : Binary.ofFloat? (Float.ofBits 4607182418800017408) =
        some ⟨false, scaleWeight, -52⟩ := by
      decide +kernel
    exact Binary.unpack_eq_of_some hform
  have hmul (a b : Float) :
      a * b = ⟨Float.Model.pack (UnpackedFloat.mul .binary64 a.toModel.unpack b.toModel.unpack)⟩ :=
        rfl
  rw [hmul, hleft, hone]
  exact congrArg (fun f ↦ (⟨Float.Model.pack f⟩ : Float))
    (roundWithAccuracy_full .positive hpos hlow hhigh hE 52)

/-- What a float of a whole number is made of: a full mantissa, and the number it stands for. -/
structure Makes (n M : Nat) (E : Int) : Prop where
  low : scaleWeight ≤ M
  high : M < 2 * scaleWeight
  least : -52 ≤ E
  size : M * Nat.pow 2 (E + 52).toNat = nearest n * scaleWeight

/-- Making a float of an integer of at most 53 binary digits. -/
theorem ofScientific_short {n : Nat} (hn : 0 < n) (hshort : n < Nat.pow 2 53) :
    ∃ M E, ∃ hpos : 0 < M,
      Float.ofScientific n false 0 = ⟨Float.Model.pack (.finite .positive M E hpos)⟩ ∧
        Makes n M E := by
  have hlog : n.log2 < 53 := (Nat.log2_lt (Nat.ne_of_gt hn)).2 hshort
  obtain ⟨hlow, hhigh⟩ := lengthened_full hn hshort
  have hpos : 0 < n * Nat.pow 2 (52 - n.log2) := Nat.mul_pos hn (unit_pos _)
  have hmake : Float.ofScientific n false 0 =
      n.toUInt64.toFloat * Float.ofBits 4607182418800017408 := by
    delta Float.ofScientific
    rw [dif_pos ⟨hshort, by decide⟩]
    rfl
  refine ⟨n * Nat.pow 2 (52 - n.log2), n.log2 - 52, hpos, ?_, hlow, hhigh, by omega, ?_⟩
  · rw [hmake, toFloat_toUInt64 hn hshort hpos]
    exact mul_one_pack hpos hlow hhigh (by rw [Binary.leastExponent]; omega) (by omega)
  · have hexponent : ((n.log2 : Int) - 52 + 52).toNat = n.log2 := by omega
    have hsplit : Nat.pow 2 (52 - n.log2) * Nat.pow 2 n.log2 = scaleWeight :=
      (Nat.pow_add 2 _ _).symm.trans (by rw [Nat.sub_add_cancel (by omega)]; rfl)
    rw [hexponent, nearest_of_lt hshort, Nat.mul_assoc, hsplit]

/-- Making a float of a longer integer, which is rounded. -/
theorem ofScientific_long {n : Nat} (hlong : Nat.pow 2 53 ≤ n) :
    ∃ M E, ∃ hpos : 0 < M,
      Float.ofScientific n false 0 = ⟨Float.Model.pack (.finite .positive M E hpos)⟩ ∧
        Makes n M E := by
  have hn : 0 < n := Nat.lt_of_lt_of_le (unit_pos 53) hlong
  have hlog := log2_of_le hlong
  have hmake : Float.ofScientific n false 0 =
      ⟨Float.Model.pack
        (roundWithAccuracy .binary64 .positive (n * Nat.pow 2 53) (-53) .exact)⟩ := by
    have hproduct : UnpackedFloat.ofScientific .binary64 n 0 =
        roundWithAccuracy .binary64 .positive (n <<< 53 * 1) (-53) .exact := by
      have hbits : (2 : Int) ^ Format.binary64.exponentBits = 2048 := by decide
      delta UnpackedFloat.ofScientific
      rw [hbits, dif_neg (Nat.ne_of_gt hn), if_neg (by decide), if_neg (by omega),
        if_pos (Int.le_refl 0)]
      rfl
    rw [Nat.mul_one, Nat.shiftLeft_eq] at hproduct
    delta Float.ofScientific
    rw [dif_neg fun h ↦ Nat.not_lt_of_le hlong h.1]
    exact congrArg (fun f ↦ (⟨Float.Model.pack f⟩ : Float)) hproduct
  have hlength : (n * Nat.pow 2 53).log2 = (n.log2 + 1) + 52 := by
    rw [log2_mul_pow (Nat.ne_of_gt hn)]
  -- The digits that are cut off are those that were put behind the number, and those that are
  -- dropped.
  have hkept : halfEven (n * Nat.pow 2 53) (Nat.pow 2 (n.log2 + 1)) =
      halfEven n (Nat.pow 2 (dropped n)) := by
    have hsplit : Nat.pow 2 (n.log2 + 1) = Nat.pow 2 (dropped n) * Nat.pow 2 53 := by
      rw [hlog]
      exact Nat.pow_add 2 (dropped n) 53
    rw [hsplit, halfEven_mul _ _ (unit_pos 53)]
  obtain ⟨M, E, hpos, hround, hlow, hhigh, hcases⟩ :=
    roundWithAccuracy_eq .positive (e := -53) hlength (by rw [Binary.leastExponent]; omega)
  rw [hkept] at hcases
  refine ⟨M, E, hpos, by rw [hmake, hround], hlow, hhigh, by omega, ?_⟩
  have hsize : Nat.pow 2 (dropped n + 52) = Nat.pow 2 (dropped n) * scaleWeight :=
    Nat.pow_add 2 _ 52
  rw [nearest, Nat.mul_assoc, ← hsize]
  rcases hcases with ⟨hM, hE⟩ | ⟨hM, hE⟩
  · rw [← hM, show (E + 52).toNat = dropped n + 52 by omega]
  · have hdouble : Nat.pow 2 (dropped n + 52 + 1) = 2 * Nat.pow 2 (dropped n + 52) :=
      Nat.pow_succ'
    rw [← hM, show (E + 52).toNat = dropped n + 52 + 1 by omega, hdouble, Nat.mul_assoc]

/-- **The float of a whole number is made of the nearest one.** -/
theorem ofScientific_makes {n : Nat} (hn : 0 < n) :
    ∃ M E, ∃ hpos : 0 < M,
      Float.ofScientific n false 0 = ⟨Float.Model.pack (.finite .positive M E hpos)⟩ ∧
        Makes n M E := by
  rcases Nat.lt_or_ge n (Nat.pow 2 53) with hshort | hlong
  · exact ofScientific_short hn hshort
  · exact ofScientific_long hlong

namespace Makes

variable {n M : Nat} {E : Int}

/-- The float that an integer makes is whole, and is the nearest one. -/
theorem toInt? (h : Makes n M E) (negative : Bool) :
    (⟨negative, M, E⟩ : Binary).toInt? =
      some (if negative then -(nearest n : Int) else (nearest n : Int)) := by
  have hsize := h.size
  have hleast := h.least
  rw [Binary.toInt?]
  dsimp only
  by_cases hE : 0 ≤ E
  · have hsplit : Nat.pow 2 (E + 52).toNat = Nat.pow 2 E.toNat * scaleWeight := by
      rw [show (E + 52).toNat = E.toNat + 52 by omega]
      exact Nat.pow_add 2 _ 52
    rw [hsplit, ← Nat.mul_assoc] at hsize
    rw [if_pos hE, Nat.mul_right_cancel (by decide) hsize]
  · have hsplit : scaleWeight = Nat.pow 2 (-E).toNat * Nat.pow 2 (E + 52).toNat := by
      refine .trans ?_ (Nat.pow_add 2 _ _)
      rw [show (-E).toNat + (E + 52).toNat = 52 by omega]
      rfl
    rw [hsplit, ← Nat.mul_assoc] at hsize
    have hM := Nat.mul_right_cancel (unit_pos _) hsize
    rw [if_neg hE, if_pos (by rw [hM]; exact Nat.mul_mod_left _ _), hM,
      Nat.mul_div_cancel _ (unit_pos _)]

theorem nearest_ne_zero (h : Makes n M E) : nearest n ≠ 0 := by
  intro hzero
  have hsize := h.size
  rw [hzero, Nat.zero_mul] at hsize
  have hpos : 0 < M := Nat.lt_of_lt_of_le (by decide) h.low
  exact Nat.ne_of_gt (Nat.mul_pos hpos (unit_pos _)) hsize

theorem exponent_le_iff (h : Makes n M E) {e : Int} (he : -52 ≤ e) :
    E ≤ e ↔ (nearest n).log2 < (e + 53).toNat := by
  have hsize := h.size
  have hleast := h.least
  have hnext : (e + 53).toNat = (e + 52).toNat + 1 := by omega
  rw [Nat.log2_lt h.nearest_ne_zero]
  constructor
  · intro hE
    refine Nat.lt_of_mul_lt_mul_right (a := scaleWeight) ?_
    calc nearest n * scaleWeight = M * Nat.pow 2 (E + 52).toNat := hsize.symm
      _ < 2 * scaleWeight * Nat.pow 2 (E + 52).toNat :=
        Nat.mul_lt_mul_of_pos_right h.high (unit_pos _)
      _ ≤ 2 * scaleWeight * Nat.pow 2 (e + 52).toNat :=
          Nat.mul_le_mul_left _ (Nat.pow_le_pow_right (by decide) (by omega))
      _ = Nat.pow 2 (e + 52).toNat * 2 * scaleWeight := by rw [Nat.mul_comm, Nat.mul_assoc]
      _ = 2 ^ (e + 53).toNat * scaleWeight := by rw [hnext]; rfl
  · intro hn
    by_contra hE
    refine Nat.not_le_of_lt hn (Nat.le_of_mul_le_mul_right (c := scaleWeight) ?_ (by decide))
    calc 2 ^ (e + 53).toNat * scaleWeight = scaleWeight * 2 ^ (e + 53).toNat := Nat.mul_comm _ _
      _ ≤ M * Nat.pow 2 (E + 52).toNat :=
          Nat.mul_le_mul h.low (Nat.pow_le_pow_right (by decide) (by omega))
      _ = nearest n * scaleWeight := hsize

/-- The nearest float is finite exactly if it has at most 1024 binary digits. -/
theorem range_iff (h : Makes n M E) : E ≤ 971 ↔ (nearest n).log2 < 1024 :=
  h.exponent_le_iff (by decide)

end Makes

/-! ### Reading whole numerals -/

/-- A float beyond the range is infinite. -/
theorem pack_beyond {M : Nat} {E : Int} (hpos : 0 < M) (hlow : scaleWeight ≤ M)
    (hhigh : M < 2 * scaleWeight) (hbeyond : 971 < E) :
    (⟨Float.Model.pack (.finite .positive M E hpos)⟩ : Float) = 1 / 0 := by
  have hbits := Binary.pack_finite .positive hpos hlow hhigh (E := E)
    (by rw [Binary.leastExponent]; omega)
  rw [if_neg (by omega)] at hbits
  have hmodel : Float.Model.pack (.finite .positive M E hpos) =
      Float.Model.pack (.infinity .positive) := by
    rw [Float.Model.mk.injEq]
    exact congrArg UInt64.ofBitVec hbits
  rw [hmodel]
  rfl

/-- A float within the range is negated by its sign. -/
theorem neg_pack {M : Nat} {E : Int} (hpos : 0 < M) (hlow : scaleWeight ≤ M)
    (hhigh : M < 2 * scaleWeight) (hE : Binary.leastExponent ≤ E) (hrange : E ≤ 971) :
    -(⟨Float.Model.pack (.finite .positive M E hpos)⟩ : Float) =
      ⟨Float.Model.pack (.finite .negative M E hpos)⟩ := by
  have hneg (x : Float) : -x = ⟨Float.Model.pack x.toModel.unpack.neg⟩ := rfl
  have hunpack : (⟨Float.Model.pack (.finite .positive M E hpos)⟩ : Float).toModel.unpack =
      .finite .positive M E hpos := Binary.unpack_pack false hpos hlow hhigh hE hrange
  rw [hneg, hunpack]
  rfl

/-- A decimal digit is worth more than three binary ones. -/
theorem three_mul_le_log2 {n k : Nat} (hk : 0 < k) (h : k < (Nat.toDigits 10 n).length) :
    3 * k ≤ n.log2 := by
  have hlarge : 10 ^ k ≤ n := by
    by_contra hlt
    exact Nat.not_lt_of_le ((Nat.length_toDigits_le_iff (by decide) hk).2 (Nat.lt_of_not_le hlt)) h
  have hpos : n ≠ 0 := Nat.ne_of_gt (Nat.lt_of_lt_of_le (Nat.pow_pos (by decide)) hlarge)
  refine (Nat.le_log2 hpos).2 (Nat.le_trans ?_ hlarge)
  rw [Nat.pow_mul]
  exact Nat.pow_le_pow_left (by decide) k

/-- A number that is within the range when rounded has not too many digits to be made. -/
theorem length_toDigits_le {n : Nat} (hn : (nearest n).log2 < 1024) :
    (Nat.toDigits 10 n).length ≤ 400 := by
  by_contra hlong
  have hlog := three_mul_le_log2 (k := 400) (by decide) (Nat.lt_of_not_le hlong)
  have hne : n ≠ 0 := by
    rintro rfl
    exact hlong (by decide)
  have hnearest : Nat.pow 2 n.log2 ≤ nearest n :=
    log2_le_nearest ((Nat.le_log2 hne).1 (Nat.le_trans (by decide) hlog))
  have hpos : nearest n ≠ 0 := Nat.ne_of_gt (Nat.lt_of_lt_of_le (unit_pos _) hnearest)
  have := (Nat.le_log2 hpos).2 hnearest
  omega

theorem toFloat_of_short (negative : Bool) {n : Nat} (hn : 0 < n)
    (hshort : (Nat.toDigits 10 n).length ≤ 400) :
    Numeral.toFloat ⟨negative, n, 0⟩ =
      if negative then -Float.ofScientific n false 0 else Float.ofScientific n false 0 := by
  have hlarge : ¬ (400 : Int) < (Nat.toDigits 10 n).length + 0 := by omega
  have hsmall : ¬ ((Nat.toDigits 10 n).length : Int) + 0 < -400 := by omega
  rw [Numeral.toFloat]
  dsimp only
  rw [if_neg (Nat.ne_of_gt hn), if_neg hlarge, if_neg hsmall]
  rfl

/-- **What a whole numeral is read as**: the nearest number of at most 53 binary digits, if that is
within the range. -/
theorem wholeValue?_toFloat (negative : Bool) {n : Nat} (hn : (nearest n).log2 < 1024) :
    wholeValue? (Numeral.toFloat ⟨negative, n, 0⟩) =
      some (if negative then -(nearest n : Int) else (nearest n : Int)) := by
  rcases Nat.eq_zero_or_pos n with rfl | hpos
  · rcases negative with - | - <;> decide +kernel
  · obtain ⟨M, E, hM, hmake, h⟩ := ofScientific_makes hpos
    have hleast : Binary.leastExponent ≤ E := Int.le_trans (by decide) h.least
    have hrange := h.range_iff.2 hn
    have hform := Binary.ofFloat?_pack negative hM h.low h.high hleast
    rw [toFloat_of_short negative hpos (length_toDigits_le hn), hmake,
      neg_pack hM h.low h.high hleast hrange]
    have hsigned : (if negative then (⟨Float.Model.pack (.finite .negative M E hM)⟩ : Float)
        else ⟨Float.Model.pack (.finite .positive M E hM)⟩) =
        ⟨Float.Model.pack (.finite (Binary.sign negative) M E hM)⟩ := by
      rcases negative with - | - <;> rfl
    rw [hsigned, wholeValue?, hform, if_pos hrange]
    exact h.toInt? negative

/-- A whole numeral beyond the range is infinite. -/
theorem toFloat_beyond (negative : Bool) {n : Nat} (hn : ¬ (nearest n).log2 < 1024) :
    Numeral.toFloat ⟨negative, n, 0⟩ = if negative then -(1 / 0) else 1 / 0 := by
  rcases Nat.eq_zero_or_pos n with rfl | hpos
  · exact absurd (by decide) hn
  · rcases Nat.lt_or_ge 400 (Nat.toDigits 10 n).length with hlong | hshort
    · have hlarge : (400 : Int) < (Nat.toDigits 10 n).length + 0 := by omega
      rw [Numeral.toFloat]
      dsimp only
      rw [if_neg (Nat.ne_of_gt hpos), if_pos hlarge]
    · obtain ⟨M, E, hM, hmake, h⟩ := ofScientific_makes hpos
      have hbeyond : ¬ E ≤ 971 := fun hE ↦ hn (h.range_iff.1 hE)
      rw [toFloat_of_short negative hpos hshort, hmake,
        pack_beyond hM h.low h.high (Int.lt_of_not_ge hbeyond)]

theorem wholeValue?_infinite (negative : Bool) :
    wholeValue? (if negative then -(1 / 0) else 1 / 0) = none := by
  rcases negative with - | - <;> decide +kernel

end FlowCanvas.Number
