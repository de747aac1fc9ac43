import FlowCanvas.Palette.Kind
import FlowCanvas.Proofs.Numbering
import FlowCanvas.Proofs.Rounding

/-!
# Texts of integers as numbers

A text that is written for a number becomes one: its blanks are dropped, its digits are read, and
what they spell is rounded to a float, which becomes an integer again if it is whole. A text of an
integer goes through all of this unchanged up to the rounding (`lenientFloat?_digits`). So **an
integer comes back exactly if it is a float**, and otherwise silently as the nearest one, or as
infinity (`coerce_integerText`).
-/

namespace FlowCanvas

namespace Text

theorem trimBoth_of_forall {p : Char → Bool} {cs : List Char} (h : ∀ c ∈ cs, p c = false) :
    trimBoth p cs = cs := by
  have hkept : ∀ {ds : List Char}, (∀ c ∈ ds, p c = false) → ds.dropWhile p = ds := by
    intro ds hds
    cases ds with
    | nil => rfl
    | cons d ds => exact List.dropWhile_cons_of_neg (by simp [hds d List.mem_cons_self])
  rw [trimBoth, hkept h, hkept fun c hc ↦ h c (List.mem_reverse.1 hc), List.reverse_reverse]

end Text

namespace Number

variable {digits : List Char}

/-! ### Reading digits -/

theorem toNat_of_isDigit {c : Char} (h : c.isDigit = true) : 48 ≤ c.toNat ∧ c.toNat ≤ 57 := by
  simp only [Char.isDigit, Bool.and_eq_true, decide_eq_true_eq] at h
  exact ⟨UInt32.le_iff_toNat_le.1 h.1, UInt32.le_iff_toNat_le.1 h.2⟩

theorem toLower_of_isDigit {c : Char} (h : c.isDigit = true) : c.toLower = c := by
  have hnine := (toNat_of_isDigit h).2
  have hlower : ¬ (c.val ≥ 'A'.val ∧ c.val ≤ 'Z'.val) := fun hupper ↦ by
    have hletter : 65 ≤ c.toNat := UInt32.le_iff_toNat_le.1 hupper.1
    omega
  exact dif_neg hlower

theorem isWhite_of_isDigit {c : Char} (h : c.isDigit = true) : Text.isWhite c = false := by
  have := toNat_of_isDigit h
  simp only [Text.isWhite]
  generalize c.toNat = n at *
  simp
  omega

/-- Digits of ASCII and a minus sign are left as they are. -/
theorem asciiDigits_of_forall {cs : List Char} (h : ∀ c ∈ cs, c.isDigit = true ∨ c = '-') :
    asciiDigits cs = cs := by
  rw [asciiDigits]
  refine (List.map_congr_left fun c hc ↦ ?_).trans (List.map_id cs)
  rcases h c hc with hdigit | rfl
  · have hzero := (toNat_of_isDigit hdigit).1
    rw [digitValue?_of_isDigit hdigit, Option.map_some, Option.getD_some,
      show 48 + (c.toNat - 48) = c.toNat by omega, Char.ofNat_toNat]
    rfl
  · rfl

/-- Where there is nothing to drop, nothing is dropped. -/
theorem dropSeparators_of_forall {cs : List Char} {previous : Char} (hprevious : previous ≠ '_')
    (h : ∀ c ∈ cs, c ≠ '_') : dropSeparators previous cs = some cs := by
  induction cs generalizing previous with
  | nil => rw [dropSeparators, if_neg hprevious]
  | cons c cs ih =>
    have hc : c ≠ '_' := h c List.mem_cons_self
    rw [dropSeparators, if_neg hc, if_neg (by simp [hprevious]),
      ih hc fun d hd ↦ h d (List.mem_cons_of_mem _ hd), Option.map_some]

/-- Digits and nothing else are a numeral. -/
theorem magnitude?_digits (negative : Bool) (hne : digits ≠ [])
    (hdigits : ∀ c ∈ digits, c.isDigit = true) :
    Numeral.magnitude? negative digits = some ⟨negative, Text.digitsValue digits, 0⟩ := by
  have htake : digits.takeWhile Char.isDigit = digits := by
    rw [← List.append_nil digits, List.takeWhile_append_of_pos hdigits, List.takeWhile_nil]
  have hdrop : digits.dropWhile Char.isDigit = [] := by
    rw [← List.append_nil digits, List.dropWhile_append_of_pos hdigits, List.dropWhile_nil]
  have hempty : (digits.isEmpty && List.isEmpty ([] : List Char)) = false := by simpa using hne
  rw [Numeral.magnitude?, htake, hdrop]
  dsimp only
  rw [hempty, List.append_nil]
  rfl

/-- No word for what is not finite begins with a digit. -/
theorem plainFloat?_of_takeSign {negative : Bool} {cs : List Char}
    (hsign : Numeral.takeSign cs = (negative, digits)) (hne : digits ≠ [])
    (hdigits : ∀ c ∈ digits, c.isDigit = true) :
    plainFloat? cs = some (Numeral.toFloat ⟨negative, Text.digitsValue digits, 0⟩) := by
  have hlower : digits.map Char.toLower = digits :=
    (List.map_congr_left fun c hc ↦ toLower_of_isDigit (hdigits c hc)).trans (List.map_id digits)
  have hword (c : Char) (hc : c.isDigit = false) (word : String) (hmem : c ∈ word.toList) :
      String.ofList digits ≠ word := by
    rintro rfl
    rw [String.toList_ofList] at hmem
    exact absurd (hdigits c hmem) (by simp [hc])
  have hinfinite : ¬ (decide (String.ofList digits = "inf") ||
      decide (String.ofList digits = "infinity")) := by
    simp [hword 'i' (by decide) "inf" (by decide), hword 'i' (by decide) "infinity" (by decide)]
  rw [plainFloat?, hsign]
  dsimp only
  rw [hlower, if_neg hinfinite, if_neg (hword 'n' (by decide) "nan" (by decide)),
    magnitude?_digits negative hne hdigits, Option.map_some]

/-- **A text of digits is read as what the digits spell**, with or without a minus. -/
theorem lenientFloat?_digits (negative : Bool) (hne : digits ≠ [])
    (hdigits : ∀ c ∈ digits, c.isDigit = true) :
    lenientFloat? (String.ofList ((if negative then ['-'] else []) ++ digits)) =
      some (Numeral.toFloat ⟨negative, Text.digitsValue digits, 0⟩) := by
  have hchars : ∀ c ∈ (if negative then ['-'] else []) ++ digits, c.isDigit = true ∨ c = '-' := by
    intro c hc
    rcases List.mem_append.1 hc with hsign | hdigit
    · rcases negative with - | -
      · exact absurd hsign List.not_mem_nil
      · exact .inr (List.mem_singleton.1 hsign)
    · exact .inl (hdigits c hdigit)
  have hsign : Numeral.takeSign ((if negative then ['-'] else []) ++ digits) =
      (negative, digits) := by
    rcases negative with - | -
    · obtain ⟨d, ds, rfl⟩ := List.exists_cons_of_ne_nil hne
      have hd := hdigits d List.mem_cons_self
      show Numeral.takeSign (d :: ds) = (false, d :: ds)
      unfold Numeral.takeSign
      split
      · next heq =>
        rw [(List.cons.inj heq).1] at hd
        exact absurd hd (by decide)
      · next heq =>
        rw [(List.cons.inj heq).1] at hd
        exact absurd hd (by decide)
      · rfl
    · rfl
  generalize (if negative then ['-'] else []) ++ digits = cs at hchars hsign
  have hwhite : ∀ c ∈ cs, Text.isWhite c = false := by
    intro c hc
    rcases hchars c hc with hdigit | rfl
    · exact isWhite_of_isDigit hdigit
    · decide
  have hplain : ∀ c ∈ cs, c ≠ '_' := by
    rintro c hc rfl
    exact absurd (hchars _ hc) (by decide)
  rw [lenientFloat?, String.toList_ofList, Text.trimBoth_of_forall hwhite,
    asciiDigits_of_forall hchars, dropSeparators_of_forall (by decide) hplain]
  exact plainFloat?_of_takeSign hsign hne hdigits

/-! ### Texts of integers -/

/-- The text of an integer, with zeros in front of its digits. -/
def integerText (n : Int) (zeros : Nat) : String :=
  String.ofList ((if n < 0 then ['-'] else []) ++
    (List.replicate zeros '0' ++ Nat.toDigits 10 n.natAbs))

/-- Without zeros, it is the usual one. -/
theorem integerText_zero (n : Int) : integerText n 0 = toString n := by
  rcases n with m | m
  · have hnonneg : ¬ Int.ofNat m < 0 := Int.not_lt.2 (Int.natCast_nonneg m)
    rw [integerText, if_neg hnonneg]
    exact Nat.repr_eq_ofList_toDigits.symm
  · rw [integerText, if_pos (Int.negSucc_lt_zero m)]
    show String.ofList (['-'] ++ Nat.toDigits 10 (m + 1)) = "-" ++ (m + 1).repr
    rw [Nat.repr_eq_ofList_toDigits, String.ofList_append]

theorem isDigit_zeros {zeros n : Nat} : ∀ c ∈ List.replicate zeros '0' ++ Nat.toDigits 10 n,
    c.isDigit = true := by
  intro c hc
  rcases List.mem_append.1 hc with hzero | hdigit
  · rw [List.eq_of_mem_replicate hzero]
    decide
  · exact Nat.isDigit_of_mem_toDigits (by decide) (by decide) hdigit

/-- Leading zeros count for nothing. -/
theorem digitsValue_zeros (zeros n : Nat) :
    Text.digitsValue (List.replicate zeros '0' ++ Nat.toDigits 10 n) = n := by
  have hzeros : Nat.ofDigitChars 10 (List.replicate zeros '0') 0 = 0 := by
    induction zeros with
    | zero => rfl
    | succ zeros ih =>
      rw [List.replicate_succ, Nat.ofDigitChars_cons]
      exact ih
  rw [digitsValue_eq_ofDigitChars isDigit_zeros, Nat.ofDigitChars_append, hzeros,
    Nat.ofDigitChars_ten_toDigits]

/-- **What the text of an integer is read as.** -/
theorem lenientFloat?_integerText (n : Int) (zeros : Nat) :
    lenientFloat? (integerText n zeros) = some (Numeral.toFloat ⟨decide (n < 0), n.natAbs, 0⟩) := by
  have hne : List.replicate zeros '0' ++ Nat.toDigits 10 n.natAbs ≠ [] :=
    List.append_ne_nil_of_right_ne_nil _ Nat.toDigits_ne_nil
  have h := lenientFloat?_digits (decide (n < 0)) hne isDigit_zeros
  simpa only [decide_eq_true_eq, digitsValue_zeros, integerText] using h

theorem point_not_mem_integerText (n : Int) (zeros : Nat) : '.' ∉ (integerText n zeros).toList := by
  rw [integerText, String.toList_ofList, List.mem_append]
  rintro (hsign | hdigit)
  · split at hsign <;> simp at hsign
  · exact absurd (isDigit_zeros _ hdigit) (by decide)

end Number

namespace Kind

open Number

variable {s : String} {x : Float}

/-- A text without a point that gives a whole number is read as an integer. -/
theorem readNumber_whole {n : Int} (hs : '.' ∉ s.toList) (hx : lenientFloat? s = some x)
    (hn : wholeValue? x = some n) : readNumber s = .ok (.int n) := by
  simp [readNumber, hx, hn, hs]

/-- A number that is not whole is read as a float. -/
theorem readNumber_other (hx : lenientFloat? s = some x) (hn : wholeValue? x = none) :
    readNumber s = .ok (.float x) := by
  simp [readNumber, hx, hn]

/-- **An integer that is written as a text comes back exactly if it is a float.** For every integer
and any number of zeros in front of its digits, where none gives its usual text, bringing the text
to a number gives the nearest integer of at most 53 binary digits if that has no more than 1024, and
infinity otherwise; and so it gives the integer itself exactly if this has at most 1024 binary
digits, of which all behind the first 53 are zeros. -/
theorem coerce_integerText (n : Int) (zeros : Nat) :
    integerText n 0 = toString n ∧
      Kind.number.coerce (.text (integerText n zeros)) =
        .ok (if (nearest n.natAbs).log2 < 1024 then
          .int (if n < 0 then -(nearest n.natAbs : Int) else (nearest n.natAbs : Int))
        else .float (if n < 0 then -(1 / 0) else 1 / 0)) ∧
      (Kind.number.coerce (.text (integerText n zeros)) = .ok (.int n) ↔ IsExact n.natAbs) := by
  refine ⟨integerText_zero n, ?_⟩
  have hread := lenientFloat?_integerText n zeros
  have hcoerce :
      Kind.number.coerce (.text (integerText n zeros)) = readNumber (integerText n zeros) := rfl
  rw [hcoerce, ← nearest_eq_iff]
  by_cases hrange : (nearest n.natAbs).log2 < 1024
  · have hwhole := wholeValue?_toFloat (decide (n < 0)) hrange
    simp only [decide_eq_true_eq] at hwhole
    rw [readNumber_whole (point_not_mem_integerText n zeros) hread hwhole, if_pos hrange]
    refine ⟨rfl, ?_⟩
    rw [Except.ok.injEq, Value.int.injEq]
    constructor
    · intro h
      have hself : nearest n.natAbs = n.natAbs := by
        split at h <;> omega
      exact ⟨hself, hself ▸ hrange⟩
    · rintro ⟨hself, -⟩
      rw [hself]
      split <;> omega
  · have hbeyond := toFloat_beyond (decide (n < 0)) hrange
    have hnone := wholeValue?_infinite (decide (n < 0))
    rw [← hbeyond] at hnone
    simp only [decide_eq_true_eq] at hbeyond
    rw [readNumber_other hread hnone, if_neg hrange, hbeyond]
    refine ⟨rfl, iff_of_false (by simp) fun h ↦ hrange ?_⟩
    rw [h.1]
    exact h.2

/-- **An integer that comes back as another one**: the first odd one of 54 binary digits. -/
theorem odd_integer_rounded :
    Kind.number.coerce (.text (toString (9007199254740993 : Int))) =
      .ok (.int 9007199254740992) := by
  decide +kernel

end Kind

end FlowCanvas
