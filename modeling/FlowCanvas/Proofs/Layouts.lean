import FlowCanvas.Json.Writer
import FlowCanvas.Proofs.JsonTexts
import FlowCanvas.Proofs.Sizes
import FlowCanvas.Text.Lines

/-!
# What is written in JSON

The layout of a value is a text of the grammar, **whatever the value is**: it spells a value
(`exists_laidOut`). Texts come back as they are, and so do lists and objects of what comes back;
what comes back of a number, its digits say. A live value is written as null, and comes back as
that.

Only floats need an argument. A float has the digits of its shortest decimal, and the layout of a
decimal is a number of the grammar **unless it begins with a zero that is not alone**. The decimal
is found in an interval that does not reach down to zero, so it is not zero and begins with no zero
(`Shortest.digits_pos`).

No layout holds a carriage return, so a file is read as it was written (`LaidOut.ofFile_indented`).
-/

namespace FlowCanvas

/-! ### Digits -/

namespace Number

open Json

theorem areDigits_toDigits (n : Nat) : AreDigits (Nat.toDigits 10 n) := fun _ hc ↦
  Nat.isDigit_of_mem_toDigits (by decide) (by decide) hc

/-- The digits of a number that is not zero do not begin with a zero. -/
theorem head?_toDigits {n : Nat} (h : 0 < n) : (Nat.toDigits 10 n).head? ≠ some '0' := by
  have hsingle : ∀ d < 10, 0 < d → [d.digitChar].head? ≠ some '0' := by decide
  induction n using Nat.strongRecOn with
  | ind n ih =>
    rcases Nat.lt_or_ge n 10 with hsmall | hlarge
    · rw [Nat.toDigits_of_lt_base hsmall]
      exact hsingle n hsmall h
    · rw [Nat.toDigits_of_base_le (by decide) hlarge, List.head?_append]
      have hrest := ih (n / 10) (by omega) (by omega)
      rcases hhead : (Nat.toDigits 10 (n / 10)).head? with - | c
      · exact absurd (List.head?_eq_none_iff.1 hhead) Nat.toDigits_ne_nil
      · rwa [hhead] at hrest

/-- The digits of a number are written without leading zeros. -/
theorem isWhole_toDigits (n : Nat) : IsWhole (Nat.toDigits 10 n) where
  nonempty := Nat.toDigits_ne_nil
  digits := areDigits_toDigits n
  zero := fun h ↦ by
    rcases Nat.eq_zero_or_pos n with rfl | hpos
    · rfl
    · exact absurd h (head?_toDigits hpos)

/-! ### Shortest decimals -/

/-- An interval above zero holds no multiple that is zero. -/
theorem Shortest.multiple?_pos {i : Shortest.Interval} (hlow : 0 < i.low) {t : Int} {n : Nat}
    (h : i.multiple? t = some n) : 0 < n := by
  have hbottom : 0 < i.low * (Nat.pow 2 i.unit.toNat * Nat.pow 10 (-t).toNat) :=
    Nat.mul_pos hlow (Nat.mul_pos (Nat.two_pow_pos _) (Nat.pow_pos (by decide)))
  refine Nat.pos_of_ne_zero ?_
  rintro rfl
  unfold Shortest.Interval.multiple? at h
  dsimp only at h
  generalize i.low * _ = bottom at h hbottom
  generalize i.middle * _ / _ = below at h
  have houtside : ∀ (closed : Bool) (down top : Nat), below = 0 →
      (if closed then decide (bottom ≤ below * down) && decide (below * down ≤ top)
        else decide (bottom < below * down) && decide (below * down < top)) ≠ true := by
    rintro (- | -) down top rfl
    · simp
    · simp
      omega
  split at h
  · exact absurd h (by simp)
  · next hinside _ => exact houtside _ _ _ (Option.some.inj h) hinside
  · exact absurd (Option.some.inj h) (by omega)
  · next hinside _ =>
    split at h
    · exact houtside _ _ _ (Option.some.inj h) hinside
    · exact absurd (Option.some.inj h) (by omega)

/-- The search for a shortest decimal finds no zero for a positive interval. -/
theorem Shortest.search_pos {i : Shortest.Interval} (hlow : 0 < i.low) (hmiddle : 0 < i.middle)
    (fuel : Nat) (t : Int) : 0 < (Shortest.search i fuel t).digits := by
  induction fuel generalizing t with
  | zero => exact hmiddle
  | succ fuel ih =>
    rw [Shortest.search]
    split
    · next h => exact Shortest.multiple?_pos hlow h
    · exact ih (t - 1)

/-- The shortest decimal of a float that is not zero is not zero. -/
theorem Shortest.digits_pos {b : Binary} (h : 0 < b.mantissa) :
    0 < (Shortest.decimal b).digits := by
  refine Shortest.search_pos ?_ ?_ _ _
  · show 0 < 4 * b.mantissa - _
    split <;> omega
  · show 0 < 4 * b.mantissa
    omega

/-! ### Layouts of decimals -/

/-- A number of the grammar without its sign. -/
def IsNumeral (cs : List Char) : Prop :=
  ∃ whole fraction exponent es, IsWhole whole ∧ AreDigits fraction ∧ ExponentText exponent es ∧
    cs = whole ++ (fractionText fraction ++ es)

theorem isWhole_of_head {cs : List Char} (hne : cs ≠ []) (hdigits : AreDigits cs)
    (hhead : cs.head? ≠ some '0') : IsWhole cs :=
  ⟨hne, hdigits, fun h ↦ absurd h hhead⟩

theorem areDigits_append {cs ds : List Char} (hcs : AreDigits cs) (hds : AreDigits ds) :
    AreDigits (cs ++ ds) := fun c hc ↦ (List.mem_append.1 hc).elim (hcs c) (hds c)

theorem areDigits_zeros (n : Nat) : AreDigits (List.replicate n '0') := fun c hc ↦ by
  rw [List.eq_of_mem_replicate hc]
  rfl

theorem fractionText_of_ne {ds : List Char} (h : ds ≠ []) : fractionText ds = '.' :: ds := if_neg h

/-- The exponent of a layout: a sign and at least two digits. -/
theorem exponentText_layout (exponent : Int) : ∃ e, ExponentText e
    ('e' :: (if exponent < 0 then '-' else '+') ::
      (if (Nat.toDigits 10 exponent.natAbs).length < 2 then '0' :: Nat.toDigits 10 exponent.natAbs
        else Nat.toDigits 10 exponent.natAbs)) := by
  have hdigits : ∀ ds, ds = (if (Nat.toDigits 10 exponent.natAbs).length < 2 then
      '0' :: Nat.toDigits 10 exponent.natAbs else Nat.toDigits 10 exponent.natAbs) →
      ds ≠ [] ∧ AreDigits ds := by
    rintro ds rfl
    split
    · exact ⟨by simp, areDigits_append (areDigits_zeros 1) (areDigits_toDigits _)⟩
    · exact ⟨Nat.toDigits_ne_nil, areDigits_toDigits _⟩
  obtain ⟨hne, hall⟩ := hdigits _ rfl
  split
  · exact ⟨_, .minus (.inl rfl) hne hall⟩
  · exact ⟨_, .plus (.inl rfl) hne hall⟩

/-- **The layout of a decimal is a number**, if it is not zero. -/
theorem isNumeral_layout {d : Number.Decimal} (h : 0 < d.digits) : IsNumeral d.layout := by
  have hdigits := areDigits_toDigits d.digits
  have hhead := head?_toDigits h
  have hne : Nat.toDigits 10 d.digits ≠ [] := Nat.toDigits_ne_nil
  have hcount : 0 < (Nat.toDigits 10 d.digits).length := List.length_pos_iff.2 hne
  unfold Number.Decimal.layout
  dsimp only
  generalize Nat.toDigits 10 d.digits = digits at *
  generalize hpoint : (digits.length : Int) + d.exponent = point
  have htake : ∀ n, 0 < n → IsWhole (digits.take n) := fun n hn ↦ by
    refine isWhole_of_head (by simpa using ⟨by omega, hne⟩) ?_ ?_
    · exact fun c hc ↦ hdigits c (List.mem_of_mem_take hc)
    · rwa [List.head?_take, if_neg (by omega)]
  have hdrop : ∀ n, AreDigits (digits.drop n) := fun n c hc ↦ hdigits c (List.mem_of_mem_drop hc)
  split
  · split
    · refine ⟨['0'], List.replicate (-point).toNat '0' ++ digits, none, [], isWhole_zero,
        areDigits_append (areDigits_zeros _) hdigits, .absent, ?_⟩
      rw [fractionText_of_ne (by simp [hne])]
      simp
    · split
      · refine ⟨digits ++ List.replicate (point - digits.length).toNat '0', ['0'], none, [], ?_,
          areDigits_zeros 1, .absent, by simp [fractionText]⟩
        refine isWhole_of_head (by simp [hne]) (areDigits_append hdigits (areDigits_zeros _)) ?_
        obtain ⟨c, ds, rfl⟩ := List.exists_cons_of_ne_nil hne
        exact hhead
      · refine ⟨digits.take point.toNat, digits.drop point.toNat, none, [], htake _ (by omega),
          hdrop _, .absent, ?_⟩
        rw [fractionText_of_ne (by simp; omega)]
        simp
  · obtain ⟨e, hexponent⟩ := exponentText_layout (point - 1)
    refine ⟨digits.take 1, digits.drop 1, e, _, htake 1 (by decide), hdrop 1, hexponent, ?_⟩
    have hfraction : fractionText (digits.drop 1) =
        if digits.length = 1 then [] else '.' :: digits.drop 1 := by
      rw [fractionText]
      refine if_congr ?_ rfl rfl
      rw [List.drop_eq_nil_iff]
      omega
    rw [hfraction, List.append_assoc]

/-- A finite float has a form. -/
theorem Binary.ofFloat?_of_isFinite {x : Float} (h : x.isFinite = true) :
    ∃ b, Binary.ofFloat? x = some b := by
  rcases hform : Binary.ofFloat? x with - | b
  · have hmodel : x.isFinite = x.toModel.unpack.isFinite := rfl
    rw [hmodel] at h
    rcases Binary.unpack_eq_of_none hform with hx | ⟨s, hx⟩
    · rw [hx] at h
      exact absurd h Bool.false_ne_true
    · rw [hx] at h
      exact absurd h Bool.false_ne_true
  · exact ⟨b, rfl⟩

/-- **The text of a finite float is a number**, with a sign. -/
theorem isNumeral_floatText {x : Float} (h : x.isFinite = true) :
    ∃ negative cs, IsNumeral cs ∧ (floatText x).toList = signText negative ++ cs := by
  obtain ⟨b, hb⟩ := Binary.ofFloat?_of_isFinite h
  have hbody :
      IsNumeral (if b.mantissa = 0 then ['0', '.', '0'] else (Shortest.decimal b).layout) := by
    split
    · exact ⟨['0'], ['0'], none, [], isWhole_zero, areDigits_zeros 1, .absent, rfl⟩
    · next hzero => exact isNumeral_layout (Shortest.digits_pos (Nat.pos_of_ne_zero hzero))
  refine ⟨b.negative, _, hbody, ?_⟩
  simp only [floatText, hb, String.toList_ofList, signText]
  split <;> rfl

end Number

namespace Json

open Number

/-! ### Numbers and strings -/

/-- A number and its sign are read as a value, whatever follows. -/
theorem decimal_of_isNumeral {cs : List Char} (h : IsNumeral cs) (negative : Bool) :
    ∃ v, ∀ rest, Decimal v (signText negative ++ cs ++ rest) rest := by
  obtain ⟨whole, fraction, exponent, es, hwhole, hfraction, hexponent, rfl⟩ := h
  refine ⟨numberValue negative whole fraction exponent, fun rest ↦ ?_⟩
  refine ⟨negative, whole, fraction, exponent, es, hwhole, hfraction, hexponent, rfl, ?_⟩
  simp only [List.append_assoc]

/-- The text of an integer is a number, with a sign. -/
theorem isNumeral_toString (n : Int) :
    ∃ negative cs, IsNumeral cs ∧ (toString n).toList = signText negative ++ cs := by
  have hdigits : ∀ m, IsNumeral (Nat.toDigits 10 m) := fun m ↦
    ⟨Nat.toDigits 10 m, [], none, [], isWhole_toDigits m, fun _ hc ↦ absurd hc List.not_mem_nil,
      .absent, by simp [fractionText]⟩
  rcases n with m | m
  · refine ⟨false, _, hdigits m, ?_⟩
    show m.repr.toList = _
    rw [Nat.repr_eq_ofList_toDigits, String.toList_ofList]
    rfl
  · refine ⟨true, _, hdigits (m + 1), ?_⟩
    show ("-" ++ (m + 1).repr).toList = _
    simp [Nat.repr_eq_ofList_toDigits, signText]

/-- Small numbers are written in four hexadecimal digits that stand for them. -/
theorem code?_hexDigits : ∀ n < 32, ∃ a b c d, Text.hexDigits 4 n = [a, b, c, d] ∧
    code? a b c d = some n := by
  have hcode : ∀ n < 32, Text.hexDigits 4 n = ['0', '0', (n / 16).digitChar, (n % 16).digitChar] ∧
      code? '0' '0' (n / 16).digitChar (n % 16).digitChar = some n := by decide
  exact fun n hn ↦ ⟨_, _, _, _, hcode n hn⟩

/-- A character of a string comes back. -/
theorem characters_stringChar (c : Char) {s cs rest : List Char} (h : Characters s cs rest) :
    Characters (c :: s) (stringChar c ++ cs) rest := by
  unfold stringChar
  split_ifs with hspecial hfeed hreturn htab hback hform hsmall
  · rcases Bool.or_eq_true_iff.1 hspecial with hquote | hslash
    · obtain rfl := of_decide_eq_true hquote
      exact .letter rfl h
    · obtain rfl := of_decide_eq_true hslash
      exact .letter rfl h
  · exact hfeed ▸ .letter rfl h
  · exact hreturn ▸ .letter rfl h
  · exact htab ▸ .letter rfl h
  · obtain rfl : c = Char.ofNat 8 := by rw [← hback, Char.ofNat_toNat]
    exact .letter rfl h
  · obtain rfl : c = Char.ofNat 12 := by rw [← hform, Char.ofNat_toNat]
    exact .letter rfl h
  · obtain ⟨x, y, z, w, hdigits, hcode⟩ := code?_hexDigits c.toNat hsmall
    rw [hdigits, ← Char.ofNat_toNat c]
    exact .code hcode (by omega) (by omega) h
  · obtain ⟨hquote, hslash⟩ : c ≠ '"' ∧ c ≠ '\\' := by simpa using hspecial
    exact .plain hquote hslash (by omega) h

/-- **A string comes back as it is**, whatever follows. -/
theorem quoted_string (s : String) (rest : List Char) :
    Quoted s ((string s).toList ++ rest) rest := by
  have hall : ∀ cs : List Char, Characters cs (cs.flatMap stringChar ++ '"' :: rest) rest := by
    intro cs
    induction cs with
    | nil => exact .close
    | cons c cs ih =>
      rw [List.flatMap_cons, List.append_assoc]
      exact characters_stringChar c ih
  refine ⟨_, ?_, hall s.toList⟩
  simp [string]

/-! ### Carriage returns -/

theorem return_not_mem_digits {cs : List Char} (h : AreDigits cs) : '\r' ∉ cs := fun hmem ↦
  absurd (h _ hmem) (by decide)

theorem return_not_mem_exponent {e : Option Int} {es : List Char} (h : ExponentText e es) :
    '\r' ∉ es := by
  cases h with
  | absent => exact List.not_mem_nil
  | minus hmark _ hdigits | plus hmark _ hdigits | unsigned hmark _ hdigits =>
    have hnone := return_not_mem_digits hdigits
    rcases hmark with rfl | rfl <;> simpa using hnone

/-- A number is written without carriage returns. -/
theorem return_not_mem_numeral {cs : List Char} (h : IsNumeral cs) (negative : Bool) :
    '\r' ∉ signText negative ++ cs := by
  obtain ⟨whole, fraction, exponent, es, hwhole, hfraction, hexponent, rfl⟩ := h
  have hsign : '\r' ∉ signText negative := by cases negative <;> decide
  have hpoint : '\r' ∉ fractionText fraction := by
    rw [fractionText]
    split
    · exact List.not_mem_nil
    · simpa using return_not_mem_digits hfraction
  simp [hsign, hpoint, return_not_mem_digits hwhole.digits, return_not_mem_exponent hexponent]

/-- A string is written without carriage returns: they are escaped. -/
theorem return_not_mem_string (s : String) : '\r' ∉ (string s).toList := by
  have hhex : ∀ n < 32, '\r' ∉ Text.hexDigits 4 n := by decide
  have hchar : ∀ c, '\r' ∉ stringChar c := by
    intro c
    unfold stringChar
    split_ifs with hspecial hfeed hreturn htab hback hform hsmall
    · rcases Bool.or_eq_true_iff.1 hspecial with hquote | hslash
      · simp [of_decide_eq_true hquote]
      · simp [of_decide_eq_true hslash]
    · decide
    · decide
    · decide
    · decide
    · decide
    · simpa using hhex c.toNat hsmall
    · simpa using Ne.symm hreturn
  simp [string, hchar]

/-! ### Layouts -/

/-- **What is read of a value that was written**: every layout of `v` spells `w`, whatever follows,
and holds no carriage return. -/
structure LaidOut (v w : Value) : Prop where
  spells : ∀ level rest, Spells (.value w) ((indentedAt level v).toList ++ rest) rest
  lines : ∀ level, '\r' ∉ (indentedAt level v).toList

/-- A text comes back as it is. -/
theorem laidOut_text (s : String) : LaidOut (.text s) (.text s) :=
  ⟨fun _ rest ↦ .text (quoted_string s rest), fun _ ↦ return_not_mem_string s⟩

/-- A value that is written as a word is laid out. -/
theorem laidOut_word {v w : Value} (name : String) (h : (name, w) ∈ words)
    (hv : ∀ level, indentedAt level v = name) : LaidOut v w where
  spells := fun level rest ↦ (hv level).symm ▸ .word h
  lines := fun level ↦ by
    have hnone : ∀ e ∈ words, '\r' ∉ e.1.toList := by simp [words]
    exact (hv level).symm ▸ hnone _ h

/-- What has no text of its own is written as null. -/
theorem laidOut_null {v : Value} (hv : ∀ level, indentedAt level v = "null") : LaidOut v .null :=
  laidOut_word "null" (by simp [words]) hv

/-- A value that is written as a number is laid out. -/
theorem exists_laidOut_numeral {v : Value} {text : String} (hv : ∀ level, indentedAt level v = text)
    (h : ∃ negative cs, IsNumeral cs ∧ text.toList = signText negative ++ cs) :
    ∃ w, LaidOut v w := by
  obtain ⟨negative, cs, hcs, htext⟩ := h
  obtain ⟨w, hw⟩ := decimal_of_isNumeral hcs negative
  refine ⟨w, fun level rest ↦ ?_, fun level ↦ ?_⟩
  · rw [hv level, htext]
    exact .number (hw rest)
  · rw [hv level, htext]
    exact return_not_mem_numeral hcs negative

/-- **A float is laid out**, as a number or as one of the words for what is not finite. -/
theorem exists_laidOut_float (x : Float) : ∃ w, LaidOut (.float x) w := by
  by_cases hfinite : x.isFinite = true
  · refine exists_laidOut_numeral (fun _ ↦ ?_) (isNumeral_floatText hfinite)
    show float x = _
    rw [float, if_pos hfinite]
  · have hword : ∃ name w, (name, w) ∈ words ∧ float x = name := by
      rw [float, if_neg hfinite]
      split_ifs with hnan hnegative
      · exact ⟨_, .float (0 / 0), by simp [words], rfl⟩
      · exact ⟨_, .float (-1 / 0), by simp [words], rfl⟩
      · exact ⟨_, .float (1 / 0), by simp [words], rfl⟩
    obtain ⟨name, w, hword, hname⟩ := hword
    exact ⟨w, laidOut_word name hword fun _ ↦ hname⟩

/-! ### Lists and objects -/

theorem gap_refl (cs : List Char) : Gap cs cs := ⟨[], by simp, rfl⟩

theorem gap_blank (cs : List Char) : Gap (' ' :: cs) cs := ⟨[' '], by simp [IsBlank], rfl⟩

/-- A new line and its indentation are blanks. -/
theorem gap_lineStart (level : Nat) (cs : List Char) : Gap ((lineStart level).toList ++ cs) cs := by
  refine ⟨(lineStart level).toList, fun c hc ↦ ?_, rfl⟩
  have hc : c = '\n' ∨ c ∈ List.replicate (2 * level) ' ' := by simpa [lineStart] using hc
  rcases hc with rfl | hc
  · simp [IsBlank]
  · rw [List.eq_of_mem_replicate hc]
    simp [IsBlank]

theorem return_not_mem_lineStart (level : Nat) : '\r' ∉ (lineStart level).toList := by
  simp [lineStart, List.mem_replicate]

theorem toList_indentedItems (level : Nat) (v v' : Value) (vs : List Value) :
    (indentedItems level (v :: v' :: vs)).toList = (indentedAt level v).toList ++
      ',' :: ((lineStart level).toList ++ (indentedItems level (v' :: vs)).toList) := by
  rw [indentedItems]
  · simp
  · simp

theorem toList_indentedFields (level : Nat) (e e' : String × Value) (es : List (String × Value)) :
    (indentedFields level (e :: e' :: es)).toList = (string e.1).toList ++
      ':' :: ' ' :: ((indentedAt level e.2).toList ++
        ',' :: ((lineStart level).toList ++ (indentedFields level (e' :: es)).toList)) := by
  rw [indentedFields]
  · simp
  · simp

theorem toList_indentedField (level : Nat) (e : String × Value) :
    (indentedFields level [e]).toList =
      (string e.1).toList ++ ':' :: ' ' :: (indentedAt level e.2).toList := by
  rw [indentedFields]
  simp

/-- A filled list has its items on lines of their own, one level further in. -/
theorem toList_indentedAt_list (level : Nat) (v : Value) (vs : List Value) :
    (indentedAt level (.list (v :: vs))).toList = '[' :: ((lineStart (level + 1)).toList ++
      ((indentedItems (level + 1) (v :: vs)).toList ++ ((lineStart level).toList ++ [']']))) := by
  rw [indentedAt]
  · simp
  · simp

/-- A filled object has its members on lines of their own, one level further in. -/
theorem toList_indentedAt_object (level : Nat) (e : String × Value) (es : List (String × Value)) :
    (indentedAt level (.object (e :: es))).toList = '\x7b' :: ((lineStart (level + 1)).toList ++
      ((indentedFields (level + 1) (e :: es)).toList ++
        ((lineStart level).toList ++ ['\x7d']))) := by
  rw [indentedAt]
  · simp
  · simp

/-- Items that come back do so on lines of their own. -/
theorem spells_items {vs ws : List Value} (h : List.Forall₂ LaidOut vs ws) (hne : vs ≠ [])
    (level : Nat) {close rest : List Char} (hclose : Gap close (']' :: rest)) :
    Spells (.items ws) ((indentedItems level vs).toList ++ close) rest := by
  induction h with
  | nil => exact absurd rfl hne
  | cons hv hrest ih =>
    cases hrest with
    | nil => exact .lastItem (hv.spells level close) hclose
    | cons _ _ =>
      rw [toList_indentedItems, List.append_assoc, List.cons_append, List.append_assoc]
      exact .item (hv.spells level _) (gap_refl _) (gap_lineStart level _) (ih (by simp))

theorem return_not_mem_items {vs ws : List Value} (h : List.Forall₂ LaidOut vs ws) (level : Nat) :
    '\r' ∉ (indentedItems level vs).toList := by
  induction h with
  | nil => simp [indentedItems]
  | cons hv hrest ih =>
    cases hrest with
    | nil => exact hv.lines level
    | cons _ _ => simp [toList_indentedItems, hv.lines level, return_not_mem_lineStart, ih]

/-- A list comes back if its items do. -/
theorem laidOut_list {vs ws : List Value} (h : List.Forall₂ LaidOut vs ws) :
    LaidOut (.list vs) (.list ws) := by
  cases h with
  | nil =>
    have htext : ∀ level, (indentedAt level (.list [])).toList = ['[', ']'] := by simp [indentedAt]
    exact ⟨fun level rest ↦ htext level ▸ .emptyList (gap_refl _),
      fun level ↦ by simp [htext level]⟩
  | cons hv hrest =>
    have hall := List.Forall₂.cons hv hrest
    refine ⟨fun level rest ↦ ?_, fun level ↦ ?_⟩
    · simp only [toList_indentedAt_list, List.cons_append, List.append_assoc]
      exact .list (gap_lineStart (level + 1) _)
        (spells_items hall (by simp) (level + 1) (gap_lineStart level _))
    · simp [toList_indentedAt_list, return_not_mem_lineStart, return_not_mem_items hall]

/-- An entry comes back under its name. -/
def EntryLaidOut (e e' : String × Value) : Prop := e.1 = e'.1 ∧ LaidOut e.2 e'.2

/-- Entries that come back do so on lines of their own. -/
theorem spells_members {fields es : List (String × Value)} (h : List.Forall₂ EntryLaidOut fields es)
    (hne : fields ≠ []) (level : Nat) {close rest : List Char}
    (hclose : Gap close ('\x7d' :: rest)) :
    Spells (.members es) ((indentedFields level fields).toList ++ close) rest := by
  induction h with
  | nil => exact absurd rfl hne
  | @cons e e' _ _ he hrest ih =>
    obtain ⟨key, w⟩ := e'
    obtain ⟨rfl, hw⟩ := he
    cases hrest with
    | nil =>
      rw [toList_indentedField, List.append_assoc]
      exact .lastMember (quoted_string _ _) (gap_refl _) (gap_blank _) (hw.spells level close)
        hclose
    | cons _ _ =>
      simp only [toList_indentedFields, List.append_assoc, List.cons_append]
      exact .member (quoted_string _ _) (gap_refl _) (gap_blank _) (hw.spells level _) (gap_refl _)
        (gap_lineStart level _) (ih (by simp))

theorem return_not_mem_fields {fields es : List (String × Value)}
    (h : List.Forall₂ EntryLaidOut fields es) (level : Nat) :
    '\r' ∉ (indentedFields level fields).toList := by
  induction h with
  | nil => simp [indentedFields]
  | cons he hrest ih =>
    cases hrest with
    | nil => simp [toList_indentedField, return_not_mem_string, he.2.lines level]
    | cons _ _ =>
      simp [toList_indentedFields, return_not_mem_string, he.2.lines level,
        return_not_mem_lineStart, ih]

/-- An object comes back if its entries do. -/
theorem laidOut_object {fields es : List (String × Value)}
    (h : List.Forall₂ EntryLaidOut fields es) :
    LaidOut (.object fields) (.object (Fields.ofList es)) := by
  cases h with
  | nil =>
    have htext : ∀ level, (indentedAt level (.object [])).toList = ['\x7b', '\x7d'] := by
      simp [indentedAt]
    exact ⟨fun level rest ↦ htext level ▸ .emptyObject (gap_refl _),
      fun level ↦ by simp [htext level]⟩
  | cons he hrest =>
    have hall := List.Forall₂.cons he hrest
    refine ⟨fun level rest ↦ ?_, fun level ↦ ?_⟩
    · simp only [toList_indentedAt_object, List.cons_append, List.append_assoc]
      exact .object (gap_lineStart (level + 1) _)
        (spells_members hall (by simp) (level + 1) (gap_lineStart level _))
    · simp [toList_indentedAt_object, return_not_mem_lineStart, return_not_mem_fields hall]

/-! ### Every value -/

mutual

/-- **The layout of a value is a text of the grammar**, whatever the value is. -/
theorem exists_laidOut : (v : Value) → ∃ w, LaidOut v w
  | .null => ⟨.null, laidOut_null fun _ ↦ rfl⟩
  | .bool true => ⟨.bool true, laidOut_word "true" (by simp [words]) fun _ ↦ rfl⟩
  | .bool false => ⟨.bool false, laidOut_word "false" (by simp [words]) fun _ ↦ rfl⟩
  | .int n => exists_laidOut_numeral (fun _ ↦ rfl) (isNumeral_toString n)
  | .float x => exists_laidOut_float x
  | .text s => ⟨.text s, laidOut_text s⟩
  | .list vs =>
    let ⟨ws, h⟩ := exists_laidOut_items vs
    ⟨.list ws, laidOut_list h⟩
  | .object fields =>
    let ⟨es, h⟩ := exists_laidOut_fields fields
    ⟨.object (Fields.ofList es), laidOut_object h⟩
  | .argument _ _ => ⟨.null, laidOut_null fun _ ↦ rfl⟩
  | .point _ _ => ⟨.null, laidOut_null fun _ ↦ rfl⟩
  | .callback => ⟨.null, laidOut_null fun _ ↦ rfl⟩

theorem exists_laidOut_items : (vs : List Value) → ∃ ws, List.Forall₂ LaidOut vs ws
  | [] => ⟨[], .nil⟩
  | v :: vs =>
    let ⟨w, hw⟩ := exists_laidOut v
    let ⟨ws, hws⟩ := exists_laidOut_items vs
    ⟨w :: ws, .cons hw hws⟩

theorem exists_laidOut_fields : (fields : List (String × Value)) →
    ∃ es, List.Forall₂ EntryLaidOut fields es
  | [] => ⟨[], .nil⟩
  | (key, v) :: fields =>
    let ⟨w, hw⟩ := exists_laidOut v
    let ⟨es, hes⟩ := exists_laidOut_fields fields
    ⟨(key, w) :: es, .cons ⟨rfl, hw⟩ hes⟩

end

/-! ### Reading files -/

/-- Where there are no carriage returns, the ends of lines stay as they are. -/
theorem normalizeLineEnds_of_not_mem {cs : List Char} (h : '\r' ∉ cs) :
    Text.normalizeLineEnds cs = cs := by
  fun_induction Text.normalizeLineEnds cs with
  | case1 => rfl
  | case2 cs ih => exact absurd List.mem_cons_self h
  | case3 c cs _ ih =>
    obtain ⟨hc, hcs⟩ := not_or.1 (mt List.mem_cons.2 h)
    rw [if_neg (Ne.symm hc), ih hcs]

variable {v w : Value}

/-- **The text of a value that is laid out holds what it is laid out as.** -/
theorem LaidOut.holds (h : LaidOut v w) : Holds (indented v).toList w :=
  ⟨_, [], gap_refl _, by simpa [indented] using h.spells 0 [], gap_refl []⟩

/-- **A file is read as it was written.** -/
theorem LaidOut.ofFile_indented (h : LaidOut v w) : Text.ofFile (indented v) = indented v := by
  rw [Text.ofFile, indented, normalizeLineEnds_of_not_mem (h.lines 0), String.ofList_toList]

/-- **What is read of a text is what it holds**, if it is read at all: it may be beyond the limits
of the reader. -/
theorem Holds.eq_of_read {s : String} (h : Holds s.toList v) (hread : read .file s = .ok w) :
    w = v := by
  have hlimits := (readAll_eq_ok_iff.1 hread).2
  exact Except.ok.inj (hread.symm.trans (readAll_eq_ok_iff.2 ⟨h, hlimits⟩))

end Json

end FlowCanvas
