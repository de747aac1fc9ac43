import FlowCanvas.Json.Reader

/-!
# How texts in JSON are spelled

The leaves of the grammar of JSON, blanks, strings and numbers, as relations between a text that
**begins** with one and what follows it: `Quoted s cs rest` says that `cs` is a spelling of the
string `s` in quotes, followed by `rest`. The relations know nothing of readers, fuel and limits.

Reading is **sound**: what is read is spelled. It is also **complete**: what is spelled is read,
provided that what follows does not go on with it. Only a number can be gone on with, so this is
asked of what follows a number (`Ends`), and holds of everything that can follow one.
-/

namespace FlowCanvas.Json

/-! ### Blanks -/

/-- The characters that may stand between the parts of a text. -/
def IsBlank (c : Char) : Prop := c ∈ [' ', '\t', '\n', '\r']

/-- `Gap cs rest`: the text `cs` is `rest`, with blanks in front of it. -/
def Gap (cs rest : List Char) : Prop := ∃ blanks, (∀ c ∈ blanks, IsBlank c) ∧ cs = blanks ++ rest

/-- The character at the beginning of a text, if there is one, is no blank. -/
def Solid (cs : List Char) : Prop := ∀ c more, cs = c :: more → ¬ IsBlank c

/-- The test of the reader for blanks. -/
theorem isBlank_iff {c : Char} :
    (decide (c = ' ') || decide (c = '\t') || decide (c = '\n') || decide (c = '\r')) = true ↔
      IsBlank c := by
  simp [IsBlank, or_assoc]

theorem skipBlanks_of_solid {cs : List Char} (h : Solid cs) : skipBlanks cs = cs := by
  cases cs with
  | nil => rfl
  | cons c cs =>
    rw [skipBlanks, List.dropWhile_cons_of_neg]
    rw [isBlank_iff]
    exact h c cs rfl

theorem skipBlanks_cons_of_isBlank {c : Char} (hc : IsBlank c) (cs : List Char) :
    skipBlanks (c :: cs) = skipBlanks cs := by
  rw [skipBlanks, List.dropWhile_cons_of_pos]
  · rfl
  · exact isBlank_iff.2 hc

/-- Blanks in front of a text make no difference to what is left of it. -/
theorem skipBlanks_eq_of_gap {cs rest : List Char} (h : Gap cs rest) :
    skipBlanks cs = skipBlanks rest := by
  obtain ⟨blanks, hblanks, rfl⟩ := h
  induction blanks with
  | nil => rfl
  | cons b blanks ih =>
    rw [List.cons_append, skipBlanks_cons_of_isBlank (hblanks b List.mem_cons_self),
      ih fun c hc ↦ hblanks c (List.mem_cons_of_mem _ hc)]

/-- Blanks in front of something that is none are dropped. -/
theorem skipBlanks_of_gap {cs rest : List Char} (h : Gap cs rest) (hrest : Solid rest) :
    skipBlanks cs = rest := by
  rw [skipBlanks_eq_of_gap h, skipBlanks_of_solid hrest]

/-- What is dropped in front of a text are blanks. -/
theorem gap_skipBlanks (cs : List Char) : Gap cs (skipBlanks cs) := by
  refine ⟨_, fun c hc ↦ ?_, (List.takeWhile_append_dropWhile).symm⟩
  exact isBlank_iff.1 (List.all_eq_true.1 List.all_takeWhile c hc)

theorem Gap.length_le {cs rest : List Char} (h : Gap cs rest) : rest.length ≤ cs.length := by
  obtain ⟨blanks, -, rfl⟩ := h
  simp

/-! ### Strings -/

/-- The number that four hexadecimal digits stand for. -/
def code? (a b c d : Char) : Option Nat := do
  let a ← Text.hexValue? a
  let b ← Text.hexValue? b
  let c ← Text.hexValue? c
  let d ← Text.hexValue? d
  some (((a * 16 + b) * 16 + c) * 16 + d)

/-- The first half of a surrogate pair. -/
abbrev IsHigh (n : Nat) : Prop := 0xd800 ≤ n ∧ n < 0xdc00

/-- The second half of a surrogate pair. -/
abbrev IsLow (n : Nat) : Prop := 0xdc00 ≤ n ∧ n < 0xe000

/-- The character of a surrogate pair. -/
def paired (high low : Nat) : Char :=
  Char.ofNat (0x10000 + (high - 0xd800) * 0x400 + (low - 0xdc00))

/-- A text that begins with the second half of a surrogate pair. -/
def BeginsLow (cs : List Char) : Prop :=
  ∃ a b c d low more, cs = '\\' :: 'u' :: a :: b :: c :: d :: more ∧ code? a b c d = some low ∧
    IsLow low

/-- `Characters s cs rest`: the text `cs` goes on with the characters `s` of a string and its
closing quote, followed by `rest`. Half of a surrogate pair stands for the replacement character. -/
inductive Characters : List Char → List Char → List Char → Prop where
  | close {rest : List Char} : Characters [] ('"' :: rest) rest
  | plain {c : Char} {s cs rest : List Char} (hquote : c ≠ '"') (hslash : c ≠ '\\')
      (hcontrol : 32 ≤ c.toNat) (h : Characters s cs rest) : Characters (c :: s) (c :: cs) rest
  | letter {c d : Char} {s cs rest : List Char} (hletter : escaped? c = some d)
      (h : Characters s cs rest) : Characters (d :: s) ('\\' :: c :: cs) rest
  | code {a b c d : Char} {n : Nat} {s cs rest : List Char} (hcode : code? a b c d = some n)
      (hhigh : ¬ IsHigh n) (hlow : ¬ IsLow n) (h : Characters s cs rest) :
      Characters (Char.ofNat n :: s) ('\\' :: 'u' :: a :: b :: c :: d :: cs) rest
  | pair {a b c d a' b' c' d' x : Char} {high low : Nat} {s cs rest : List Char}
      (hcode : code? a b c d = some high) (hhigh : IsHigh high)
      (hcode' : code? a' b' c' d' = some low) (hlow : IsLow low) (hpaired : x = paired high low)
      (h : Characters s cs rest) :
      Characters (x :: s)
        ('\\' :: 'u' :: a :: b :: c :: d :: '\\' :: 'u' :: a' :: b' :: c' :: d' :: cs) rest
  | half {a b c d : Char} {n : Nat} {s cs rest : List Char} (hcode : code? a b c d = some n)
      (hhalf : IsHigh n ∧ ¬ BeginsLow cs ∨ IsLow n) (h : Characters s cs rest) :
      Characters (Text.Utf8.replacement :: s) ('\\' :: 'u' :: a :: b :: c :: d :: cs) rest

/-- `Quoted s cs rest`: the text `cs` begins with the string `s`, followed by `rest`. -/
def Quoted (s : String) (cs rest : List Char) : Prop :=
  ∃ more, cs = '"' :: more ∧ Characters s.toList more rest

/-- A string has its closing quote at least. -/
theorem Characters.length_lt {s cs rest : List Char} (h : Characters s cs rest) :
    rest.length < cs.length := by
  induction h with
  | close => exact Nat.lt_succ_self _
  | plain _ _ _ _ ih | letter _ _ ih | code _ _ _ _ ih | pair _ _ _ _ _ _ ih | half _ _ _ ih =>
    simp only [List.length_cons]
    omega

/-- Four digits are taken only where a fifth character follows: a text cannot end with them. -/
theorem hexCode?_cons (a b c d e : Char) (rest : List Char) :
    hexCode? (a :: b :: c :: d :: e :: rest) = (code? a b c d).map fun n ↦ (n, e :: rest) := by
  rw [hexCode?, code?]
  rcases Text.hexValue? a with - | a <;> rcases Text.hexValue? b with - | b <;>
    rcases Text.hexValue? c with - | c <;> rcases Text.hexValue? d with - | d <;> rfl

/-- What four digits are taken from. -/
theorem hexCode?_eq_some {cs more : List Char} {n : Nat} (h : hexCode? cs = some (n, more)) :
    ∃ a b c d, cs = a :: b :: c :: d :: more ∧ code? a b c d = some n ∧ more ≠ [] := by
  rcases cs with - | ⟨a, - | ⟨b, - | ⟨c, - | ⟨d, - | ⟨e, rest⟩⟩⟩⟩⟩
  case cons.cons.cons.cons.cons =>
    rw [hexCode?_cons, Option.map_eq_some_iff] at h
    obtain ⟨m, hcode, heq⟩ := h
    obtain ⟨rfl, rfl⟩ := Prod.mk.inj heq
    exact ⟨a, b, c, d, rfl, hcode, by simp⟩
  all_goals exact absurd h (by simp [hexCode?])

theorem hexCode?_of_code {a b c d : Char} {n : Nat} {more : List Char}
    (hcode : code? a b c d = some n) (hmore : 0 < more.length) :
    hexCode? (a :: b :: c :: d :: more) = some (n, more) := by
  obtain ⟨e, more, rfl⟩ := List.exists_cons_of_length_pos hmore
  rw [hexCode?_cons, hcode]
  rfl

/-- Four digits follow a backslash and `u` in a string, and do not end the text. -/
theorem Characters.hexCode?_isSome {m s rest : List Char}
    (h : Characters s ('\\' :: 'u' :: m) rest) :
    ∃ n after, hexCode? m = some (n, after) := by
  cases h with
  | plain _ hslash _ _ => exact absurd rfl hslash
  | letter hletter _ => exact absurd hletter (by simp [escaped?])
  | code hcode _ _ h => exact ⟨_, _, hexCode?_of_code hcode (Nat.zero_lt_of_lt h.length_lt)⟩
  | pair hcode _ _ _ _ h => exact ⟨_, _, hexCode?_of_code hcode (by simp)⟩
  | half hcode _ h => exact ⟨_, _, hexCode?_of_code hcode (Nat.zero_lt_of_lt h.length_lt)⟩

/-- In a string, the second half of a surrogate pair is seen. -/
theorem BeginsLow.exists_hexCode? {cs s rest : List Char} (hlow : BeginsLow cs)
    (h : Characters s cs rest) :
    ∃ m low after, cs = '\\' :: 'u' :: m ∧ hexCode? m = some (low, after) ∧ IsLow low := by
  obtain ⟨a, b, c, d, low, after, rfl, hcode, hlow⟩ := hlow
  obtain ⟨n, after', hhex⟩ := h.hexCode?_isSome
  obtain ⟨_, _, _, _, heq, hcode', -⟩ := hexCode?_eq_some hhex
  simp only [List.cons.injEq] at heq
  obtain ⟨rfl, rfl, rfl, rfl, rfl⟩ := heq
  obtain rfl := Option.some.inj (hcode.symm.trans hcode')
  exact ⟨_, low, after, rfl, hhex, hlow⟩

/-- **What is read after a backslash and `u` is spelled so.** -/
theorem codeEscape_sound {place more s rest : List Char} {x : Char}
    (h : codeEscape .file ('u' :: place) = .ok (x, more)) (hmore : Characters s more rest) :
    Characters (x :: s) ('\\' :: 'u' :: place) rest := by
  unfold codeEscape at h
  dsimp only [Dialect.file, List.drop_succ_cons, List.drop_zero] at h
  split at h
  · exact absurd h (by simp)
  · next n after hfirst =>
    obtain ⟨a, b, c, d, rfl, hcode, -⟩ := hexCode?_eq_some hfirst
    split at h
    · next hhigh =>
      -- A first half is read as one only where no second one follows.
      have hhalf
          (hnone : ∀ m low after', after = '\\' :: 'u' :: m → hexCode? m = some (low, after') →
            ¬ IsLow low) (heq : (.ok (Char.ofNat 0xfffd, after) : Reading Char) = .ok (x, more)) :
          Characters (x :: s) ('\\' :: 'u' :: a :: b :: c :: d :: after) rest := by
        obtain ⟨rfl, rfl⟩ := Prod.mk.inj (Except.ok.inj heq)
        refine .half hcode (.inl ⟨hhigh, fun hbegins ↦ ?_⟩) hmore
        obtain ⟨m, low, after', hafter, hhex, hlow⟩ := hbegins.exists_hexCode? hmore
        exact hnone m low after' hafter hhex hlow
      split at h
      · next m =>
        split at h
        · next second after' hsecond =>
          split at h
          · next hlow =>
            obtain ⟨a', b', c', d', rfl, hcode', -⟩ := hexCode?_eq_some hsecond
            obtain ⟨rfl, rfl⟩ := Prod.mk.inj (Except.ok.inj h)
            exact .pair hcode hhigh hcode' hlow rfl hmore
          · next hlow =>
            refine hhalf (fun m' low after'' hm hhex hlow' ↦ hlow ?_) h
            obtain rfl : m = m' := by simpa using hm
            obtain ⟨rfl, -⟩ := Prod.mk.inj (Option.some.inj (hsecond.symm.trans hhex))
            exact hlow'
        · next hnone =>
          split at h
          · refine hhalf (fun m' low after'' hm hhex _ ↦ ?_) h
            obtain rfl : m = m' := by simpa using hm
            exact absurd (hnone.symm.trans hhex) (by simp)
          · exact absurd h (by simp)
      · next hother => exact hhalf (fun m low after' hm _ _ ↦ hother m hm) h
    · next hhigh =>
      split at h
      · next hlow =>
        obtain ⟨rfl, rfl⟩ := Prod.mk.inj (Except.ok.inj h)
        exact .half hcode (.inr hlow) hmore
      · next hlow =>
        obtain ⟨rfl, rfl⟩ := Prod.mk.inj (Except.ok.inj h)
        exact .code hcode hhigh hlow hmore

/-- **What is spelled after a backslash and `u` is read so.** -/
theorem codeEscape_complete {place s rest : List Char} {x : Char}
    (h : Characters (x :: s) ('\\' :: 'u' :: place) rest) :
    ∃ more, codeEscape .file ('u' :: place) = .ok (x, more) ∧ more.length ≤ place.length ∧
      Characters s more rest := by
  cases h with
  | plain _ hslash _ _ => exact absurd rfl hslash
  | letter hletter _ => exact absurd hletter (by simp [escaped?])
  | @code a b c d n _ more _ hcode hhigh hlow h =>
    refine ⟨more, ?_, by simp only [List.length_cons]; omega, h⟩
    rw [codeEscape, List.drop_succ_cons, List.drop_zero,
      hexCode?_of_code hcode (Nat.zero_lt_of_lt h.length_lt)]
    dsimp only
    rw [if_neg hhigh, if_neg hlow]
  | @pair a b c d a' b' c' d' x high low _ more _ hcode hhigh hcode' hlow hx h =>
    refine ⟨more, ?_, by simp only [List.length_cons]; omega, h⟩
    rw [codeEscape, List.drop_succ_cons, List.drop_zero, hexCode?_of_code hcode (by simp)]
    dsimp only
    rw [if_pos hhigh]
    split
    · next m hm =>
      obtain rfl : a' :: b' :: c' :: d' :: more = m := by simpa using hm
      rw [hexCode?_of_code hcode' (Nat.zero_lt_of_lt h.length_lt)]
      dsimp only
      rw [if_pos hlow, hx, paired]
    · next hother => exact absurd rfl (hother _)
  | @half a b c d n _ more _ hcode hhalf h =>
    refine ⟨more, ?_, by simp only [List.length_cons]; omega, h⟩
    rw [codeEscape, List.drop_succ_cons, List.drop_zero,
      hexCode?_of_code hcode (Nat.zero_lt_of_lt h.length_lt)]
    dsimp only [Dialect.file]
    rcases hhalf with ⟨hhigh, hnone⟩ | hlow
    · rw [if_pos hhigh]
      split
      · next m =>
        obtain ⟨second, after, hsecond⟩ := h.hexCode?_isSome
        have hlow : ¬ IsLow second := fun hlow ↦ by
          obtain ⟨a', b', c', d', rfl, hcode', -⟩ := hexCode?_eq_some hsecond
          exact hnone ⟨a', b', c', d', second, after, rfl, hcode', hlow⟩
        rw [hsecond]
        dsimp only
        rw [if_neg hlow]
        rfl
      · rfl
    · rw [if_neg fun hhigh ↦ absurd hhigh.2 (Nat.not_lt_of_le hlow.1), if_pos hlow]
      rfl

/-- **What is read of a string is spelled so.** -/
theorem stringRest_sound {start done cs rest : List Char} {fuel : Nat} {s : String}
    (h : stringRest .file start fuel done cs = .ok (s, rest)) :
    ∃ t, Characters t cs rest ∧ s.toList = done.reverse ++ t := by
  induction fuel generalizing done cs with
  | zero => exact absurd h (by simp [stringRest])
  | succ fuel ih =>
    unfold stringRest at h
    split at h
    · exact absurd h (by simp)
    · exact absurd h (by simp)
    · obtain ⟨rfl, rfl⟩ := Prod.mk.inj (Except.ok.inj h)
      exact ⟨[], .close, by simp⟩
    · exact absurd h (by simp)
    · next done _ _ fuel' c more hfuel =>
      obtain rfl := Nat.succ.inj hfuel
      split at h
      · next hu =>
        subst hu
        split at h
        · exact absurd h (by simp)
        · next d more' hescape =>
          obtain ⟨t, ht, hs⟩ := ih h
          exact ⟨d :: t, codeEscape_sound hescape ht, by simpa using hs⟩
      · split at h
        · next d hletter =>
          obtain ⟨t, ht, hs⟩ := ih h
          exact ⟨d :: t, .letter hletter ht, by simpa using hs⟩
        · exact absurd h (by simp)
    · next done _ _ fuel' c more hquote hslash hslash' hfuel =>
      obtain rfl := Nat.succ.inj hfuel
      split at h
      · exact absurd h (by simp)
      · next hcontrol =>
        obtain ⟨t, ht, hs⟩ := ih h
        have hplain : c ≠ '\\' := by
          rintro rfl
          rcases more with - | ⟨e, more⟩
          · exact hslash rfl rfl
          · exact hslash' e more rfl rfl
        exact ⟨c :: t, .plain hquote hplain (Nat.le_of_not_lt hcontrol) ht, by simpa using hs⟩

section Steps

variable {start done cs : List Char} {c d : Char} {fuel : Nat}

/-- A character that is neither a quote nor a backslash nor a control character stands for itself.
-/
theorem stringRest_plain (hquote : c ≠ '"') (hslash : c ≠ '\\') (hcontrol : 32 ≤ c.toNat) :
    stringRest .file start (fuel + 1) done (c :: cs) =
      stringRest .file start fuel (c :: done) cs := by
  have hclear : ¬ c.toNat < 32 := Nat.not_lt_of_le hcontrol
  simp [stringRest, hslash, hclear]

/-- A backslash and a letter stand for one character. -/
theorem stringRest_letter (hletter : escaped? c = some d) :
    stringRest .file start (fuel + 1) done ('\\' :: c :: cs) =
      stringRest .file start fuel (d :: done) cs := by
  have hu : c ≠ 'u' := by
    rintro rfl
    exact absurd hletter (by simp [escaped?])
  rw [stringRest, if_neg hu, hletter]

/-- A backslash, `u` and what belongs to them stand for one character. -/
theorem stringRest_code {place more : List Char}
    (hcode : codeEscape .file ('u' :: place) = .ok (d, more)) :
    stringRest .file start (fuel + 1) done ('\\' :: 'u' :: place) =
      stringRest .file start fuel (d :: done) more := by
  rw [stringRest, if_pos rfl, hcode]

end Steps

/-- **What is spelled as a string is read so.** -/
theorem stringRest_complete {start s cs rest : List Char} (h : Characters s cs rest) {fuel : Nat}
    (hfuel : cs.length ≤ fuel) (done : List Char) :
    stringRest .file start fuel done cs = .ok (String.ofList (done.reverse ++ s), rest) := by
  induction fuel generalizing s cs done with
  | zero => exact absurd h.length_lt (by omega)
  | succ fuel ih =>
    -- A code, a pair and a half are all read in one step.
    have hescape {x : Char} {s place : List Char}
        (hx : Characters (x :: s) ('\\' :: 'u' :: place) rest)
        (hplace : ('\\' :: 'u' :: place).length ≤ fuel + 1) :
        stringRest .file start (fuel + 1) done ('\\' :: 'u' :: place) =
          .ok (String.ofList (done.reverse ++ x :: s), rest) := by
      obtain ⟨more, hcode, hlength, hmore⟩ := codeEscape_complete hx
      simp only [List.length_cons] at hplace
      rw [stringRest_code hcode, ih hmore (by omega)]
      simp
    cases h with
    | close => simp [stringRest]
    | plain hquote hslash hcontrol h =>
      rw [stringRest_plain hquote hslash hcontrol, ih h (by simpa using hfuel)]
      simp
    | letter hletter h =>
      simp only [List.length_cons] at hfuel
      rw [stringRest_letter hletter, ih h (by omega)]
      simp
    | code hcode hhigh hlow h => exact hescape (.code hcode hhigh hlow h) hfuel
    | pair hcode hhigh hcode' hlow hx h => exact hescape (.pair hcode hhigh hcode' hlow hx h) hfuel
    | half hcode hhalf h => exact hescape (.half hcode hhalf h) hfuel

/-- A string that is read is spelled so. -/
theorem stringAt_sound {cs rest : List Char} {s : String}
    (h : stringAt .file ('"' :: cs) = .ok (s, rest)) : Quoted s ('"' :: cs) rest := by
  obtain ⟨t, ht, hs⟩ := stringRest_sound h
  rw [List.reverse_nil, List.nil_append] at hs
  exact ⟨cs, rfl, hs ▸ ht⟩

/-- A string that is spelled is read so. -/
theorem stringAt_complete {cs rest : List Char} {s : String} (h : Quoted s cs rest) :
    stringAt .file cs = .ok (s, rest) := by
  obtain ⟨more, rfl, hmore⟩ := h
  rw [stringAt, List.drop_succ_cons, List.drop_zero, stringRest_complete hmore (by simp)]
  simp

theorem Quoted.length_lt {s : String} {cs rest : List Char} (h : Quoted s cs rest) :
    rest.length < cs.length := by
  obtain ⟨more, rfl, hmore⟩ := h
  exact Nat.lt_succ_of_lt hmore.length_lt

/-! ### Numbers -/

/-- Digits and nothing else. -/
def AreDigits (cs : List Char) : Prop := ∀ c ∈ cs, c.isDigit = true

/-- A text that does not go on with a digit. -/
def NoDigit (cs : List Char) : Prop := ∀ c more, cs = c :: more → c.isDigit = false

/-- The digits in front of the point: a zero begins no others. -/
structure IsWhole (cs : List Char) : Prop where
  nonempty : cs ≠ []
  digits : AreDigits cs
  zero : cs.head? = some '0' → cs = ['0']

/-- A sign in front of a number. -/
def signText (negative : Bool) : List Char := if negative then ['-'] else []

/-- The digits behind the point, if there are any, and the point. -/
def fractionText (digits : List Char) : List Char := if digits = [] then [] else '.' :: digits

/-- An exponent, if there is one, and its text. -/
inductive ExponentText : Option Int → List Char → Prop where
  | absent : ExponentText none []
  | minus {mark : Char} {digits : List Char} (hmark : mark = 'e' ∨ mark = 'E') (hne : digits ≠ [])
      (hdigits : AreDigits digits) :
      ExponentText (some (-(Text.digitsValue digits : Int))) (mark :: '-' :: digits)
  | plus {mark : Char} {digits : List Char} (hmark : mark = 'e' ∨ mark = 'E') (hne : digits ≠ [])
      (hdigits : AreDigits digits) :
      ExponentText (some (Text.digitsValue digits : Int)) (mark :: '+' :: digits)
  | unsigned {mark : Char} {digits : List Char} (hmark : mark = 'e' ∨ mark = 'E')
      (hne : digits ≠ []) (hdigits : AreDigits digits) :
      ExponentText (some (Text.digitsValue digits : Int)) (mark :: digits)

/-- The value of a number: an integer if it has neither a fraction nor an exponent. -/
def numberValue (negative : Bool) (whole fraction : List Char) (exponent : Option Int) : Value :=
  if fraction = [] ∧ exponent = none then
    .int (if negative then -(Text.digitsValue whole : Int) else (Text.digitsValue whole : Int))
  else
    .float (Number.Numeral.toFloat
      ⟨negative, Text.digitsValue (whole ++ fraction), exponent.getD 0 - fraction.length⟩)

/-- `Decimal v cs rest`: the text `cs` begins with the number `v`, followed by `rest`. -/
def Decimal (v : Value) (cs rest : List Char) : Prop :=
  ∃ negative whole fraction exponent es, IsWhole whole ∧ AreDigits fraction ∧
    ExponentText exponent es ∧ v = numberValue negative whole fraction exponent ∧
      cs = signText negative ++ (whole ++ (fractionText fraction ++ (es ++ rest)))

/-- An exponent begins with its mark. -/
theorem ExponentText.head {e : Option Int} {es : List Char} (h : ExponentText e es) :
    es = [] ∨ ∃ mark text, (mark = 'e' ∨ mark = 'E') ∧ es = mark :: text := by
  cases h with
  | absent => exact .inl rfl
  | minus hmark _ _ | plus hmark _ _ | unsigned hmark _ _ => exact .inr ⟨_, _, hmark, rfl⟩

theorem areDigits_takeWhile (cs : List Char) : AreDigits (cs.takeWhile Char.isDigit) := fun c hc ↦
  List.all_eq_true.1 List.all_takeWhile c hc

/-- The digits at the beginning of a text, if no more follow. -/
theorem takeWhile_digits {ds rest : List Char} (hds : AreDigits ds) (hrest : NoDigit rest) :
    (ds ++ rest).takeWhile Char.isDigit = ds ∧ (ds ++ rest).dropWhile Char.isDigit = rest := by
  rw [List.takeWhile_append_of_pos hds, List.dropWhile_append_of_pos hds]
  cases rest with
  | nil => simp
  | cons c rest =>
    have hc : ¬ c.isDigit = true := by simp [hrest c rest rfl]
    rw [List.takeWhile_cons_of_neg hc, List.dropWhile_cons_of_neg hc, List.append_nil]
    exact ⟨rfl, rfl⟩

theorem eq_takeWhile_append_drop (cs : List Char) :
    cs = cs.takeWhile Char.isDigit ++ cs.drop (cs.takeWhile Char.isDigit).length := by
  have hdrop : cs.drop (cs.takeWhile Char.isDigit).length = cs.dropWhile Char.isDigit := by
    calc cs.drop (cs.takeWhile Char.isDigit).length
        = (cs.takeWhile Char.isDigit ++ cs.dropWhile Char.isDigit).drop
            (cs.takeWhile Char.isDigit).length := by
          rw [List.takeWhile_append_dropWhile]
      _ = cs.dropWhile Char.isDigit := List.drop_left
  rw [hdrop, List.takeWhile_append_dropWhile]

/-- What is read as a fraction is spelled so; without a digit the point is left alone. -/
theorem fractionPart_sound (cs : List Char) :
    AreDigits (fractionPart cs).1 ∧
      cs = fractionText (fractionPart cs).1 ++ (fractionPart cs).2 := by
  unfold fractionPart
  split
  · next rest =>
    have hdigits := areDigits_takeWhile rest
    split
    · exact ⟨fun c hc ↦ absurd hc List.not_mem_nil, by simp [fractionText]⟩
    · next hne =>
      refine ⟨hdigits, ?_⟩
      rw [fractionText, if_neg hne, List.cons_append, List.takeWhile_append_dropWhile]
  · exact ⟨fun c hc ↦ absurd hc List.not_mem_nil, by simp [fractionText]⟩

/-- A fraction that is spelled is read so. -/
theorem fractionPart_complete {ds rest : List Char} (hds : AreDigits ds) (hrest : NoDigit rest)
    (hpoint : ∀ more, rest ≠ '.' :: more) :
    fractionPart (fractionText ds ++ rest) = (ds, rest) := by
  by_cases hne : ds = []
  · rw [hne, fractionText, if_pos rfl, List.nil_append]
    unfold fractionPart
    split
    · exact absurd rfl (hpoint _)
    · rfl
  · rw [fractionText, if_neg hne, List.cons_append, fractionPart, (takeWhile_digits hds hrest).1,
      (takeWhile_digits hds hrest).2]
    split
    · exact absurd rfl hne
    · rfl

/-- What the sign of an exponent is taken from. -/
theorem takeSign_cases (cs : List Char) :
    cs = '-' :: (Number.Numeral.takeSign cs).2 ∧ (Number.Numeral.takeSign cs).1 = true ∨
      cs = '+' :: (Number.Numeral.takeSign cs).2 ∧ (Number.Numeral.takeSign cs).1 = false ∨
        cs = (Number.Numeral.takeSign cs).2 ∧ (Number.Numeral.takeSign cs).1 = false := by
  unfold Number.Numeral.takeSign
  split
  · exact .inl ⟨rfl, rfl⟩
  · exact .inr (.inl ⟨rfl, rfl⟩)
  · exact .inr (.inr ⟨rfl, rfl⟩)

/-- What is read as an exponent is spelled so; without a digit the mark is left alone. -/
theorem exponentPart_sound (cs : List Char) :
    ∃ es, ExponentText (exponentPart cs).1 es ∧ cs = es ++ (exponentPart cs).2 := by
  unfold exponentPart
  split
  · next mark rest =>
    split
    · next hmark =>
      have hmark : mark = 'e' ∨ mark = 'E' := by simpa using hmark
      have hsign := takeSign_cases rest
      split
      next negative body hbody =>
      rw [hbody] at hsign
      have hdigits := areDigits_takeWhile body
      split
      · exact ⟨[], .absent, rfl⟩
      · next hne =>
        have hsplit := List.takeWhile_append_dropWhile (p := Char.isDigit) (l := body)
        rcases hsign with ⟨hrest, rfl⟩ | ⟨hrest, rfl⟩ | ⟨hrest, rfl⟩
        · exact ⟨_, .minus hmark hne hdigits, by rw [hrest]; simp [hsplit]⟩
        · exact ⟨_, .plus hmark hne hdigits, by rw [hrest]; simp [hsplit]⟩
        · exact ⟨_, .unsigned hmark hne hdigits, by rw [hrest]; simp [hsplit]⟩
    · exact ⟨[], .absent, rfl⟩
  · exact ⟨[], .absent, rfl⟩

theorem takeSign_of_noSign {cs : List Char} (hminus : ∀ more, cs ≠ '-' :: more)
    (hplus : ∀ more, cs ≠ '+' :: more) : Number.Numeral.takeSign cs = (false, cs) := by
  unfold Number.Numeral.takeSign
  split
  · exact absurd rfl (hminus _)
  · exact absurd rfl (hplus _)
  · rfl

/-- An exponent that is spelled is read so. -/
theorem exponentPart_complete {e : Option Int} {es rest : List Char} (h : ExponentText e es)
    (hrest : NoDigit rest) (hmark : ∀ c more, rest = c :: more → ¬ (c = 'e' ∨ c = 'E')) :
    exponentPart (es ++ rest) = (e, rest) := by
  have hread {mark : Char} {text digits : List Char} {negative : Bool}
      (hmark : mark = 'e' ∨ mark = 'E') (hne : digits ≠ []) (hdigits : AreDigits digits)
      (hsign : Number.Numeral.takeSign text = (negative, digits ++ rest)) :
      exponentPart (mark :: text) =
        (some (if negative then -(Text.digitsValue digits : Int)
          else (Text.digitsValue digits : Int)),
          rest) := by
    have hmark : (decide (mark = 'e') || decide (mark = 'E')) = true := by simpa using hmark
    rw [exponentPart, if_pos hmark, hsign]
    dsimp only
    rw [(takeWhile_digits hdigits hrest).1, (takeWhile_digits hdigits hrest).2]
    split
    · exact absurd rfl hne
    · rfl
  cases h with
  | absent =>
    rw [List.nil_append]
    cases rest with
    | nil => rfl
    | cons c rest =>
      have hother : ¬ (decide (c = 'e') || decide (c = 'E')) = true := by
        simpa using hmark c rest rfl
      rw [exponentPart, if_neg hother]
  | @minus mark digits hmark hne hdigits =>
    have hsign : Number.Numeral.takeSign ('-' :: (digits ++ rest)) = (true, digits ++ rest) := rfl
    exact hread hmark hne hdigits hsign
  | @plus mark digits hmark hne hdigits =>
    have hsign : Number.Numeral.takeSign ('+' :: (digits ++ rest)) = (false, digits ++ rest) := rfl
    exact hread hmark hne hdigits hsign
  | @unsigned mark digits hmark hne hdigits =>
    refine hread hmark hne hdigits (takeSign_of_noSign ?_ ?_)
    all_goals
      intro more heq
      obtain ⟨d, ds, rfl⟩ := List.exists_cons_of_ne_nil hne
      have hd := hdigits d List.mem_cons_self
      rw [(List.cons.inj heq).1] at hd
      exact absurd hd (by decide)

/-- What is read of a number whose sign and first digits are read: its value, unless it is an
integer that is overlong. -/
def finishNumber (place : List Char) (negative : Bool) (whole after : List Char) :
    Option (Reading Value) :=
  let fraction := (fractionPart after).1
  let exponent := (exponentPart (fractionPart after).2).1
  if (fraction = [] ∧ exponent = none) ∧ Number.isOverlong whole = true then
    some (.error ⟨.overlongInteger, place⟩)
  else
    some (.ok (numberValue negative whole fraction exponent,
      (exponentPart (fractionPart after).2).2))

/-- The end of the reader for numbers, with the digits in front of the point apart from those behind
it. -/
theorem finishNumber_eq (place : List Char) (negative : Bool) (whole fraction rest : List Char)
    (exponent : Option Int) :
    (if (fraction.isEmpty && exponent.isNone) = true then
      if Number.isOverlong whole = true then some (.error ⟨.overlongInteger, place⟩)
      else some (.ok (.int (if negative = true then -(Text.digitsValue (whole ++ fraction) : Int)
        else (Text.digitsValue (whole ++ fraction) : Int)), rest))
    else some (.ok (.float (Number.Numeral.toFloat ⟨negative, Text.digitsValue (whole ++ fraction),
      exponent.getD 0 - fraction.length⟩), rest)) : Option (Reading Value)) =
      if (fraction = [] ∧ exponent = none) ∧ Number.isOverlong whole = true then
        some (.error ⟨.overlongInteger, place⟩)
      else some (.ok (numberValue negative whole fraction exponent, rest)) := by
  have hplain : (fraction.isEmpty && exponent.isNone) = true ↔ fraction = [] ∧ exponent = none := by
    simp
  by_cases h : fraction = [] ∧ exponent = none
  · rw [if_pos (hplain.2 h), numberValue, if_pos h]
    simp only [h, List.append_nil, and_self, true_and]
  · rw [if_neg (mt hplain.1 h), if_neg fun hlong ↦ h hlong.1, numberValue, if_neg h]

/-- What is read behind the first digits makes a number with them. -/
theorem finishNumber_sound {place whole after rest : List Char} {negative : Bool} {v : Value}
    (hwhole : IsWhole whole) (h : finishNumber place negative whole after = some (.ok (v, rest))) :
    Decimal v (signText negative ++ (whole ++ after)) rest := by
  obtain ⟨hfraction, hafter⟩ := fractionPart_sound after
  obtain ⟨es, hexponent, hes⟩ := exponentPart_sound (fractionPart after).2
  rw [finishNumber] at h
  split at h
  · exact absurd h (by simp)
  · obtain ⟨rfl, rfl⟩ := Prod.mk.inj (Except.ok.inj (Option.some.inj h))
    refine ⟨negative, whole, _, _, es, hwhole, hfraction, hexponent, rfl, ?_⟩
    rw [← hes, ← hafter]

theorem isWhole_zero : IsWhole ['0'] := ⟨by simp, fun c hc ↦ by simp_all, fun _ ↦ rfl⟩

/-- A number is read in two steps: its sign and first digits, and what is left. -/
theorem number?_cases {cs : List Char} {reading : Reading Value} (h : number? cs = some reading) :
    ∃ negative whole after, IsWhole whole ∧ cs = signText negative ++ (whole ++ after) ∧
      finishNumber cs negative whole after = some reading := by
  unfold number? at h
  split at h
  next negative body hbody =>
  have hcs : cs = signText negative ++ body := by
    split at hbody
    · obtain ⟨rfl, rfl⟩ := Prod.mk.inj hbody
      rfl
    · obtain ⟨rfl, rfl⟩ := Prod.mk.inj hbody
      rfl
  dsimp only at h
  split at h
  · next tail =>
    rw [if_neg (by simp), finishNumber_eq] at h
    exact ⟨negative, ['0'], tail, isWhole_zero, hcs, h⟩
  · next hzero =>
    split at h
    · exact absurd h (by simp)
    · next hne =>
      rw [finishNumber_eq] at h
      have hwhole : IsWhole (body.takeWhile Char.isDigit) := by
        refine ⟨by simpa using hne, areDigits_takeWhile body, fun hhead ↦ ?_⟩
        obtain ⟨c, tail, rfl⟩ := List.exists_cons_of_ne_nil (l := body) (by rintro rfl; simp at hne)
        rw [List.takeWhile_cons] at hhead
        split at hhead
        · obtain rfl : c = '0' := by simpa using hhead
          exact absurd rfl (hzero tail)
        · exact absurd hhead (by simp)
      exact ⟨negative, _, _, hwhole, by rw [← eq_takeWhile_append_drop body, hcs], h⟩

/-- **What is read as a number is spelled so.** -/
theorem number?_sound {cs rest : List Char} {v : Value} (h : number? cs = some (.ok (v, rest))) :
    Decimal v cs rest := by
  obtain ⟨negative, whole, after, hwhole, hcs, hfinish⟩ := number?_cases h
  rw [hcs]
  exact finishNumber_sound hwhole hfinish

/-- **What is spelled as a number is read so**, unless it is an integer that is overlong. -/
theorem number?_eq {negative : Bool} {whole after : List Char} (hwhole : IsWhole whole)
    (hafter : NoDigit after) :
    number? (signText negative ++ (whole ++ after)) =
      finishNumber (signText negative ++ (whole ++ after)) negative whole after := by
  obtain ⟨d, ds, rfl⟩ := List.exists_cons_of_ne_nil hwhole.nonempty
  have hd := hwhole.digits d List.mem_cons_self
  unfold number?
  split
  next negative' body hbody =>
  have hsign : negative' = negative ∧ body = d :: (ds ++ after) := by
    rcases negative with - | -
    · split at hbody
      · next heq =>
        have hminus : d = '-' := (List.cons.inj heq).1
        rw [hminus] at hd
        exact absurd hd (by decide)
      · obtain ⟨rfl, rfl⟩ := Prod.mk.inj hbody
        exact ⟨rfl, rfl⟩
    · obtain ⟨rfl, rfl⟩ := Prod.mk.inj hbody
      exact ⟨rfl, rfl⟩
  obtain ⟨rfl, rfl⟩ := hsign
  dsimp only
  split
  · next tail htail =>
    obtain ⟨rfl, htail⟩ := List.cons.inj htail
    obtain rfl : ds = [] := (List.cons.inj (hwhole.zero rfl)).2
    rw [if_neg (by simp), finishNumber_eq]
    rfl
  · next hzero =>
    have htake := takeWhile_digits hwhole.digits hafter
    rw [List.cons_append] at htake
    have hdrop : (d :: (ds ++ after)).drop (d :: ds).length = after := List.drop_left
    rw [htake.1, hdrop, if_neg (by simp), finishNumber_eq]
    rfl

/-- What can follow a value. -/
def Ends (rest : List Char) : Prop :=
  ∀ c more, rest = c :: more → IsBlank c ∨ c = ',' ∨ c = ']' ∨ c = '\x7d'

/-- What can follow a value does not go on with a number. -/
theorem Ends.head {rest more : List Char} {c : Char} (h : Ends rest) (hc : rest = c :: more) :
    c.isDigit = false ∧ c ≠ '.' ∧ c ≠ 'e' ∧ c ≠ 'E' := by
  rcases h c more hc with hblank | rfl | rfl | rfl
  · simp only [IsBlank, List.mem_cons, List.not_mem_nil, or_false] at hblank
    rcases hblank with rfl | rfl | rfl | rfl <;> decide
  · decide
  · decide
  · decide

/-- **What is spelled as a number is read so**, unless it is beyond a limit. -/
theorem number?_complete {v : Value} {cs rest : List Char} (h : Decimal v cs rest)
    (hrest : Ends rest) :
    number? cs = some (.ok (v, rest)) ∨
      ∃ fault, number? cs = some (.error fault) ∧ fault.complaint.isSyntax = false := by
  obtain ⟨negative, whole, fraction, exponent, es, hwhole, hfraction, hexponent, rfl, rfl⟩ := h
  have hend : NoDigit rest := fun c more hc ↦ (hrest.head hc).1
  have hes {c : Char} {more : List Char} (hc : es ++ rest = c :: more) :
      c.isDigit = false ∧ c ≠ '.' := by
    rcases hexponent.head with rfl | ⟨mark, text, hmark, rfl⟩
    · exact ⟨(hrest.head hc).1, (hrest.head hc).2.1⟩
    · rw [← (List.cons.inj hc).1]
      rcases hmark with rfl | rfl <;> decide
  have hpoint : ∀ more, es ++ rest ≠ '.' :: more := fun more hc ↦ (hes hc).2 rfl
  have hnone : NoDigit (es ++ rest) := fun c more hc ↦ (hes hc).1
  have hafter : NoDigit (fractionText fraction ++ (es ++ rest)) := by
    by_cases hempty : fraction = []
    · rwa [fractionText, if_pos hempty]
    · rw [fractionText, if_neg hempty]
      rintro c more hc
      rw [← (List.cons.inj hc).1]
      decide
  rw [number?_eq hwhole hafter, finishNumber, fractionPart_complete hfraction hnone hpoint,
    exponentPart_complete hexponent hend fun c more hc ↦ by simp [hrest.head hc]]
  dsimp only
  split
  · exact .inr ⟨_, rfl, rfl⟩
  · exact .inl rfl

end FlowCanvas.Json
