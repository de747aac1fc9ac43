import FlowCanvas.Proofs.JsonTexts

/-!
# Texts within the limits of the reader

The reader of messages stops at two limits: lists and objects that stand too deeply inside one
another, and integers with too many digits. A text can go beyond them only if it has as many
brackets, or as many digits (`Modest`). So **a modest text is never refused for a limit**
(`withinLimits_of_modest`): what one reader hands over to the next is the end of the text it was
given, and that has no more brackets and digits.
-/

namespace FlowCanvas.Json

/-- Whether a character opens a list or an object. -/
def isBracket (c : Char) : Bool := c = '[' || c = '\x7b'

/-- A text with so few brackets that `room` levels are enough for it, and so few digits that no
integer in it is overlong. -/
structure Modest (room : Nat) (cs : List Char) : Prop where
  brackets : cs.countP isBracket ≤ room
  digits : cs.countP Char.isDigit ≤ Number.longestInteger

/-- The end of a modest text is modest. -/
theorem Modest.of_suffix {room : Nat} {cs rest : List Char} (h : Modest room cs)
    (hrest : rest <:+ cs) : Modest room rest where
  brackets := Nat.le_trans (hrest.sublist.countP_le) h.brackets
  digits := Nat.le_trans (hrest.sublist.countP_le) h.digits

/-! ### What follows a spelling is the end of the text -/

theorem Gap.suffix {cs rest : List Char} (h : Gap cs rest) : rest <:+ cs := by
  obtain ⟨blanks, -, rfl⟩ := h
  exact List.suffix_append blanks rest

/-- What follows a string is the end of the text, whatever escapes stand in the string. -/
theorem Characters.suffix {s cs rest : List Char} (h : Characters s cs rest) : rest <:+ cs := by
  induction h with
  | close => exact List.suffix_cons _ _
  | plain _ _ _ _ ih => exact ih.trans (List.suffix_cons _ _)
  | letter _ _ ih => exact ih.trans (List.suffix_append [_, _] _)
  | code _ _ _ _ ih => exact ih.trans (List.suffix_append [_, _, _, _, _, _] _)
  | pair _ _ _ _ _ _ ih =>
    exact ih.trans (List.suffix_append [_, _, _, _, _, _, _, _, _, _, _, _] _)
  | half _ _ _ ih => exact ih.trans (List.suffix_append [_, _, _, _, _, _] _)

theorem Quoted.suffix {s : String} {cs rest : List Char} (h : Quoted s cs rest) : rest <:+ cs := by
  obtain ⟨more, rfl, hmore⟩ := h
  exact hmore.suffix.trans (List.suffix_cons _ _)

/-- What follows a number is the end of the text. -/
theorem Decimal.suffix {v : Value} {cs rest : List Char} (h : Decimal v cs rest) : rest <:+ cs := by
  obtain ⟨negative, whole, fraction, exponent, es, -, -, -, -, rfl⟩ := h
  simp only [← List.append_assoc]
  exact List.suffix_append _ rest

/-- **What follows a spelling is the end of the text**, by induction on the spelling. -/
theorem Spells.suffix {p : Phrase} {cs rest : List Char} (h : Spells p cs rest) : rest <:+ cs := by
  induction h with
  | text h => exact h.suffix
  | word _ => exact List.suffix_append _ _
  | number h => exact h.suffix
  | emptyList hend | emptyObject hend =>
    exact ((List.suffix_cons _ _).trans hend.suffix).trans (List.suffix_cons _ _)
  | list hstart _ ih | object hstart _ ih =>
    exact (ih.trans hstart.suffix).trans (List.suffix_cons _ _)
  | lastItem _ hend ih => exact ((List.suffix_cons _ _).trans hend.suffix).trans ih
  | item _ hcomma hstart _ ih ihs =>
    exact (ihs.trans hstart.suffix).trans (((List.suffix_cons _ _).trans hcomma.suffix).trans ih)
  | lastMember hkey hcolon hvalue _ hend ih =>
    have hcolon := (List.suffix_cons _ _).trans (hcolon.suffix.trans hkey.suffix)
    exact ((List.suffix_cons _ _).trans hend.suffix).trans ((ih.trans hvalue.suffix).trans hcolon)
  | member hkey hcolon hvalue _ hcomma hstart _ ih ihs =>
    have hcolon := (List.suffix_cons _ _).trans (hcolon.suffix.trans hkey.suffix)
    have hcomma := (List.suffix_cons _ _).trans (hcomma.suffix.trans ih)
    exact (ihs.trans hstart.suffix).trans (hcomma.trans (hvalue.suffix.trans hcolon))

/-! ### The faults of strings and numbers -/

/-- An escape is refused for its form only. -/
theorem codeEscape_isSyntax {place : List Char} {fault : Fault}
    (h : codeEscape .file place = .error fault) : fault.complaint.isSyntax = true := by
  unfold codeEscape at h
  dsimp only [Dialect.file] at h
  split at h
  · obtain rfl := Except.error.inj h
    rfl
  · split at h
    · split at h
      · split at h
        · split at h <;> exact absurd h (by simp)
        · split at h
          · exact absurd h (by simp)
          · obtain rfl := Except.error.inj h
            rfl
      · exact absurd h (by simp)
    · split at h <;> exact absurd h (by simp)

/-- A string is refused for its form only: it has no limit. -/
theorem stringRest_isSyntax {start done cs : List Char} {fuel : Nat} {fault : Fault}
    (h : stringRest .file start fuel done cs = .error fault) : fault.complaint.isSyntax = true := by
  fun_induction stringRest .file start fuel done cs with
  | case1 | case2 | case4 | case8 | case9 =>
    obtain rfl := Except.error.inj h
    rfl
  | case3 => exact absurd h (by simp)
  | case5 _ _ _ _ hcode =>
    obtain rfl := Except.error.inj h
    exact codeEscape_isSyntax hcode
  | case6 _ _ _ _ _ _ ih | case7 _ _ _ _ _ _ _ ih | case10 _ _ _ _ _ _ _ _ ih => exact ih h

/-- A number is refused only if the text has too many digits. -/
theorem number?_error {cs : List Char} {fault : Fault} (h : number? cs = some (.error fault)) :
    Number.longestInteger < cs.countP Char.isDigit := by
  obtain ⟨negative, whole, after, hwhole, hcs, hfinish⟩ := number?_cases h
  rw [finishNumber] at hfinish
  split at hfinish
  · next hlong =>
    have hlong : Number.longestInteger < whole.length := by simpa [Number.isOverlong] using hlong.2
    have hcount : whole.countP Char.isDigit = whole.length := List.countP_eq_length.2 hwhole.digits
    rw [hcs, List.countP_append, List.countP_append]
    omega
  · exact absurd hfinish (by simp)

/-! ### The faults of values -/

/-- The three readers, with a fuel, refuse no modest text for a limit. -/
structure Unlimited (fuel : Nat) : Prop where
  value : ∀ {room cs fault}, Modest room cs → valueAt .file fuel (some room) cs = .error fault →
    fault.complaint.isSyntax = true
  items : ∀ {room cs fault}, Modest room cs → itemsAt .file fuel (some room) cs = .error fault →
    fault.complaint.isSyntax = true
  members : ∀ {room cs fault}, Modest room cs → membersAt .file fuel (some room) cs = .error fault →
    fault.complaint.isSyntax = true

theorem Unlimited.zero : Unlimited 0 where
  value _ h := by
    obtain rfl := Except.error.inj h
    rfl
  items _ h := by
    obtain rfl := Except.error.inj h
    rfl
  members _ h := by
    obtain rfl := Except.error.inj h
    rfl

theorem skipBlanks_suffix (cs : List Char) : skipBlanks cs <:+ cs := List.dropWhile_suffix _

/-- Behind a bracket there is room for what a modest text holds. -/
theorem Modest.deeper {room : Nat} {c : Char} {more : List Char} (h : Modest room (c :: more))
    (hc : isBracket c = true) : ∃ room', Json.deeper (some room) = some (some room') ∧
      Modest room' (skipBlanks more) := by
  -- The bracket takes one level of the room, and is not among those behind it.
  have hbrackets := h.brackets
  rw [List.countP_cons_of_pos hc] at hbrackets
  cases room with
  | zero => omega
  | succ room =>
    have hmore := h.of_suffix (List.suffix_cons c more)
    have hinner : Modest room more := ⟨by omega, hmore.digits⟩
    exact ⟨room, rfl, hinner.of_suffix (skipBlanks_suffix more)⟩

section

variable {fuel room : Nat} {cs : List Char} {fault : Fault}

/-- What is inside a list or an object is shorter by its bracket, and has one level less. -/
theorem Unlimited.value_succ (ih : Unlimited fuel) (hcs : Modest room cs)
    (h : valueAt .file (fuel + 1) (some room) cs = .error fault) :
    fault.complaint.isSyntax = true := by
  unfold valueAt at h
  split at h
  · split at h
    · next hs =>
      obtain rfl := Except.error.inj h
      exact stringRest_isSyntax hs
    · exact absurd h (by simp)
  · next more =>
    obtain ⟨room', hdeeper, hinner⟩ := hcs.deeper rfl
    split at h
    · exact absurd h (by simp)
    · simp only [hdeeper] at h
      split at h
      · next hitems =>
        obtain rfl := Except.error.inj h
        exact ih.items hinner hitems
      · exact absurd h (by simp)
  · next more =>
    obtain ⟨room', hdeeper, hinner⟩ := hcs.deeper rfl
    split at h
    · exact absurd h (by simp)
    · simp only [hdeeper] at h
      split at h
      · next hmembers =>
        obtain rfl := Except.error.inj h
        exact ih.members hinner hmembers
      · exact absurd h (by simp)
  · split at h
    · exact absurd h (by simp)
    · cases hnumber : number? cs with
      | none =>
        rw [hnumber] at h
        obtain rfl := Except.error.inj h
        rfl
      | some reading =>
        rw [hnumber, Option.getD_some] at h
        have hlong := number?_error (hnumber.trans (congrArg some h))
        exact absurd hcs.digits (Nat.not_le_of_lt hlong)

/-- The items behind the first are the end of the text. -/
theorem Unlimited.items_succ (ih : Unlimited fuel) (hcs : Modest room cs)
    (h : itemsAt .file (fuel + 1) (some room) cs = .error fault) :
    fault.complaint.isSyntax = true := by
  unfold itemsAt at h
  split at h
  · next hv =>
    obtain rfl := Except.error.inj h
    exact ih.value hcs hv
  · next v more hv =>
    have hmore : skipBlanks more <:+ cs :=
      (skipBlanks_suffix more).trans ((sound _).value hv).suffix
    split at h
    · exact absurd h (by simp)
    · next next hcomma =>
      rw [hcomma] at hmore
      have hnext := (skipBlanks_suffix next).trans ((List.suffix_cons _ _).trans hmore)
      split at h
      · next hitems =>
        obtain rfl := Except.error.inj h
        exact ih.items (hcs.of_suffix hnext) hitems
      · exact absurd h (by simp)
    · obtain rfl := Except.error.inj h
      rfl

/-- The value of a member, and the members behind it, are the end of the text. -/
theorem Unlimited.members_succ (ih : Unlimited fuel) (hcs : Modest room cs)
    (h : membersAt .file (fuel + 1) (some room) cs = .error fault) :
    fault.complaint.isSyntax = true := by
  unfold membersAt at h
  split at h
  · split at h
    · next hs =>
      obtain rfl := Except.error.inj h
      exact stringRest_isSyntax hs
    · next key colon hkey =>
      have hcolon := (skipBlanks_suffix colon).trans (stringAt_sound hkey).suffix
      split at h
      · next after heq =>
        rw [heq] at hcolon
        have hvalue := (skipBlanks_suffix after).trans ((List.suffix_cons _ _).trans hcolon)
        split at h
        · next hv =>
          obtain rfl := Except.error.inj h
          exact ih.value (hcs.of_suffix hvalue) hv
        · next v more hv =>
          have hmore := (skipBlanks_suffix more).trans (((sound _).value hv).suffix.trans hvalue)
          split at h
          · exact absurd h (by simp)
          · next next hcomma =>
            rw [hcomma] at hmore
            have hnext := (skipBlanks_suffix next).trans ((List.suffix_cons _ _).trans hmore)
            split at h
            · next hmembers =>
              obtain rfl := Except.error.inj h
              exact ih.members (hcs.of_suffix hnext) hmembers
            · exact absurd h (by simp)
          · obtain rfl := Except.error.inj h
            rfl
      · obtain rfl := Except.error.inj h
        rfl
  · obtain rfl := Except.error.inj h
    rfl

end

/-- **No modest text is refused for a limit**, whatever the fuel is. -/
theorem unlimited (fuel : Nat) : Unlimited fuel := by
  induction fuel with
  | zero => exact .zero
  | succ fuel ih => exact ⟨ih.value_succ, ih.items_succ, ih.members_succ⟩

/-- **A text with at most 985 brackets and at most 4300 digits is within the limits.** -/
theorem withinLimits_of_modest {cs : List Char} (h : Modest 985 cs) : WithinLimits cs := by
  intro refusal hrefusal
  unfold readAll at hrefusal
  split at hrefusal
  · exact absurd hrefusal (by simp)
  · next fault hread =>
    obtain rfl := Except.error.inj hrefusal
    unfold readChars at hread
    split at hread
    · obtain rfl := Except.error.inj hread
      rfl
    · split at hread
      · next hv =>
        obtain rfl := Except.error.inj hread
        exact (unlimited _).value (h.of_suffix (skipBlanks_suffix cs)) hv
      · split at hread
        · exact absurd hread (by simp)
        · obtain rfl := Except.error.inj hread
          rfl

end FlowCanvas.Json
