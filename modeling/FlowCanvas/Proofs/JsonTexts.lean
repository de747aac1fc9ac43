import FlowCanvas.Proofs.Spelling

/-!
# Which texts are read as JSON

The rest of the grammar: words, numbers and strings are values, and so are lists and objects of
values. `Holds cs v` says that the text `cs` spells the value `v`, with blanks around it.

The reader of files and messages is **sound**: what it reads is spelled so, whatever its fuel and
its room are (`sound`, by induction on the fuel, for the three readers together). It is **complete**
up to its limits: a spelling is read as what it spells, or refused for a limit, never for its form
(`Spells.isRead`, by induction on the spelling, with two calls for every character). So **a text is
read as `v` exactly if it holds `v`** within the limits (`readAll_eq_ok_iff`).
-/

namespace FlowCanvas.Json

/-! ### The grammar -/

/-- A part of a text that stands for something: a value, or what a filled list or object holds, up
to its end. -/
inductive Phrase where
  | value (v : Value)
  | items (vs : List Value)
  | members (es : List (String × Value))

/-- `Spells p cs rest`: the text `cs` begins with a spelling of `p`, followed by `rest`. Of two
entries with one name in an object the later value counts. -/
inductive Spells : Phrase → List Char → List Char → Prop where
  | text {s : String} {cs rest : List Char} (h : Quoted s cs rest) :
      Spells (.value (.text s)) cs rest
  | word {name : String} {v : Value} {rest : List Char} (h : (name, v) ∈ words) :
      Spells (.value v) (name.toList ++ rest) rest
  | number {v : Value} {cs rest : List Char} (h : Decimal v cs rest) : Spells (.value v) cs rest
  | emptyList {cs rest : List Char} (hend : Gap cs (']' :: rest)) :
      Spells (.value (.list [])) ('[' :: cs) rest
  | list {vs : List Value} {cs start rest : List Char} (hstart : Gap cs start)
      (h : Spells (.items vs) start rest) : Spells (.value (.list vs)) ('[' :: cs) rest
  | emptyObject {cs rest : List Char} (hend : Gap cs ('\x7d' :: rest)) :
      Spells (.value (.object [])) ('\x7b' :: cs) rest
  | object {es : List (String × Value)} {cs start rest : List Char} (hstart : Gap cs start)
      (h : Spells (.members es) start rest) :
      Spells (.value (.object (Fields.ofList es))) ('\x7b' :: cs) rest
  | lastItem {v : Value} {cs more rest : List Char} (h : Spells (.value v) cs more)
      (hend : Gap more (']' :: rest)) : Spells (.items [v]) cs rest
  | item {v : Value} {vs : List Value} {cs more next start rest : List Char}
      (h : Spells (.value v) cs more) (hcomma : Gap more (',' :: next)) (hstart : Gap next start)
      (hitems : Spells (.items vs) start rest) : Spells (.items (v :: vs)) cs rest
  | lastMember {key : String} {v : Value} {cs colon after value more rest : List Char}
      (hkey : Quoted key cs colon) (hcolon : Gap colon (':' :: after)) (hvalue : Gap after value)
      (h : Spells (.value v) value more) (hend : Gap more ('\x7d' :: rest)) :
      Spells (.members [(key, v)]) cs rest
  | member {key : String} {v : Value} {es : List (String × Value)}
      {cs colon after value more next start rest : List Char} (hkey : Quoted key cs colon)
      (hcolon : Gap colon (':' :: after)) (hvalue : Gap after value)
      (h : Spells (.value v) value more) (hcomma : Gap more (',' :: next)) (hstart : Gap next start)
      (hmembers : Spells (.members es) start rest) : Spells (.members ((key, v) :: es)) cs rest

/-- The text `cs` holds the value `v`, with blanks around it. -/
def Holds (cs : List Char) (v : Value) : Prop :=
  ∃ start more, Gap cs start ∧ Spells (.value v) start more ∧ Gap more []

/-! ### Reading is sound -/

/-- What is read as a word is spelled so. -/
theorem word?_sound {cs : List Char} {found : Value × List Char} (h : word? cs = some found) :
    Spells (.value found.1) cs found.2 := by
  rw [word?] at h
  obtain ⟨e, hmem, he⟩ := List.exists_of_findSome?_eq_some h
  split at he
  next name v =>
  split at he
  · next hprefix =>
    obtain rfl := Option.some.inj he
    obtain ⟨rest, rfl⟩ := List.isPrefixOf_iff_prefix.1 hprefix
    rw [← String.length_toList, List.drop_left]
    exact .word hmem
  · exact absurd he (by simp)

/-- The three readers, with a fuel, read only what is spelled. -/
structure Sound (fuel : Nat) : Prop where
  value : ∀ {room cs v rest}, valueAt .file fuel room cs = .ok (v, rest) → Spells (.value v) cs rest
  items : ∀ {room cs vs rest},
    itemsAt .file fuel room cs = .ok (vs, rest) → Spells (.items vs) cs rest
  members : ∀ {room cs es rest},
    membersAt .file fuel room cs = .ok (es, rest) → Spells (.members es) cs rest

/-- Without fuel nothing is read. -/
theorem Sound.zero : Sound 0 where
  value h := absurd h (by simp [valueAt])
  items h := absurd h (by simp [itemsAt])
  members h := absurd h (by simp [membersAt])

section

variable {fuel : Nat} {room : Option Nat} {cs rest : List Char}

theorem Sound.value_succ (ih : Sound fuel) {v : Value}
    (h : valueAt .file (fuel + 1) room cs = .ok (v, rest)) : Spells (.value v) cs rest := by
  -- By the first character: a string, a list, an object, or else a word or a number.
  unfold valueAt at h
  split at h
  · split at h
    · exact absurd h (by simp)
    · next s more hs =>
      obtain ⟨rfl, rfl⟩ := Prod.mk.inj (Except.ok.inj h)
      exact .text (stringAt_sound hs)
  · next more =>
    split at h
    · next hend =>
      obtain ⟨rfl, rfl⟩ := Prod.mk.inj (Except.ok.inj h)
      exact .emptyList (hend ▸ gap_skipBlanks more)
    · split at h
      · exact absurd h (by simp)
      · split at h
        · exact absurd h (by simp)
        · next hitems =>
          obtain ⟨rfl, rfl⟩ := Prod.mk.inj (Except.ok.inj h)
          exact .list (gap_skipBlanks more) (ih.items hitems)
  · next more =>
    split at h
    · next hend =>
      obtain ⟨rfl, rfl⟩ := Prod.mk.inj (Except.ok.inj h)
      exact .emptyObject (hend ▸ gap_skipBlanks more)
    · split at h
      · exact absurd h (by simp)
      · split at h
        · exact absurd h (by simp)
        · next hmembers =>
          obtain ⟨rfl, rfl⟩ := Prod.mk.inj (Except.ok.inj h)
          exact .object (gap_skipBlanks more) (ih.members hmembers)
  · split at h
    · next hword =>
      obtain rfl := Except.ok.inj h
      exact word?_sound hword
    · cases hnumber : number? cs with
      | none => exact absurd (hnumber ▸ h) (by simp)
      | some reading =>
        rw [hnumber, Option.getD_some] at h
        exact .number (number?_sound (hnumber.trans (congrArg some h)))

/-- What is read as items begins with a value, and ends there or goes on behind a comma. -/
theorem Sound.items_succ (ih : Sound fuel) {vs : List Value}
    (h : itemsAt .file (fuel + 1) room cs = .ok (vs, rest)) : Spells (.items vs) cs rest := by
  unfold itemsAt at h
  split at h
  · exact absurd h (by simp)
  · next v more hv =>
    split at h
    · next hend =>
      obtain ⟨rfl, rfl⟩ := Prod.mk.inj (Except.ok.inj h)
      exact .lastItem (ih.value hv) (hend ▸ gap_skipBlanks more)
    · next next hcomma =>
      split at h
      · exact absurd h (by simp)
      · next hitems =>
        obtain ⟨rfl, rfl⟩ := Prod.mk.inj (Except.ok.inj h)
        exact .item (ih.value hv) (hcomma ▸ gap_skipBlanks more) (gap_skipBlanks next)
          (ih.items hitems)
    · exact absurd h (by simp)

/-- What is read as members begins with a name, a colon and a value. -/
theorem Sound.members_succ (ih : Sound fuel) {es : List (String × Value)}
    (h : membersAt .file (fuel + 1) room cs = .ok (es, rest)) : Spells (.members es) cs rest := by
  unfold membersAt at h
  split at h
  · split at h
    · exact absurd h (by simp)
    · next key colon hkey =>
      have hkey := stringAt_sound hkey
      split at h
      · next after hcolon =>
        have hcolon : Gap colon (':' :: after) := hcolon ▸ gap_skipBlanks colon
        split at h
        · exact absurd h (by simp)
        · next v more hv =>
          have hv := ih.value hv
          split at h
          · next hend =>
            obtain ⟨rfl, rfl⟩ := Prod.mk.inj (Except.ok.inj h)
            exact .lastMember hkey hcolon (gap_skipBlanks after) hv (hend ▸ gap_skipBlanks more)
          · next next hcomma =>
            split at h
            · exact absurd h (by simp)
            · next hmembers =>
              obtain ⟨rfl, rfl⟩ := Prod.mk.inj (Except.ok.inj h)
              exact .member hkey hcolon (gap_skipBlanks after) hv (hcomma ▸ gap_skipBlanks more)
                (gap_skipBlanks next) (ih.members hmembers)
          · exact absurd h (by simp)
      · exact absurd h (by simp)
  · exact absurd h (by simp)

end

/-- **What the readers read is spelled so**, whatever their fuel is. -/
theorem sound (fuel : Nat) : Sound fuel := by
  induction fuel with
  | zero => exact .zero
  | succ fuel ih => exact ⟨ih.value_succ, ih.items_succ, ih.members_succ⟩

/-! ### The beginning and the end of a spelling -/

/-- The characters that open a string, a list or an object. -/
def openers : List Char := ['"', '[', '\x7b']

/-- The characters with which words begin; a number can begin with the first. -/
def initials : List Char := ['-', 'n', 't', 'f', 'N', 'I']

/-- The characters with which a spelling can begin. -/
def IsStart (c : Char) : Prop := c.isDigit = true ∨ c ∈ openers ++ initials

theorem IsStart.ne {c d : Char} (h : IsStart c) (hdigit : d.isDigit = false)
    (hd : d ∉ openers ++ initials) : c ≠ d := by
  rintro rfl
  rcases h with h | h
  · exact absurd h (by simp [hdigit])
  · exact hd h

/-- A value does not begin with a blank. -/
theorem IsStart.not_isBlank {c : Char} (h : IsStart c) : ¬ IsBlank c := by
  intro hblank
  simp only [IsBlank, List.mem_cons, List.not_mem_nil, or_false] at hblank
  rcases hblank with hc | hc | hc | hc <;> exact h.ne (by decide) (by decide) hc

/-- The words, and the texts that begin with them. -/
theorem word_cases {name : String} {v : Value} (h : (name, v) ∈ words) (rest : List Char) :
    word? (name.toList ++ rest) = some (v, rest) ∧
      ∃ c more, name.toList = c :: more ∧ c ∈ initials := by
  simp only [words, List.mem_cons, List.not_mem_nil, or_false, Prod.mk.injEq] at h
  rcases h with ⟨rfl, rfl⟩ | ⟨rfl, rfl⟩ | ⟨rfl, rfl⟩ | ⟨rfl, rfl⟩ | ⟨rfl, rfl⟩ | ⟨rfl, rfl⟩ <;>
    exact ⟨rfl, _, _, rfl, by decide⟩

/-- A number begins with a digit, or with a minus sign and a digit. -/
theorem Decimal.begins {v : Value} {cs rest : List Char} (h : Decimal v cs rest) :
    ∃ d more, d.isDigit = true ∧ (cs = d :: more ∨ cs = '-' :: d :: more) := by
  obtain ⟨negative, whole, fraction, exponent, es, hwhole, -, -, -, rfl⟩ := h
  obtain ⟨d, ds, rfl⟩ := List.exists_cons_of_ne_nil hwhole.nonempty
  have hd := hwhole.digits d List.mem_cons_self
  cases negative
  · exact ⟨d, _, hd, .inl rfl⟩
  · exact ⟨d, _, hd, .inr rfl⟩

/-- **A spelling begins with a character that a value or a name begins with.** -/
theorem Spells.begins {p : Phrase} {cs rest : List Char} (h : Spells p cs rest) :
    ∃ c more, cs = c :: more ∧ IsStart c := by
  induction h with
  | text h | lastMember h _ _ _ _ _ | member h _ _ _ _ _ _ _ _ =>
    obtain ⟨more, rfl, -⟩ := h
    exact ⟨_, _, rfl, .inr (by decide)⟩
  | word h =>
    obtain ⟨-, c, more, hname, hc⟩ := word_cases h []
    exact ⟨c, _, by rw [hname]; rfl, .inr (List.mem_append_right openers hc)⟩
  | number h =>
    obtain ⟨d, more, hd, rfl | rfl⟩ := h.begins
    · exact ⟨d, more, rfl, .inl hd⟩
    · exact ⟨_, _, rfl, .inr (by decide)⟩
  | emptyList _ | list _ _ _ | emptyObject _ | object _ _ _ => exact ⟨_, _, rfl, .inr (by decide)⟩
  | lastItem _ _ ih | item _ _ _ _ ih _ => exact ih

/-- There is nothing to skip in front of a spelling. -/
theorem Spells.solid {p : Phrase} {cs rest : List Char} (h : Spells p cs rest) : Solid cs := by
  rintro c more rfl
  obtain ⟨d, _, heq, hd⟩ := h.begins
  obtain ⟨rfl, -⟩ := List.cons.inj heq
  exact hd.not_isBlank

/-- A spelling begins with no other character, such as a closing bracket or a comma. -/
theorem Spells.ne_cons {p : Phrase} {cs rest : List Char} (h : Spells p cs rest) {d : Char}
    (hdigit : d.isDigit = false) (hd : d ∉ openers ++ initials)
    (more : List Char) : cs ≠ d :: more := by
  obtain ⟨c, _, rfl, hc⟩ := h.begins
  intro heq
  exact hc.ne hdigit hd (List.cons.inj heq).1

theorem Decimal.length_lt {v : Value} {cs rest : List Char} (h : Decimal v cs rest) :
    rest.length < cs.length := by
  obtain ⟨negative, whole, fraction, exponent, es, hwhole, -, -, -, rfl⟩ := h
  have hpos := List.length_pos_iff.2 hwhole.nonempty
  simp only [List.length_append]
  omega

theorem Gap.length_lt {cs rest : List Char} {c : Char} (h : Gap cs (c :: rest)) :
    rest.length < cs.length :=
  h.length_le

/-- A spelling has a character, so that what follows it is shorter than the text. -/
theorem Spells.length_lt {p : Phrase} {cs rest : List Char} (h : Spells p cs rest) :
    rest.length < cs.length := by
  induction h with
  | text h => exact h.length_lt
  | word h =>
    obtain ⟨-, c, more, hname, -⟩ := word_cases h []
    rw [hname, List.length_append, List.length_cons]
    omega
  | number h => exact h.length_lt
  | emptyList hend | emptyObject hend => exact Nat.lt_succ_of_lt hend.length_lt
  | list hstart _ ih | object hstart _ ih =>
    exact Nat.lt_succ_of_lt (Nat.lt_of_lt_of_le ih hstart.length_le)
  | lastItem _ hend ih => exact Nat.lt_trans hend.length_lt ih
  | item _ hcomma hstart _ ih ihs =>
    have := hcomma.length_lt
    have := hstart.length_le
    omega
  | lastMember hkey hcolon hvalue _ hend ih =>
    have := hkey.length_lt
    have := hcolon.length_lt
    have := hvalue.length_le
    have := hend.length_lt
    omega
  | member hkey hcolon hvalue _ hcomma hstart _ ih ihs =>
    have := hkey.length_lt
    have := hcolon.length_lt
    have := hvalue.length_le
    have := hcomma.length_lt
    have := hstart.length_le
    omega

/-! ### Reading is complete up to limits -/

/-- A reading gives `a` and leaves `rest`, or stops at a limit. -/
def Reaches {α : Type} (r : Reading α) (a : α) (rest : List Char) : Prop :=
  r = .ok (a, rest) ∨ ∃ fault, r = .error fault ∧ fault.complaint.isSyntax = false

section

variable {fuel : Nat} {room : Option Nat} {cs more next rest : List Char}

/-- What begins neither a string nor a list nor an object is tried as a word, then as a number. -/
theorem valueAt_other {c : Char} (hc : c ∉ openers) :
    valueAt .file (fuel + 1) room (c :: cs) =
      ((word? (c :: cs)).map Except.ok).getD
        ((number? (c :: cs)).getD (.error ⟨.expectedValue, c :: cs⟩)) := by
  simp only [openers, List.mem_cons, List.not_mem_nil, or_false, not_or] at hc
  unfold valueAt
  split
  · next heq => exact absurd (List.cons.inj heq).1 hc.1
  · next heq => exact absurd (List.cons.inj heq).1 hc.2.1
  · next heq => exact absurd (List.cons.inj heq).1 hc.2.2
  · cases word? (c :: cs) <;> rfl

/-- A string that is spelled is read, with fuel for one call. -/
theorem valueAt_text {s : String} (h : Quoted s cs rest) :
    valueAt .file (fuel + 1) room cs = .ok (.text s, rest) := by
  have hs := stringAt_complete h
  obtain ⟨more, rfl, -⟩ := h
  simp only [valueAt, hs]

/-- A word that is spelled is read, with fuel for one call. -/
theorem valueAt_word {name : String} {v : Value} (h : (name, v) ∈ words) :
    valueAt .file (fuel + 1) room (name.toList ++ rest) = .ok (v, rest) := by
  obtain ⟨hword, c, more, hname, hc⟩ := word_cases h rest
  rw [hname, List.cons_append] at hword ⊢
  rw [valueAt_other, hword]
  · rfl
  · intro hmem
    simp only [openers, List.mem_cons, List.not_mem_nil, or_false] at hmem
    rcases hmem with rfl | rfl | rfl <;> exact absurd hc (by decide)

/-- No word begins with a digit, or with a minus sign and a digit. -/
theorem word?_eq_none_of_decimal {v : Value} (h : Decimal v cs rest) : word? cs = none := by
  obtain ⟨d, more, hd, hcs⟩ := h.begins
  have hne {c : Char} (hc : c.isDigit = false) : c ≠ d := by
    rintro rfl
    exact absurd hd (by simp [hc])
  rw [word?, List.findSome?_eq_none_iff]
  intro e he
  simp only [words, List.mem_cons, List.not_mem_nil, or_false] at he
  rcases hcs with rfl | rfl <;> rcases he with rfl | rfl | rfl | rfl | rfl | rfl <;>
    simp [List.isPrefixOf, hne]

/-- A number that is spelled is read, or has too many digits. -/
theorem reaches_number {v : Value} (h : Decimal v cs rest) (hrest : Ends rest) :
    Reaches (valueAt .file (fuel + 1) room cs) v rest := by
  have hread : valueAt .file (fuel + 1) room cs =
      (number? cs).getD (.error ⟨.expectedValue, cs⟩) := by
    have hword := word?_eq_none_of_decimal h
    obtain ⟨c, more, rfl, hc⟩ : ∃ c more, cs = c :: more ∧ c ∉ openers := by
      obtain ⟨d, more, hd, rfl | rfl⟩ := h.begins
      · refine ⟨d, more, rfl, fun hmem ↦ ?_⟩
        simp only [openers, List.mem_cons, List.not_mem_nil, or_false] at hmem
        rcases hmem with rfl | rfl | rfl <;> exact absurd hd (by decide)
      · exact ⟨_, _, rfl, by decide⟩
    rw [valueAt_other hc, hword]
    rfl
  rcases number?_complete h hrest with hnumber | ⟨fault, hnumber, hlimit⟩
  · exact .inl (by rw [hread, hnumber]; rfl)
  · exact .inr ⟨fault, by rw [hread, hnumber]; rfl, hlimit⟩

/-- A filled list is read if its items are, unless there is no room for it. -/
theorem reaches_list {vs : List Value} {start : List Char} (hstart : skipBlanks cs = start)
    (hne : ∀ more, start ≠ ']' :: more)
    (h : ∀ room, Reaches (itemsAt .file fuel room start) vs rest) :
    Reaches (valueAt .file (fuel + 1) room ('[' :: cs)) (.list vs) rest := by
  simp only [valueAt]
  rw [hstart]
  split
  · next more => exact absurd rfl (hne more)
  · split
    · exact .inr ⟨_, rfl, rfl⟩
    · next room' _ =>
      rcases h room' with hitems | ⟨fault, hitems, hlimit⟩
      · exact .inl (by rw [hitems])
      · exact .inr ⟨fault, by rw [hitems], hlimit⟩

/-- A filled object is read if its members are, unless there is no room for it. -/
theorem reaches_object {es : List (String × Value)} {start : List Char}
    (hstart : skipBlanks cs = start) (hne : ∀ more, start ≠ '\x7d' :: more)
    (h : ∀ room, Reaches (membersAt .file fuel room start) es rest) :
    Reaches (valueAt .file (fuel + 1) room ('\x7b' :: cs)) (.object (Fields.ofList es)) rest := by
  simp only [valueAt]
  rw [hstart]
  split
  · next more => exact absurd rfl (hne more)
  · split
    · exact .inr ⟨_, rfl, rfl⟩
    · next room' _ =>
      rcases h room' with hmembers | ⟨fault, hmembers, hlimit⟩
      · exact .inl (by rw [hmembers]; rfl)
      · exact .inr ⟨fault, by rw [hmembers], hlimit⟩

theorem reaches_lastItem {v : Value} (hv : Reaches (valueAt .file fuel room cs) v more)
    (hend : skipBlanks more = ']' :: rest) :
    Reaches (itemsAt .file (fuel + 1) room cs) [v] rest := by
  rcases hv with hv | ⟨fault, hv, hlimit⟩
  · exact .inl (by simp only [itemsAt, hv, hend])
  · exact .inr ⟨fault, by simp only [itemsAt, hv], hlimit⟩

/-- Items are read one by one: the first, and the rest behind the comma. -/
theorem reaches_item {v : Value} {vs : List Value}
    (hv : Reaches (valueAt .file fuel room cs) v more) (hcomma : skipBlanks more = ',' :: next)
    (hvs : Reaches (itemsAt .file fuel room (skipBlanks next)) vs rest) :
    Reaches (itemsAt .file (fuel + 1) room cs) (v :: vs) rest := by
  rcases hv with hv | ⟨fault, hv, hlimit⟩
  · rcases hvs with hvs | ⟨fault, hvs, hlimit⟩
    · exact .inl (by simp only [itemsAt, hv, hcomma, hvs])
    · exact .inr ⟨fault, by simp only [itemsAt, hv, hcomma, hvs], hlimit⟩
  · exact .inr ⟨fault, by simp only [itemsAt, hv], hlimit⟩

theorem reaches_lastMember {key : String} {v : Value} {colon after : List Char}
    (hkey : Quoted key cs colon) (hcolon : skipBlanks colon = ':' :: after)
    (hv : Reaches (valueAt .file fuel room (skipBlanks after)) v more)
    (hend : skipBlanks more = '\x7d' :: rest) :
    Reaches (membersAt .file (fuel + 1) room cs) [(key, v)] rest := by
  have hs := stringAt_complete hkey
  obtain ⟨_, rfl, -⟩ := hkey
  rcases hv with hv | ⟨fault, hv, hlimit⟩
  · exact .inl (by simp only [membersAt, hs, hcolon, hv, hend])
  · exact .inr ⟨fault, by simp only [membersAt, hs, hcolon, hv], hlimit⟩

/-- Members are read one by one: the first, and the rest behind the comma. -/
theorem reaches_member {key : String} {v : Value} {es : List (String × Value)}
    {colon after : List Char} (hkey : Quoted key cs colon)
    (hcolon : skipBlanks colon = ':' :: after)
    (hv : Reaches (valueAt .file fuel room (skipBlanks after)) v more)
    (hcomma : skipBlanks more = ',' :: next)
    (hes : Reaches (membersAt .file fuel room (skipBlanks next)) es rest) :
    Reaches (membersAt .file (fuel + 1) room cs) ((key, v) :: es) rest := by
  have hs := stringAt_complete hkey
  obtain ⟨_, rfl, -⟩ := hkey
  rcases hv with hv | ⟨fault, hv, hlimit⟩
  · rcases hes with hes | ⟨fault, hes, hlimit⟩
    · exact .inl (by simp only [membersAt, hs, hcolon, hv, hcomma, hes])
    · exact .inr ⟨fault, by simp only [membersAt, hs, hcolon, hv, hcomma, hes], hlimit⟩
  · exact .inr ⟨fault, by simp only [membersAt, hs, hcolon, hv], hlimit⟩

end

/-- What the reader of a phrase makes of its spelling: with two calls for every character it reaches
the end, and a value is read as such if what follows does not go on with it. -/
def IsRead : Phrase → List Char → List Char → Prop
  | .value v, cs, rest => ∀ fuel room, 2 * cs.length ≤ fuel → Ends rest →
      Reaches (valueAt .file fuel room cs) v rest
  | .items vs, cs, rest => ∀ fuel room, 2 * cs.length + 1 ≤ fuel →
      Reaches (itemsAt .file fuel room cs) vs rest
  | .members es, cs, rest => ∀ fuel room, 2 * cs.length + 1 ≤ fuel →
      Reaches (membersAt .file fuel room cs) es rest

/-- After blanks and a character that ends a value, a value ends. -/
theorem Gap.ends {more rest : List Char} {c : Char} (h : Gap more (c :: rest))
    (hc : c = ',' ∨ c = ']' ∨ c = '\x7d') : Ends more := by
  obtain ⟨blanks, hblanks, rfl⟩ := h
  intro d _ hd
  cases blanks with
  | nil => exact .inr ((List.cons.inj hd).1 ▸ hc)
  | cons b blanks => exact .inl ((List.cons.inj hd).1 ▸ hblanks b List.mem_cons_self)

/-- Blanks in front of a punctuation mark are dropped. -/
theorem skipBlanks_eq_cons {more rest : List Char} {c : Char} (h : Gap more (c :: rest))
    (hc : c ∈ [',', ':', ']', '\x7d']) : skipBlanks more = c :: rest := by
  refine skipBlanks_of_gap h ?_
  rintro d _ hd hblank
  rw [← (List.cons.inj hd).1] at hblank
  simp only [List.mem_cons, List.not_mem_nil, or_false] at hc
  rcases hc with rfl | rfl | rfl | rfl <;> exact absurd hblank (by simp [IsBlank])

/-- **What is spelled is read**, unless a limit is in the way. -/
theorem Spells.isRead {p : Phrase} {cs rest : List Char} (h : Spells p cs rest) :
    IsRead p cs rest := by
  -- The fuel is at least one, since every spelling has a character.
  have hpos := h.length_lt
  induction h with
  | text h =>
    rintro (_ | fuel) room hfuel -
    · omega
    · exact .inl (valueAt_text h)
  | word h =>
    rintro (_ | fuel) room hfuel -
    · omega
    · exact .inl (valueAt_word h)
  | number h =>
    rintro (_ | fuel) room hfuel hrest
    · omega
    · exact reaches_number h hrest
  | emptyList hend =>
    rintro (_ | fuel) room hfuel -
    · omega
    · exact .inl (by simp only [valueAt, skipBlanks_eq_cons hend (by simp)])
  | list hstart h ih =>
    rintro (_ | fuel) room hfuel -
    · omega
    · refine reaches_list (skipBlanks_of_gap hstart h.solid) (h.ne_cons (by decide) (by decide))
        fun room ↦ ih h.length_lt fuel room ?_
      have := hstart.length_le
      rw [List.length_cons] at hfuel
      omega
  | emptyObject hend =>
    rintro (_ | fuel) room hfuel -
    · omega
    · exact .inl (by simp only [valueAt, skipBlanks_eq_cons hend (by simp)])
  | object hstart h ih =>
    rintro (_ | fuel) room hfuel -
    · omega
    · refine reaches_object (skipBlanks_of_gap hstart h.solid) (h.ne_cons (by decide) (by decide))
        fun room ↦ ih h.length_lt fuel room ?_
      have := hstart.length_le
      rw [List.length_cons] at hfuel
      omega
  | lastItem h hend ih =>
    rintro (_ | fuel) room hfuel
    · omega
    · exact reaches_lastItem (ih h.length_lt fuel room (by omega) (hend.ends (by simp)))
        (skipBlanks_eq_cons hend (by simp))
  | item h hcomma hstart hitems ih ihs =>
    rintro (_ | fuel) room hfuel
    · omega
    · refine reaches_item (ih h.length_lt fuel room (by omega) (hcomma.ends (by simp)))
        (skipBlanks_eq_cons hcomma (by simp)) ?_
      rw [skipBlanks_of_gap hstart hitems.solid]
      refine ihs hitems.length_lt fuel room ?_
      have := h.length_lt
      have := hcomma.length_lt
      have := hstart.length_le
      omega
  | lastMember hkey hcolon hvalue h hend ih =>
    have := hkey.length_lt
    have := hcolon.length_lt
    have := hvalue.length_le
    rintro (_ | fuel) room hfuel
    · omega
    · refine reaches_lastMember hkey (skipBlanks_eq_cons hcolon (by simp)) ?_
        (skipBlanks_eq_cons hend (by simp))
      rw [skipBlanks_of_gap hvalue h.solid]
      exact ih h.length_lt fuel room (by omega) (hend.ends (by simp))
  | member hkey hcolon hvalue h hcomma hstart hmembers ih ihs =>
    have := hkey.length_lt
    have := hcolon.length_lt
    have := hvalue.length_le
    rintro (_ | fuel) room hfuel
    · omega
    · refine reaches_member hkey (skipBlanks_eq_cons hcolon (by simp)) ?_
        (skipBlanks_eq_cons hcomma (by simp)) ?_
      · rw [skipBlanks_of_gap hvalue h.solid]
        exact ih h.length_lt fuel room (by omega) (hcomma.ends (by simp))
      · rw [skipBlanks_of_gap hstart hmembers.solid]
        refine ihs hmembers.length_lt fuel room ?_
        have := h.length_lt
        have := hcomma.length_lt
        have := hstart.length_le
        omega

/-! ### Whole texts -/

/-- **Reading a whole text is sound.** -/
theorem holds_of_readChars {cs : List Char} {v : Value} (h : readChars .file cs = .ok v) :
    Holds cs v := by
  unfold readChars at h
  split at h
  · exact absurd h (by simp)
  · split at h
    · exact absurd h (by simp)
    · next more hv =>
      split at h
      · next hend =>
        obtain rfl := Except.ok.inj h
        exact ⟨skipBlanks cs, more, gap_skipBlanks cs, (sound _).value hv,
          hend ▸ gap_skipBlanks more⟩
      · exact absurd h (by simp)

/-- A text that holds a value begins with no byte order mark. -/
theorem Holds.ne_byteOrderMark {cs : List Char} {v : Value} (h : Holds cs v) (more : List Char) :
    cs ≠ '\ufeff' :: more := by
  obtain ⟨start, _, ⟨blanks, hblanks, rfl⟩, hv, -⟩ := h
  cases blanks with
  | nil => exact hv.ne_cons (by decide) (by decide) more
  | cons b blanks =>
    intro hcs
    have hb := hblanks b List.mem_cons_self
    rw [(List.cons.inj hcs).1] at hb
    exact absurd hb (by simp [IsBlank])

/-- **Reading a whole text is complete** up to the limits. -/
theorem Holds.readChars {cs : List Char} {v : Value} (h : Holds cs v) :
    readChars .file cs = .ok v ∨
      ∃ fault, readChars .file cs = .error fault ∧ fault.complaint.isSyntax = false := by
  have hmark := h.ne_byteOrderMark
  obtain ⟨start, more, hstart, hv, hend⟩ := h
  have hends : Ends more := by
    obtain ⟨blanks, hblanks, rfl⟩ := hend
    intro c _ hc
    rw [List.append_nil] at hc
    exact .inl (hblanks c (hc ▸ List.mem_cons_self))
  have hlength := hstart.length_le
  have hread := hv.isRead (2 * cs.length + 2) Dialect.file.depth (by omega) hends
  have hskip : skipBlanks more = [] := skipBlanks_of_gap hend (fun c more hc ↦ absurd hc (by simp))
  rw [← skipBlanks_of_gap hstart hv.solid] at hread
  unfold Json.readChars
  split
  · next cs => exact absurd rfl (hmark cs)
  · rcases hread with hread | ⟨fault, hread, hlimit⟩
    · exact .inl (by simp only [hread, hskip])
    · exact .inr ⟨fault, by simp only [hread], hlimit⟩

/-- A text stays within the limits of the reader: if it is refused, then for its form. -/
def WithinLimits (cs : List Char) : Prop :=
  ∀ refusal, readAll .file cs = .error refusal → refusal.complaint.isSyntax = true

/-- **A text is read as `v` exactly if it holds `v`**, within the limits of the reader. -/
theorem readAll_eq_ok_iff {cs : List Char} {v : Value} :
    readAll .file cs = .ok v ↔ Holds cs v ∧ WithinLimits cs := by
  constructor
  · intro h
    refine ⟨?_, fun refusal herror ↦ absurd (h.symm.trans herror) (by simp)⟩
    unfold readAll at h
    split at h
    · next hread => exact Except.ok.inj h ▸ holds_of_readChars hread
    · exact absurd h (by simp)
  · rintro ⟨hholds, hlimits⟩
    rcases hholds.readChars with hread | ⟨fault, hread, hlimit⟩
    · rw [readAll, hread]
    · have hsyntax := hlimits _ (by rw [readAll, hread])
      exact absurd (hlimit.symm.trans hsyntax) (by simp)

end FlowCanvas.Json
