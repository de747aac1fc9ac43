import FlowCanvas.Canvas.Calls
import FlowCanvas.Proofs.FirstOccurrences
import Mathlib.Data.List.Basic
import Mathlib.Data.List.Infix

/-!
# The names that a text binds

The search for bound names looks for the keyword `let`, blanks, possibly `mut` and blanks, and a
name. As a pattern this is tried in several ways: a run of blanks or of word characters may be taken
as a whole or only in part, and `mut` may be the word before the name or the name itself. `ways`
lists them in the order in which they are tried, longer runs first and with `mut` before without it,
and the first way that is one counts. `Finds cs names` is the search with that pattern, from left to
right and without overlaps.

The program does not try: it takes runs as a whole and looks once for what follows. **It finds the
same** (`binding?_eq_head?_ways`, `scan_eq_iff`), because a run of blanks that is cut short is
followed by a blank, where neither a name nor `mut` begins.

What is found in lines of bindings (`Let.line`) is their names. A name may hold the keyword itself,
or be `mut`; an expression may be anything without the keyword in it (`Finds.lines`). What is found
in any text at all is in it, as a word behind the keyword (`Finds.isRun`).
-/

namespace FlowCanvas.Variables

/-! ### Blanks and word characters -/

/-- The code points of the blanks. -/
def blankCodes : List Nat :=
  [9, 10, 11, 12, 13, 0x1c, 0x1d, 0x1e, 0x1f, 0x20, 0x85, 0xa0, 0x1680, 0x2000, 0x2001, 0x2002,
    0x2003, 0x2004, 0x2005, 0x2006, 0x2007, 0x2008, 0x2009, 0x200a, 0x2028, 0x2029, 0x202f, 0x205f,
    0x3000]

theorem toNat_mem_blankCodes {c : Char} (h : Text.isBlank c = true) : c.toNat ∈ blankCodes := by
  simp only [Text.isBlank, Text.isWhite, Bool.or_eq_true, Bool.and_eq_true, decide_eq_true_eq,
    beq_iff_eq] at h
  simp only [blankCodes, List.mem_cons, List.not_mem_nil, or_false]
  omega

/-- **No blank is a word character.** -/
theorem isWord_of_isBlank {c : Char} (h : Text.isBlank c = true) : Text.isWord c = false := by
  have hcodes : ∀ n ∈ blankCodes, Text.isWord (Char.ofNat n) = false := by decide +kernel
  rw [← Char.ofNat_toNat c]
  exact hcodes c.toNat (toNat_mem_blankCodes h)

theorem isBlank_of_isWord {c : Char} (h : Text.isWord c = true) : Text.isBlank c = false := by
  by_contra hblank
  rw [isWord_of_isBlank (Bool.not_eq_false _ ▸ hblank)] at h
  exact Bool.false_ne_true h

/-! ### The pattern -/

/-- The ways in which a text begins with a run of a class, which is not empty: the run and the rest,
the longest run first. -/
def runs (p : Char → Bool) : List Char → List (List Char × List Char)
  | [] => []
  | c :: cs => if p c then (runs p cs).map (fun r ↦ (c :: r.1, r.2)) ++ [([c], cs)] else []

/-- The one way or none in which a text begins with a word: the rest. -/
def literal (word : String) (cs : List Char) : List (List Char) :=
  if word.toList.isPrefixOf cs then [cs.drop word.length] else []

/-- What may be left of a text before the name: the rest after `mut` and blanks, and the text
itself. -/
def modified (cs : List Char) : List (List Char) :=
  ((literal "mut" cs).flatMap (runs Text.isBlank)).map Prod.snd ++ [cs]

/-- **The ways in which a text begins with a binding**, in the order in which they are tried: the
name and the rest. -/
def ways (cs : List Char) : List (List Char × List Char) :=
  (literal "let" cs).flatMap fun keyword ↦ (runs Text.isBlank keyword).flatMap fun gap ↦
    (modified gap.2).flatMap (runs Text.isWord)

/-- **The search for bindings**, from left to right: where the text begins with one the search goes
on behind it, else at the next character. -/
inductive Finds : List Char → List String → Prop where
  | nil : Finds [] []
  | bound {cs name rest : List Char} {names : List String} (h : (ways cs).head? = some (name, rest))
      (hrest : Finds rest names) : Finds cs (String.ofList name :: names)
  | passed {c : Char} {cs : List Char} {names : List String} (h : ways (c :: cs) = [])
      (hrest : Finds cs names) : Finds (c :: cs) names

variable {p : Char → Bool} {cs name rest : List Char} {names : List String}

/-- The first run is the whole one, and behind every other one the class goes on. -/
theorem runs_cons {c : Char} (hc : p c = true) (cs : List Char) :
    ∃ others, runs p (c :: cs) = ((c :: cs).takeWhile p, (c :: cs).dropWhile p) :: others ∧
      ∀ r ∈ others, ∃ d more, p d = true ∧ r.2 = d :: more := by
  induction cs generalizing c with
  | nil => exact ⟨[], by simp [runs, hc], fun r hr ↦ absurd hr List.not_mem_nil⟩
  | cons d cs ih =>
    cases hd : p d with
    | false => exact ⟨[], by simp [runs, hc, hd], fun r hr ↦ absurd hr List.not_mem_nil⟩
    | true =>
      obtain ⟨others, hruns, hothers⟩ := ih hd
      refine ⟨others.map (fun r ↦ (c :: r.1, r.2)) ++ [([c], d :: cs)], ?_, fun r hr ↦ ?_⟩
      · rw [runs, if_pos hc, hruns, List.takeWhile_cons_of_pos hc, List.dropWhile_cons_of_pos hc]
        rfl
      · rcases List.mem_append.1 hr with hr | hr
        · obtain ⟨r', hr', rfl⟩ := List.mem_map.1 hr
          exact hothers r' hr'
        · exact ⟨d, cs, hd, by rw [List.mem_singleton.1 hr]⟩

theorem runs_of_not {c : Char} (hc : p c = false) (cs : List Char) : runs p (c :: cs) = [] := by
  rw [runs, hc]
  rfl

/-- Where nothing can follow a run that is cut short, only the whole run is to be tried. -/
theorem findSome?_runs {α : Type} {f : List Char × List Char → Option α}
    (hf : ∀ r d more, p d = true → r.2 = d :: more → f r = none) (cs : List Char) :
    (runs p cs).findSome? f = (runs p cs).head?.bind f := by
  cases cs with
  | nil => rfl
  | cons c cs =>
    cases hc : p c with
    | false => rw [runs_of_not hc]; rfl
    | true =>
      obtain ⟨others, hruns, hothers⟩ := runs_cons hc cs
      have hnone : others.findSome? f = none := by
        refine List.findSome?_eq_none_iff.2 fun r hr ↦ ?_
        obtain ⟨d, more, hd, hmore⟩ := hothers r hr
        exact hf r d more hd hmore
      rw [hruns, List.findSome?_cons, hnone, List.head?_cons, Option.bind_some]
      cases f ((c :: cs).takeWhile p, (c :: cs).dropWhile p) <;> rfl

/-! ### The program follows the pattern -/

theorem name?_eq_head?_runs (cs : List Char) : name? cs = (runs Text.isWord cs).head? := by
  cases cs with
  | nil => rfl
  | cons c cs =>
    cases hc : Text.isWord c with
    | false =>
      rw [runs_of_not hc, name?, List.takeWhile_cons_of_neg (by simp [hc])]
      rfl
    | true =>
      obtain ⟨others, hruns, -⟩ := runs_cons hc cs
      rw [hruns, name?, List.takeWhile_cons_of_pos hc]
      rfl

theorem afterBlanks?_eq_head?_runs (cs : List Char) :
    afterBlanks? cs = (runs Text.isBlank cs).head?.map Prod.snd := by
  cases cs with
  | nil => rfl
  | cons c cs =>
    cases hc : Text.isBlank c with
    | false =>
      rw [runs_of_not hc, afterBlanks?]
      exact if_neg (by simp [hc])
    | true =>
      obtain ⟨others, hruns, -⟩ := runs_cons hc cs
      rw [hruns, afterBlanks?]
      exact if_pos hc

theorem findSome?_literal {α : Type} (f : List Char → Option α) (word : String) (cs : List Char) :
    (literal word cs).findSome? f = (afterWord? word cs).bind f := by
  rw [literal, afterWord?]
  split
  · exact List.findSome?_singleton
  · rfl

theorem name?_of_isBlank {d : Char} (h : Text.isBlank d = true) (more : List Char) :
    name? (d :: more) = none := by
  rw [name?_eq_head?_runs, runs_of_not (isWord_of_isBlank h)]
  rfl

/-- Of the ways to read what stands before a name, the program tries the two that can be followed by
one. -/
theorem findSome?_modified (cs : List Char) :
    (modified cs).findSome? name? =
      (((afterWord? "mut" cs).bind afterBlanks?).bind name?).or (name? cs) := by
  have hruns : ∀ t, ((runs Text.isBlank t).map Prod.snd).findSome? name? =
      (afterBlanks? t).bind name? := by
    intro t
    rw [List.findSome?_map, findSome?_runs, afterBlanks?_eq_head?_runs, Option.bind_map]
    rintro r d more hd hr
    rw [Function.comp, hr]
    exact name?_of_isBlank hd more
  have hmut : (((literal "mut" cs).flatMap (runs Text.isBlank)).map Prod.snd).findSome? name? =
      ((afterWord? "mut" cs).bind afterBlanks?).bind name? := by
    rw [literal, afterWord?]
    split
    · rw [List.flatMap_singleton]
      exact hruns _
    · rfl
  rw [modified, List.findSome?_append, hmut, List.findSome?_singleton]

/-- **The program reads a binding in the first way in which the pattern can be read.** -/
theorem binding?_eq_head?_ways (cs : List Char) : binding? cs = (ways cs).head? := by
  have hcut : ∀ (gap : List Char × List Char) (d : Char) (more : List Char),
      Text.isBlank d = true → gap.2 = d :: more → (modified gap.2).findSome? name? = none := by
    rintro gap d more hd hgap
    have hmut : afterWord? "mut" (d :: more) = none := by
      refine if_neg fun hword ↦ ?_
      obtain ⟨hm, -⟩ := List.cons_prefix_cons.1 (List.isPrefixOf_iff_prefix.1 hword)
      exact absurd (hm ▸ hd) (by decide)
    rw [hgap, findSome?_modified, hmut, name?_of_isBlank hd]
    rfl
  have hgaps : ∀ t, ((runs Text.isBlank t).flatMap fun gap ↦
      (modified gap.2).flatMap (runs Text.isWord)).head? =
        (afterBlanks? t).bind fun head ↦ (modified head).findSome? name? := by
    intro t
    have hnames : ∀ gap : List Char × List Char,
        ((modified gap.2).flatMap (runs Text.isWord)).head? = (modified gap.2).findSome? name? := by
      intro gap
      rw [List.head?_flatMap]
      exact congrArg (List.findSome? · _) (funext fun r ↦ (name?_eq_head?_runs r).symm)
    rw [List.head?_flatMap]
    simp only [hnames]
    rw [findSome?_runs hcut, afterBlanks?_eq_head?_runs, Option.bind_map]
    rfl
  rw [ways, List.head?_flatMap, findSome?_literal, binding?]
  simp only [hgaps, findSome?_modified]
  rw [← Option.bind_assoc]
  rfl

/-- A run of a class, which is not empty. -/
def IsRun (p : Char → Bool) (cs : List Char) : Prop := cs ≠ [] ∧ ∀ c ∈ cs, p c = true

instance : Decidable (IsRun p cs) :=
  decidable_of_iff (cs ≠ [] ∧ cs.all p = true) (and_congr_right fun _ ↦ List.all_eq_true)

theorem isRun_of_mem_runs {r : List Char × List Char} (h : r ∈ runs p cs) :
    IsRun p r.1 ∧ cs = r.1 ++ r.2 := by
  induction cs generalizing r with
  | nil => exact absurd h List.not_mem_nil
  | cons c cs ih =>
    rw [runs] at h
    split at h
    · next hc =>
      rcases List.mem_append.1 h with h | h
      · obtain ⟨r', hr', rfl⟩ := List.mem_map.1 h
        obtain ⟨⟨-, hall⟩, hcs⟩ := ih hr'
        exact ⟨⟨List.cons_ne_nil _ _, List.forall_mem_cons.2 ⟨hc, hall⟩⟩, congrArg (c :: ·) hcs⟩
      · rw [List.mem_singleton.1 h]
        exact ⟨⟨List.cons_ne_nil _ _, by simpa using hc⟩, rfl⟩
    · exact absurd h List.not_mem_nil

theorem eq_append_of_mem_literal {word : String} (h : rest ∈ literal word cs) :
    cs = word.toList ++ rest := by
  rw [literal] at h
  split at h
  · next hprefix =>
    obtain ⟨more, rfl⟩ := List.isPrefixOf_iff_prefix.1 hprefix
    rw [List.mem_singleton.1 h, ← String.length_toList, List.drop_left]
  · exact absurd h List.not_mem_nil

theorem suffix_of_mem_modified (h : rest ∈ modified cs) : rest <:+ cs := by
  rcases List.mem_append.1 h with h | h
  · obtain ⟨gap, hgap, rfl⟩ := List.mem_map.1 h
    obtain ⟨t, ht, hrun⟩ := List.mem_flatMap.1 hgap
    rw [eq_append_of_mem_literal ht, (isRun_of_mem_runs hrun).2]
    exact (List.suffix_append _ _).trans (List.suffix_append _ _)
  · rw [List.mem_singleton.1 h]

/-- In whatever way a text begins with a binding, the name is a run of word characters in it, and
something stands before. -/
theorem isRun_of_mem_ways (h : (name, rest) ∈ ways cs) :
    IsRun Text.isWord name ∧ ∃ before, before ≠ [] ∧ cs = before ++ (name ++ rest) := by
  obtain ⟨keyword, hkeyword, h⟩ := List.mem_flatMap.1 h
  obtain ⟨gap, hgap, h⟩ := List.mem_flatMap.1 h
  obtain ⟨head, hhead, h⟩ := List.mem_flatMap.1 h
  obtain ⟨hrun, rfl⟩ := isRun_of_mem_runs h
  obtain ⟨modifier, hmodifier⟩ := suffix_of_mem_modified hhead
  refine ⟨hrun, "let".toList ++ (gap.1 ++ modifier), by simp, ?_⟩
  rw [eq_append_of_mem_literal hkeyword, (isRun_of_mem_runs hgap).2, ← hmodifier]
  simp only [List.append_assoc]

/-! ### Searching a text -/

theorem finds_scan {fuel : Nat} (hfuel : cs.length ≤ fuel) : Finds cs (scan fuel cs) := by
  induction fuel generalizing cs with
  | zero =>
    rw [List.length_eq_zero_iff.1 (Nat.le_zero.1 hfuel)]
    exact .nil
  | succ fuel ih =>
    cases cs with
    | nil => exact .nil
    | cons c cs =>
      rw [List.length_cons] at hfuel
      rw [scan, binding?_eq_head?_ways]
      split
      · next name rest hfirst =>
        obtain ⟨-, before, hbefore, hcs⟩ := isRun_of_mem_ways (List.mem_of_head? hfirst)
        have hlength := congrArg List.length hcs
        have hpos := List.length_pos_iff.2 hbefore
        simp only [List.length_cons, List.length_append] at hlength
        exact .bound hfirst (ih (by omega))
      · next hnone => exact .passed (List.head?_eq_none_iff.1 hnone) (ih (by omega))

theorem Finds.unique {names' : List String} (h : Finds cs names) (h' : Finds cs names') :
    names = names' := by
  have hnil : ways [] = [] := rfl
  induction h generalizing names' with
  | nil =>
    rcases h' with - | ⟨hfirst, -⟩
    · rfl
    · exact absurd hfirst (by simp [hnil])
  | bound hfirst _ ih =>
    rcases h' with - | ⟨hfirst', hrest⟩ | ⟨hnone, -⟩
    · exact absurd hfirst (by simp [hnil])
    · obtain ⟨rfl, rfl⟩ := Prod.mk.inj (Option.some.inj (hfirst.symm.trans hfirst'))
      rw [ih hrest]
    · exact absurd hfirst (by simp [hnone])
  | passed hnone _ ih =>
    rcases h' with - | ⟨hfirst, -⟩ | ⟨-, hrest⟩
    · exact absurd hfirst (by simp [hnone])
    · exact ih hrest

/-- **The program searches as the pattern demands**, if its fuel is enough for the text. -/
theorem scan_eq_iff {fuel : Nat} (hfuel : cs.length ≤ fuel) :
    scan fuel cs = names ↔ Finds cs names :=
  ⟨fun h ↦ h ▸ finds_scan hfuel, (finds_scan hfuel).unique⟩

/-- What is found is a run of word characters in the text. -/
theorem Finds.isRun (h : Finds cs names) :
    ∀ name ∈ names, IsRun Text.isWord name.toList ∧ name.toList <:+: cs := by
  induction h with
  | nil => exact fun _ hname ↦ absurd hname List.not_mem_nil
  | @bound cs name rest names hfirst _ ih =>
    obtain ⟨hrun, before, -, rfl⟩ := isRun_of_mem_ways (List.mem_of_head? hfirst)
    refine List.forall_mem_cons.2 ⟨?_, fun other hother ↦ ?_⟩
    · rw [String.toList_ofList]
      exact ⟨hrun, before, rest, by simp⟩
    · obtain ⟨hrun, hinfix⟩ := ih other hother
      refine ⟨hrun, hinfix.trans ?_⟩
      exact ((List.suffix_append _ _).trans (List.suffix_append _ _)).isInfix
  | passed _ _ ih => exact fun name hname ↦ (ih name hname).imp_right List.infix_cons

/-! ### Lines of bindings -/

/-- A binding: whether it is mutable, its name, and an expression in which the keyword does not
occur. -/
structure Let where
  isMutable : Bool
  name : String
  expression : String
  isRun : IsRun Text.isWord name.toList
  free : ¬ "let".toList <:+: expression.toList

namespace Let

/-- The line of a binding. -/
def line (b : Let) : String :=
  "let " ++ (if b.isMutable then "mut " else "") ++ b.name ++ " = " ++ b.expression ++ ";\n"

/-- The lines of bindings, one after the other. -/
def code (lets : List Let) : String := (lets.map line).foldr (· ++ ·) ""

end Let

theorem afterWord?_append (word : String) (rest : List Char) :
    afterWord? word (word.toList ++ rest) = some rest := by
  rw [afterWord?, if_pos (List.isPrefixOf_iff_prefix.2 (List.prefix_append _ _)),
    ← String.length_toList, List.drop_left]

theorem afterBlanks?_space {c : Char} (hc : Text.isBlank c = false) (rest : List Char) :
    afterBlanks? (' ' :: c :: rest) = some (c :: rest) := by
  rw [afterBlanks?, if_pos (by decide), List.dropWhile_cons_of_pos (by decide),
    List.dropWhile_cons_of_neg (by simp [hc])]

theorem name?_append {d : Char} (hname : IsRun Text.isWord name) (hd : Text.isWord d = false)
    (rest : List Char) : name? (name ++ d :: rest) = some (name, d :: rest) := by
  have hneg : ¬ Text.isWord d = true := by simp [hd]
  rw [name?, List.takeWhile_append_of_pos hname.2, List.dropWhile_append_of_pos hname.2,
    List.takeWhile_cons_of_neg hneg, List.dropWhile_cons_of_neg hneg, List.append_nil]
  obtain ⟨c, more, rfl⟩ := List.exists_cons_of_ne_nil hname.1
  rfl

/-- A word in which a character does not occur ends before it. -/
theorem prefix_of_not_mem {word : List Char} {d : Char} (hd : d ∉ word)
    (h : word <+: name ++ d :: rest) : word <+: name := by
  have hconcat : name ++ [d] <+: name ++ d :: rest := ⟨rest, by simp⟩
  rcases List.prefix_or_prefix_of_prefix h hconcat with h | h
  · rcases List.prefix_concat_iff.1 h with rfl | h
    · exact absurd List.mem_concat_self hd
    · exact h
  · exact absurd (h.subset List.mem_concat_self) hd

/-- Before an equals sign `mut` is no modifier: if it is there at all, it is in the name. -/
theorem unmodified (hname : IsRun Text.isWord name) (rest : List Char) :
    ((afterWord? "mut" (name ++ ' ' :: '=' :: rest)).bind afterBlanks?).bind name? = none := by
  rw [afterWord?]
  split
  · next hprefix =>
    obtain ⟨more, rfl⟩ : "mut".toList <+: name :=
      prefix_of_not_mem (by decide) (List.isPrefixOf_iff_prefix.1 hprefix)
    rw [← String.length_toList, List.append_assoc, List.drop_left, Option.bind_some]
    cases more with
    | nil =>
      rw [List.nil_append, afterBlanks?_space (by decide), Option.bind_some, name?,
        List.takeWhile_cons_of_neg (by decide)]
    | cons c more =>
      have hc : Text.isBlank c = false := isBlank_of_isWord (hname.2 c (by simp))
      rw [List.cons_append, afterBlanks?, if_neg (by simp [hc])]
      rfl
  · rfl

/-- What is read behind the keyword and a space. -/
theorem binding?_let {c : Char} (hc : Text.isBlank c = false) (head : List Char) :
    binding? ("let".toList ++ ' ' :: c :: head) =
      (((afterWord? "mut" (c :: head)).bind afterBlanks?).bind name?).or (name? (c :: head)) := by
  rw [binding?, afterWord?_append, Option.bind_some, afterBlanks?_space hc]
  rfl

/-- What is read at the beginning of a line is its name. -/
theorem binding?_line (b : Let) (rest : List Char) :
    binding? (b.line.toList ++ rest) =
      some (b.name.toList, ' ' :: '=' :: ' ' :: (b.expression.toList ++ ';' :: '\n' :: rest)) := by
  obtain ⟨c, more, hname⟩ := List.exists_cons_of_ne_nil b.isRun.1
  have hc : Text.isBlank c = false := isBlank_of_isWord (b.isRun.2 c (by simp [hname]))
  generalize htail : ' ' :: (b.expression.toList ++ ';' :: '\n' :: rest) = tail
  have hread : name? (b.name.toList ++ ' ' :: '=' :: tail) =
      some (b.name.toList, ' ' :: '=' :: tail) := name?_append b.isRun (by decide) _
  cases hmut : b.isMutable with
  | true =>
    have hline : b.line.toList ++ rest =
        "let".toList ++ ' ' :: 'm' :: 'u' :: 't' :: ' ' ::
          (b.name.toList ++ ' ' :: '=' :: tail) := by
      simp [Let.line, hmut, ← htail]
    have hmodifier : (afterWord? "mut" ('m' :: 'u' :: 't' :: ' ' ::
        (b.name.toList ++ ' ' :: '=' :: tail))).bind afterBlanks? =
          some (b.name.toList ++ ' ' :: '=' :: tail) := by
      rw [hname]
      exact afterBlanks?_space hc _
    rw [hline, binding?_let (by decide), hmodifier, Option.bind_some, hread]
    rfl
  | false =>
    have hline : b.line.toList ++ rest =
        "let".toList ++ ' ' :: (b.name.toList ++ ' ' :: '=' :: tail) := by
      simp [Let.line, hmut, ← htail]
    have hhead : b.name.toList ++ ' ' :: '=' :: tail = c :: (more ++ ' ' :: '=' :: tail) := by
      rw [hname, List.cons_append]
    rw [hline, hhead, binding?_let hc, ← hhead, unmodified b.isRun, hread]
    rfl

/-- Where another letter than that of the keyword stands, nothing begins. -/
theorem Finds.cons {c : Char} (hc : c ≠ 'l') (h : Finds cs names) : Finds (c :: cs) names := by
  refine .passed ?_ h
  have hword : literal "let" (c :: cs) = [] := by
    refine if_neg fun hprefix ↦ hc ?_
    exact (List.cons_prefix_cons.1 (List.isPrefixOf_iff_prefix.1 hprefix)).1.symm
  rw [ways, hword]
  rfl

/-- In an expression without the keyword nothing begins; a semicolon ends it. -/
theorem Finds.expression {expression : List Char} (hfree : ¬ "let".toList <:+: expression)
    (h : Finds (';' :: rest) names) : Finds (expression ++ ';' :: rest) names := by
  induction expression with
  | nil => exact h
  | cons c expression ih =>
    refine .passed ?_ (ih fun hinfix ↦ hfree (List.infix_cons hinfix))
    have hword : literal "let" (c :: expression ++ ';' :: rest) = [] := by
      refine if_neg fun hprefix ↦ hfree ?_
      exact (prefix_of_not_mem (by decide) (List.isPrefixOf_iff_prefix.1 hprefix)).isInfix
    show ways (c :: expression ++ ';' :: rest) = []
    rw [ways, hword]
    rfl

/-- **What is found in lines of bindings is their names.** -/
theorem Finds.lines (lets : List Let) : Finds (Let.code lets).toList (lets.map Let.name) := by
  induction lets with
  | nil => exact .nil
  | cons b lets ih =>
    have hcode : (Let.code (b :: lets)).toList = b.line.toList ++ (Let.code lets).toList :=
      String.toList_append
    have hname : b.name = String.ofList b.name.toList := String.ofList_toList.symm
    rw [hcode, List.map_cons, hname]
    refine .bound ((binding?_eq_head?_ways _).symm.trans (binding?_line b _)) ?_
    refine .cons (by decide) (.cons (by decide) (.cons (by decide) (.expression b.free ?_)))
    exact .cons (by decide) (.cons (by decide) ih)

end FlowCanvas.Variables

namespace FlowCanvas.Block

open Variables

/-- **The variables of a block are the names that its code binds.** Whatever the code is, they are
the first occurrences of what the search finds in it; none is listed twice, and each is a run of
word characters in the code. Where the code is lines of bindings, they are the names of these, in
the order in which they are first bound. -/
theorem boundVariables_spec {b : Block} {code : String}
    (h : Fields.get? b.properties "code" = some (.text code)) :
    (∃ names, Finds code.toList names ∧ FirstOccurrences names b.boundVariables) ∧
      (b.boundVariables.Nodup ∧ ∀ name ∈ b.boundVariables,
        IsRun Text.isWord name.toList ∧ name.toList <:+: code.toList) ∧
      ∀ lets, code = Let.code lets → FirstOccurrences (lets.map Let.name) b.boundVariables := by
  have hbound : b.boundVariables = (scan code.toList.length code.toList).eraseDups := by
    rw [boundVariables, h]
    rfl
  have hfinds := (scan_eq_iff (le_refl code.toList.length)).1 rfl
  have hfirst := firstOccurrences_eraseDups (scan code.toList.length code.toList)
  rw [hbound]
  refine ⟨⟨_, hfinds, hfirst⟩, ⟨hfirst.nodup, fun name hname ↦ ?_⟩, ?_⟩
  · exact hfinds.isRun name ((hfirst.mem_iff name).1 hname)
  · rintro lets rfl
    rwa [(scan_eq_iff le_rfl).2 (Finds.lines lets)] at hfirst ⊢

/-- A name that holds the keyword, and `mut` as a name, with and without being mutable. -/
theorem boundVariables_of_three_lines :
    let lets : List Let := [⟨false, "outlet", "1", by decide, by decide⟩,
      ⟨true, "mut", "muted", by decide, by decide⟩,
      ⟨false, "mut", "x;\n", by decide, by decide⟩]
    let b : Block := { id := "", type := "", properties := [("code", .text (Let.code lets))] }
    Fields.get? b.properties "code" =
        some (.text "let outlet = 1;\nlet mut mut = muted;\nlet mut = x;\n;\n") ∧
      FirstOccurrences ["outlet", "mut", "mut"] b.boundVariables ∧
        b.boundVariables = ["outlet", "mut"] := by
  intro lets b
  have hcode : Fields.get? b.properties "code" = some (.text (Let.code lets)) := rfl
  exact ⟨by decide +kernel, (boundVariables_spec hcode).2.2 lets rfl, by decide +kernel⟩

end FlowCanvas.Block
