import FlowCanvas.Palette.Kind
import FlowCanvas.Proofs.Checks
import FlowCanvas.Value.Portable

/-!
# The forms of kinds

Bringing a value to a kind gives a value of one *form*: a text, a number, a truth value, or a list
of arguments with a name and a type each. `Kind.IsForm` says which values these are, without the
checks and readings by which they are reached.

A value has the form of a kind **exactly if** the kind leaves it as it is (`coerce_eq_self_iff`),
and everything that comes out of `coerce` has it (`isForm_of_coerce`). So a value that was brought
to its kind once stays as it is, by whatever route it is checked again.

Values of a form are flat. JSON can carry all of them but floats that are not finite.
-/

namespace FlowCanvas.Kind

open Checks

/-- The value of an argument with a name and a type. -/
def argumentValue (a : String × String) : Value :=
  .object [("name", .text a.1), ("type", .text a.2)]

/-- The values that a kind leaves as they are. -/
def IsForm : Kind → Value → Prop
  | text, v | code, v => ∃ s, v = .text s
  | number, v => (∃ n, v = .int n) ∨ ∃ x, v = .float x
  | boolean, v => ∃ b, v = .bool b
  | arguments, v => ∃ args : List (String × String), v = .list (args.map argumentValue)

/-! ### Bringing values to their form -/

theorem isForm_of_readNumber {s : String} {w : Value} (h : readNumber s = .ok w) :
    number.IsForm w := by
  unfold readNumber at h
  split at h
  · exact absurd h (by simp)
  · next x _ =>
    split at h
    · split at h
      · exact .inr ⟨x, (Except.ok.inj h).symm⟩
      · exact .inl ⟨_, (Except.ok.inj h).symm⟩
    · exact .inr ⟨x, (Except.ok.inj h).symm⟩

theorem exists_text_of_isText {v : Value} (h : isText v = true) : ∃ s, v = .text s := by
  cases v with
  | text s => exact ⟨s, rfl⟩
  | _ => exact absurd h (by simp [isText])

/-- An argument has a name and a type, which are empty where none is stated. -/
theorem canonicalArgument_eq {v : Value} (h : isArgument v = true) :
    ∃ a, canonicalArgument v = argumentValue a := by
  cases v with
  | argument name type => exact ⟨(name, type), rfl⟩
  | object fields =>
    simp only [isArgument, Bool.and_eq_true] at h
    obtain ⟨name, hname⟩ := exists_text_of_isText h.1
    obtain ⟨type, htype⟩ := exists_text_of_isText h.2
    refine ⟨(name, type), ?_⟩
    show Value.object [("name", (Fields.get? fields "name").getD (.text "")),
      ("type", (Fields.get? fields "type").getD (.text ""))] = _
    rw [hname, htype]
    rfl
  | _ => exact absurd h (by simp [isArgument])

theorem canonicalArguments_eq {items : List Value} (h : items.all isArgument = true) :
    ∃ args : List (String × String), items.map canonicalArgument = args.map argumentValue := by
  induction items with
  | nil => exact ⟨[], rfl⟩
  | cons v rest ih =>
    rw [List.all_cons, Bool.and_eq_true] at h
    obtain ⟨a, ha⟩ := canonicalArgument_eq h.1
    obtain ⟨args, hargs⟩ := ih h.2
    exact ⟨a :: args, by rw [List.map_cons, List.map_cons, ha, hargs]⟩

theorem isForm_canonical {kind : Kind} {v : Value} (h : kind.admits v = true) :
    kind.IsForm (kind.canonical v) := by
  cases kind with
  | text =>
    cases v with
    | text s => exact ⟨s, rfl⟩
    | _ => exact absurd h (by simp [admits])
  | code =>
    cases v with
    | text s => exact ⟨s, rfl⟩
    | _ => exact absurd h (by simp [admits])
  | number =>
    cases v with
    | int n => exact .inl ⟨n, rfl⟩
    | float x => exact .inr ⟨x, rfl⟩
    | _ => exact absurd h (by simp [admits])
  | boolean =>
    cases v with
    | bool b => exact ⟨b, rfl⟩
    | _ => exact absurd h (by simp [admits])
  | arguments =>
    cases v with
    | list items =>
      obtain ⟨args, hargs⟩ := canonicalArguments_eq h
      exact ⟨args, by rw [canonical, hargs]⟩
    | _ => exact absurd h (by simp [admits])

/-- **What comes out has the form of the kind.** -/
theorem isForm_of_coerce {kind : Kind} {v w : Value} (h : kind.coerce v = .ok w) :
    kind.IsForm w := by
  unfold coerce at h
  split at h
  · exact isForm_of_readNumber h
  · split at h
    · next hadmits =>
      obtain rfl := Except.ok.inj h
      exact isForm_canonical hadmits
    · exact absurd h (by simp)

theorem canonicalArgument_argumentValue (a : String × String) :
    canonicalArgument (argumentValue a) = argumentValue a :=
  rfl

/-- **What has the form stays as it is.** -/
theorem coerce_of_isForm {kind : Kind} {v : Value} (h : kind.IsForm v) : kind.coerce v = .ok v := by
  cases kind with
  | text =>
    obtain ⟨s, rfl⟩ := h
    rfl
  | code =>
    obtain ⟨s, rfl⟩ := h
    rfl
  | number => rcases h with ⟨n, rfl⟩ | ⟨x, rfl⟩ <;> rfl
  | boolean =>
    obtain ⟨b, rfl⟩ := h
    rfl
  | arguments =>
    obtain ⟨args, rfl⟩ := h
    have hadmits : (args.map argumentValue).all isArgument = true := by
      rw [List.all_map, List.all_eq_true]
      exact fun a _ ↦ rfl
    have hsame : (args.map argumentValue).map canonicalArgument = args.map argumentValue := by
      rw [List.map_map]
      exact List.map_congr_left fun a _ ↦ canonicalArgument_argumentValue a
    rw [coerce, admits, hadmits, if_pos rfl, canonical, hsame]
    exact fun s hs ↦ by simp

/-- A value has the form of a kind exactly if the kind leaves it as it is. -/
theorem coerce_eq_self_iff {kind : Kind} {v : Value} : kind.coerce v = .ok v ↔ kind.IsForm v :=
  ⟨isForm_of_coerce, coerce_of_isForm⟩

/-! ### What values of a form are like -/

theorem depth_argumentValue (a : String × String) : (argumentValue a).depth = 2 :=
  rfl

/-- Values of a form are flat. -/
theorem depth_le_of_isForm {kind : Kind} {v : Value} (h : kind.IsForm v) : v.depth ≤ 3 := by
  have hone : 1 ≤ 3 := by decide
  cases kind with
  | text =>
    obtain ⟨s, rfl⟩ := h
    exact hone
  | code =>
    obtain ⟨s, rfl⟩ := h
    exact hone
  | number => rcases h with ⟨n, rfl⟩ | ⟨x, rfl⟩ <;> exact hone
  | boolean =>
    obtain ⟨b, rfl⟩ := h
    exact hone
  | arguments =>
    obtain ⟨args, rfl⟩ := h
    have hitems : Value.itemDepth (args.map argumentValue) ≤ 2 := by
      induction args with
      | nil => decide
      | cons a rest ih =>
        rw [List.map_cons, Value.itemDepth, depth_argumentValue]
        exact Nat.max_le.2 ⟨Nat.le_refl 2, ih⟩
    rw [Value.depth]
    omega

theorem isCopyable_of_isForm {kind : Kind} {v : Value} (h : kind.IsForm v) : v.isCopyable = true :=
  decide_eq_true (Nat.le_trans (depth_le_of_isForm h) (by decide))

/-- JSON can carry a value of a form unless it is a float. -/
theorem obstacle?_of_isForm {kind : Kind} {v : Value} (h : kind.IsForm v) :
    v.obstacle? = none ∨ ∃ x, v = .float x := by
  cases kind with
  | text =>
    obtain ⟨s, rfl⟩ := h
    exact .inl rfl
  | code =>
    obtain ⟨s, rfl⟩ := h
    exact .inl rfl
  | number =>
    rcases h with ⟨n, rfl⟩ | ⟨x, rfl⟩
    · exact .inl rfl
    · exact .inr ⟨x, rfl⟩
  | boolean =>
    obtain ⟨b, rfl⟩ := h
    exact .inl rfl
  | arguments =>
    obtain ⟨args, rfl⟩ := h
    refine .inl ?_
    induction args with
    | nil => rfl
    | cons a rest ih => exact ih

/-- No kind makes anything of null. -/
theorem coerce_null_ne_ok (kind : Kind) (v : Value) : kind.coerce .null ≠ .ok v := by
  cases kind <;> simp [coerce, admits]

end FlowCanvas.Kind
