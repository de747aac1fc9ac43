import FlowCanvas.Proofs.Fitting
import FlowCanvas.Proofs.Patches

/-!
# Calls are bound to the functions they name

A call is bound to a function of a name **exactly if** the block is a call and some block defines a
function of that name. It then has the name and the arguments of the *first* such definition, in the
order of the canvas, and nothing else about it or the canvas changes; every wire into it offers
exactly those arguments. Otherwise the reference is refused and the canvas stays as it is
(`follow_bindCall_exact`).

Binding copies the arguments through the check that every change of a property goes through. That
the check lets them pass, and unchanged, is due to the canvas: after every run the arguments of a
definition have the form of their kind (`fitting_of_run`), on whichever way they came there, and the
kind is the same for definitions and for calls. So a definition can never be found and then not be
bound (`follow_bindCall`).
-/

namespace FlowCanvas

open Canvas Palette

/-- A block defines a function of a name. -/
def Block.Defines (name : String) (b : Block) : Prop :=
  b.type = functionDefinitionId ∧ Fields.get? b.properties "function_name" = some (.text name)

instance (name : String) (b : Block) : Decidable (b.Defines name) :=
  inferInstanceAs (Decidable (_ ∧ _))

/-- The arguments of the function that a block defines. -/
def Block.arguments (b : Block) : Value := (Fields.get? b.properties "arguments").getD (.list [])

namespace Canvas

variable {p : Palette} {c : Canvas} {id name : String} {b d : Block}

/-! ### The first definition -/

/-- **A block is the first that defines a function of a name**, in the order of the canvas. -/
def FirstDefines (c : Canvas) (name : String) (d : Block) : Prop :=
  d.Defines name ∧ ∃ before after, c.blocks = before ++ d :: after ∧ ∀ e ∈ before, ¬ e.Defines name

theorem FirstDefines.mem (h : c.FirstDefines name d) : d ∈ c.blocks := by
  obtain ⟨-, before, after, hblocks, -⟩ := h
  exact hblocks ▸ List.mem_append_cons_self

theorem definitionOf?_eq_find? :
    c.definitionOf? (.text name) = c.blocks.find? fun b ↦ decide (b.Defines name) := by
  rw [definitionOf?, functionDefinitions, List.find?_filter]
  congr 1
  funext b
  have hname : (Fields.get? b.properties "function_name").getD .null = .text name ↔
      Fields.get? b.properties "function_name" = some (.text name) := by
    cases Fields.get? b.properties "function_name" <;> simp
  refine decide_eq_decide.2 ?_
  rw [beq_iff_eq, same_text_iff, hname, Block.Defines]

/-- What is looked up under a name is the first block that defines it. -/
theorem definitionOf?_eq_some_iff :
    c.definitionOf? (.text name) = some d ↔ c.FirstDefines name d := by
  rw [definitionOf?_eq_find?, List.find?_eq_some_iff_append, FirstDefines]
  simp only [decide_eq_true_eq, Bool.not_eq_true', decide_eq_false_iff_not]

theorem definitionOf?_eq_none_iff :
    c.definitionOf? (.text name) = none ↔ ∀ d ∈ c.blocks, ¬ d.Defines name := by
  rw [definitionOf?_eq_find?, List.find?_eq_none]
  simp only [decide_eq_true_eq]

/-! ### Arguments pass from definitions to calls -/

/-- A property that has its declared form passes the check unchanged. -/
theorem validatedEntry_of_isForm {type key : String} {v : Value} {spec : PropertySpec}
    (hfree : key ∉ reservedNames)
    (hspec : ((p.get? type).bind fun t ↦ t.property? key) = some spec) (h : spec.kind.IsForm v) :
    validatedEntry p type (key, v) = .ok (key, v) := by
  simp only [validatedEntry, hspec, Kind.coerce_of_isForm h]
  exact if_neg (by simpa using hfree)

/-- The arguments of a definition have the form of their kind. -/
theorem arguments_isForm (h : Carries (.found Value) (Fitting .bundled) c.blocks)
    (hd : d ∈ c.blocks) (htype : d.type = functionDefinitionId) :
    Kind.arguments.IsForm d.arguments := by
  rw [Block.arguments]
  rcases hget : Fields.get? d.properties "arguments" with - | v
  · exact ⟨[], rfl⟩
  · have hfits := (h d hd).named ("arguments", v) hget
    have hspec : ∃ spec, specFor? .bundled functionDefinitionId (.text "arguments") = some spec ∧
        spec.kind = .arguments := ⟨_, rfl, rfl⟩
    obtain ⟨spec, hspec, hkind⟩ := hspec
    rw [htype] at hfits
    exact hkind ▸ hfits "arguments" spec rfl hspec

/-- What a call takes over from a definition. -/
def bindingPatch (name : String) (arguments : List Value) : Fields Value :=
  [("target_function", .text name), ("arguments", .list arguments)]

/-- What a call takes over passes the check unchanged, if the arguments have their form. -/
theorem validated_bindingPatch {arguments : List Value}
    (h : Kind.arguments.IsForm (.list arguments)) :
    validated .bundled callFunctionId (bindingPatch name arguments) =
      .ok (bindingPatch name arguments) := by
  refine validated_eq_ok_iff.2 (.cons ?_ (.cons ?_ .nil))
  · exact validatedEntry_of_isForm (by decide) rfl ⟨name, rfl⟩
  · exact validatedEntry_of_isForm (by decide) rfl h

/-! ### What binding comes to -/

/-- The canvas on which a call has taken over a name and arguments. -/
def bound (c : Canvas) (b : Block) (name : String) (arguments : List Value) : Canvas :=
  c.modifyBlock b.id (Block.patched (bindingPatch name arguments) b.label)

/-- **A block can be bound to a function of a name**: it is a call, and some block defines one. -/
def Bindable (c : Canvas) (id name : String) : Prop :=
  (∃ b, c.block? id = some b ∧ b.type = callFunctionId) ∧ ∃ d ∈ c.blocks, d.Defines name

/-- **What an attempt to bind a call can come to**: the reference is refused, or the call is bound
to the first definition. -/
inductive Binding (c : Canvas) (id name : String) : Outcome Reply → Prop
  | refused (fault : Fault) (family : fault.family = .reference) (unable : ¬ c.Bindable id name) :
    Binding c id name (.fail c fault)
  | bound (b d : Block) (arguments : List Value) (events : List Event)
    (there : c.block? id = some b) (type : b.type = callFunctionId) (first : c.FirstDefines name d)
    (items : d.arguments = .list arguments) :
    Binding c id name ⟨.ok .done, c.bound b name arguments, events⟩

theorem follow_bindCall_eq (hb : c.block? id = some b) (v : Value) :
    c.follow p (.bindCall (.text id) v) = (c.bindCall p id v).map fun _ ↦ .done := by
  obtain ⟨-, rfl⟩ := mem_of_block? hb
  have hread : (Instruction.bindCall (.text b.id) v).read p c = .ok (.edit (.bindCall b.id v)) := by
    rw [Instruction.read, blockNamed_text hb]
    rfl
  rw [follow, hread]
  rfl

theorem follow_bindCall_of_none (hb : c.block? id = none) (v : Value) :
    c.follow p (.bindCall (.text id) v) = .fail c (.unknownBlock id) := by
  have hread : (Instruction.bindCall (.text id) v).read p c = .error (.unknownBlock id) := by
    have hnamed : c.blockNamed (.text id) = .error (.unknownBlock id) := by
      simp [blockNamed, blockNamed?, Value.lookupText?, Value.isName, Value.text?, Except.map, hb,
        bind, Except.bind, Value.display, throw, throwThe, MonadExceptOf.throw]
    rw [Instruction.read, hnamed]
    rfl
  rw [follow, hread]
  rfl

/-- A call is bound to a definition by a change of its properties. -/
theorem bindCall_eq_updateBlock {arguments : List Value} (hb : c.block? id = some b)
    (htype : b.type = callFunctionId) (hfirst : c.FirstDefines name d)
    (hitems : d.arguments = .list arguments) :
    c.bindCall p id (.text name) = c.updateBlock p id (bindingPatch name arguments) := by
  rw [bindCall, block_eq_ok_iff.2 hb, Outcome.given, if_neg (by simp [htype]),
    definitionOf?_eq_some_iff.2 hfirst]
  rw [Block.arguments] at hitems
  simp only [hitems, Value.items?]
  rfl

/-- A call takes over a name and arguments that have their form. -/
theorem updateBlock_bindingPatch {arguments : List Value} (hb : c.block? id = some b)
    (htype : b.type = callFunctionId) (hform : Kind.arguments.IsForm (.list arguments))
    (name : String) :
    ∃ events, c.updateBlock .bundled id (bindingPatch name arguments) =
      ⟨.ok (), c.bound b name arguments, events⟩ := by
  obtain ⟨-, rfl⟩ := mem_of_block? hb
  have herase : Fields.erase (bindingPatch name arguments) "label" = bindingPatch name arguments :=
    rfl
  rw [updateBlock, block_eq_ok_iff.2 hb, Outcome.given, herase, htype, validated_bindingPatch hform]
  exact ⟨_, rfl⟩

/-- **Binding has no other end**: once the definition is found, its arguments pass the check. -/
theorem follow_bindCall (h : Carries (.found Value) (Fitting .bundled) c.blocks)
    (id name : String) :
    Binding c id name (c.follow .bundled (.bindCall (.text id) (.text name))) := by
  rcases hb : c.block? id with - | b
  · rw [follow_bindCall_of_none hb]
    refine .refused _ rfl ?_
    rintro ⟨⟨b, hthere, -⟩, -⟩
    exact absurd (hb.symm.trans hthere) (by simp)
  rw [follow_bindCall_eq hb]
  by_cases htype : b.type = callFunctionId
  · rcases hd : c.definitionOf? (.text name) with - | d
    · rw [bindCall, block_eq_ok_iff.2 hb, Outcome.given, if_neg (by simp [htype]), hd]
      refine .refused _ rfl ?_
      rintro ⟨-, d, hmem, hdefines⟩
      exact definitionOf?_eq_none_iff.1 hd d hmem hdefines
    · have hfirst := definitionOf?_eq_some_iff.1 hd
      obtain ⟨args, hargs⟩ := arguments_isForm h hfirst.mem hfirst.1.1
      obtain ⟨events, hupdate⟩ := updateBlock_bindingPatch hb htype ⟨args, rfl⟩ name
      rw [bindCall_eq_updateBlock hb htype hfirst hargs, hupdate]
      exact .bound b d _ events hb htype hfirst hargs
  · rw [bindCall, block_eq_ok_iff.2 hb, Outcome.given, if_pos (by simpa using htype)]
    refine .refused _ rfl ?_
    rintro ⟨⟨k, hk, hktype⟩, -⟩
    obtain rfl := Option.some.inj (hb.symm.trans hk)
    exact htype hktype

/-! ### The canvas afterwards -/

/-- Where ids are unique, a bound call differs from what it was in its properties only. -/
theorem bound_eq (hids : (c.blocks.map Block.id).Nodup) (hb : c.block? id = some b) (name : String)
    (arguments : List Value) :
    c.bound b name arguments = c.modifyBlock id fun _ ↦
      { b with properties := Fields.merge b.properties (bindingPatch name arguments) } := by
  obtain ⟨-, rfl⟩ := mem_of_block? hb
  exact modifyBlock_eq_of_block? hids hb _

/-- What stands in the properties of a bound call. -/
theorem get?_merge_bindingPatch (fields : Fields Value) (name : String) (arguments : List Value)
    (key : String) : Fields.get? (Fields.merge fields (bindingPatch name arguments)) key =
      if key = "target_function" then some (.text name)
      else if key = "arguments" then some (.list arguments) else Fields.get? fields key := by
  have hdistinct : (Fields.keys (bindingPatch name arguments)).Nodup := by
    show ["target_function", "arguments"].Nodup
    decide
  rw [Fields.get?_merge hdistinct, bindingPatch, Fields.get?, Fields.get?, Fields.get?_nil]
  by_cases htarget : key = "target_function"
  · simp [htarget]
  · by_cases harguments : key = "arguments"
    · simp [harguments]
    · simp [htarget, harguments, Ne.symm htarget, Ne.symm harguments]

/-- What can be passed along a wire into a call that has arguments. -/
theorem candidates_of_call {w : Wire} {arguments : List Value} (hw : c.wire? w.id = some w)
    (hb : c.block? w.target = some b) (htype : b.type = callFunctionId)
    (hget : Fields.get? b.properties "arguments" = some (.list arguments)) :
    ∃ k, c.candidates w.id = .ok k ∧ k.arguments = arguments ∧ k.targetIsCall = true := by
  rw [candidates, wire_eq_ok_iff.2 hw]
  refine ⟨_, rfl, ?_, ?_⟩
  · simp [hb, hget]
  · simp [hb, htype]

/-- Every wire into a bound call offers what the call took over. -/
theorem candidates_bound (hwires : (c.wires.map Wire.id).Nodup) (hb : c.block? id = some b)
    (htype : b.type = callFunctionId) (name : String) (arguments : List Value) {w : Wire}
    (hw : w ∈ c.wires) (htarget : w.target = id) :
    ∃ k, (c.bound b name arguments).candidates w.id = .ok k ∧ k.arguments = arguments ∧
      k.targetIsCall = true := by
  have hthere : (c.bound b name arguments).wire? w.id = some w :=
    (find?_key_eq_some_iff Wire.id hwires).2 ⟨hw, rfl⟩
  have hcall : (c.bound b name arguments).block? w.target =
      some (b.patched (bindingPatch name arguments) b.label) := by
    obtain ⟨-, rfl⟩ := mem_of_block? hb
    rw [htarget]
    exact block?_patched hb _ _
  refine candidates_of_call hthere hcall htype ?_
  exact (get?_merge_bindingPatch b.properties name arguments "arguments").trans rfl

/-! ### Binding is exact -/

/-- **Binding a call is exact**, on the bundled palette, on every canvas that instructions and
documents lead to. It succeeds if the block is a call and some block defines a function of the name.
The call then has that name and the arguments of the first definition, nothing else of it or of the
canvas is different, and every wire into it offers those arguments. Otherwise the reference is
refused, and nothing happens. -/
theorem follow_bindCall_exact {actions : List Action} (h : ∀ a ∈ actions, a.Checked)
    (id name : String) :
    let c := run .bundled actions
    let o := c.follow .bundled (.bindCall (.text id) (.text name))
    ((∃ reply, o.result = .ok reply) ↔ c.Bindable id name) ∧
      (∀ reply, o.result = .ok reply → ∃ b d arguments properties,
        c.block? id = some b ∧ c.FirstDefines name d ∧ d.arguments = .list arguments ∧
          o.canvas = c.modifyBlock id (fun _ ↦ { b with properties := properties }) ∧
          (∀ key, Fields.get? properties key =
            if key = "target_function" then some (.text name)
            else if key = "arguments" then some (.list arguments)
            else Fields.get? b.properties key) ∧
          ∀ w ∈ o.canvas.wires, w.target = id →
            ∃ k, o.canvas.candidates w.id = .ok k ∧ k.arguments = arguments ∧
              k.targetIsCall = true) ∧
      ∀ fault, o.result = .error fault → fault.family = .reference ∧ o.canvas = c ∧
        o.events = [] := by
  intro c o
  have hc : Consistent .bundled c.blocks c.wires := consistent_of_run h
  have ho : Binding c id name o := follow_bindCall (fitting_of_run bundled_tidy h) id name
  clear_value o c
  cases ho with
  | refused fault family unable =>
    refine ⟨⟨fun ⟨_, hok⟩ ↦ ?_, fun hable ↦ absurd hable unable⟩, fun _ hok ↦ ?_,
      fun other hother ↦ ?_⟩
    · exact absurd hok (by simp [Outcome.fail])
    · exact absurd hok (by simp [Outcome.fail])
    · obtain rfl := Except.error.inj hother
      exact ⟨family, rfl, rfl⟩
  | bound b d arguments events there type first items =>
    refine ⟨⟨fun _ ↦ ⟨⟨b, there, type⟩, d, first.mem, first.1⟩, fun _ ↦ ⟨_, rfl⟩⟩, fun _ _ ↦ ?_,
      fun _ hfault ↦ absurd hfault (by simp)⟩
    refine ⟨b, d, arguments, Fields.merge b.properties (bindingPatch name arguments), there, first,
      items, bound_eq hc.blockIds there name arguments, ?_, fun w hw htarget ↦ ?_⟩
    · exact get?_merge_bindingPatch b.properties name arguments
    · exact candidates_bound hc.wireIds there type name arguments hw htarget

/-- Of two definitions of a name the first counts, also for what a wire into the call offers; a
block that is no call stays as it is. -/
theorem call_bound_to_earlier_definition :
    let made (type : String) (properties : Fields Value) : Action :=
      .follow (.create { type := .text type, properties := .object properties })
    let actions := [
      made "function-definition" [("function_name", .text "area"),
        ("arguments", .list [.object [("name", .text "side")]])],
      made "function-definition" [("function_name", .text "area")],
      made "call-function" [("arguments", .list []), ("remark", .int 7)],
      made "debug" [],
      .follow (.connect (.text "node_3") (.text "node_2") .null)]
    let c := run .bundled actions
    let bind (id : String) := c.follow .bundled (.bindCall (.text id) (.text "area"))
    (∀ a ∈ actions, a.Checked) ∧ c.Bindable "node_2" "area" ∧ ¬ c.Bindable "node_3" "area" ∧
      (∃ k, (bind "node_2").canvas.candidates "edge_0" = .ok k ∧
        k.arguments = [Kind.argumentValue ("side", "")] ∧ k.targetIsCall = true) ∧
      (bind "node_3").canvas = c := by
  intro made actions c bind
  have hchecked : ∀ a ∈ actions, a.Checked := by simp [actions, made, Action.Checked]
  have hcall : (c.block? "node_2").map Block.type = some callFunctionId := by decide +kernel
  have hdebug : (c.block? "node_3").map Block.type = some "debug" := by decide +kernel
  have hfirst : (c.definitionOf? (.text "area")).map Block.arguments =
      some (.list [Kind.argumentValue ("side", "")]) := by decide +kernel
  have hwire : ∃ w ∈ (bind "node_2").canvas.wires, w.id = "edge_0" ∧ w.target = "node_2" := by
    decide +kernel
  have hexact := fun id ↦ follow_bindCall_exact hchecked id "area"
  -- From here on nothing is evaluated any more.
  have hc : run .bundled actions = c := rfl
  simp only [hc] at hexact
  clear_value c
  obtain ⟨b, hb, htype⟩ := Option.map_eq_some_iff.1 hcall
  obtain ⟨k, hk, hktype⟩ := Option.map_eq_some_iff.1 hdebug
  obtain ⟨d, hd, harguments⟩ := Option.map_eq_some_iff.1 hfirst
  have hdefines := definitionOf?_eq_some_iff.1 hd
  have hable : c.Bindable "node_2" "area" := ⟨⟨b, hb, htype⟩, d, hdefines.mem, hdefines.1⟩
  have hunable : ¬ c.Bindable "node_3" "area" := by
    rintro ⟨⟨b', hb', htype'⟩, -⟩
    obtain rfl := Option.some.inj (hk.symm.trans hb')
    exact absurd (hktype.symm.trans htype') (by decide)
  obtain ⟨hok, hbound, -⟩ := hexact "node_2"
  obtain ⟨hnot, -, hrefused⟩ := hexact "node_3"
  refine ⟨hchecked, hable, hunable, ?_, ?_⟩
  · obtain ⟨reply, hreply⟩ := hok.2 hable
    obtain ⟨-, d', arguments, -, -, hd', harguments', -, -, hwires⟩ := hbound reply hreply
    obtain rfl := Option.some.inj (hd.symm.trans (definitionOf?_eq_some_iff.2 hd'))
    obtain rfl : arguments = [Kind.argumentValue ("side", "")] :=
      Value.list.inj (harguments'.symm.trans harguments)
    obtain ⟨w, hw, hid, htarget⟩ := hwire
    exact hid ▸ hwires w hw htarget
  · rcases hresult : (bind "node_3").result with fault | reply
    · exact (hrefused fault hresult).2.1
    · exact absurd (hnot.1 ⟨reply, hresult⟩) hunable

end Canvas

end FlowCanvas
