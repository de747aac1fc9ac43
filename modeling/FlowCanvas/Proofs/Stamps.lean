import FlowCanvas.Document.Storage
import FlowCanvas.Proofs.Layouts
import FlowCanvas.Proofs.Rejections
import FlowCanvas.Proofs.Rereading

/-!
# Creation stamps

A flow bears the moment of its first save. The stamp is kept with the canvas: saving writes it into
the document, or the time of the clock if there is none, and loading takes it from the document.
Here a session is followed through whatever is done at a desk (`Desk.act`): edits, saves and loads
of values and of files, at any times, whether they come through or not.

**All saves from one load up to the next bear one stamp** (`Desk.creation_stamp_settled`): the one
that was loaded, if it says something, and else that of the clock at the first of them. What is read
from something that was saved bears its stamp again. This holds of values because reading looks
where writing wrote, and of files because the text of a document holds its stamp
(`Work.bears_file`).

Two deeds can **spoil** the stamp (`Deed.Spoils`), although they fail. A load that is interrupted
has laid down its stamp by then. And a session that saves takes the stamp of the document before it
hands the document over; if that is refused, the flow is stamped by a save that has not come through
(`Desk.failed_save_settles`). Saving in a file takes the stamp once the file is written.

What a deed can do to the stamp is said once (`Desk.Effect`), and from it come what one deed keeps
(`Effect.stamp?_eq_iff`), what all deeds of a run keep (`Desk.stamp?_after_iff`), and what the saves
between two loads bear (`Desk.bears_of_careful`).
-/

namespace FlowCanvas

open Checks

/-! ### Stamps in documents -/

/-- The stamp of a clock is never empty. -/
theorem Clock.stamp_ne_empty (clock : Clock) : clock.stamp ≠ "" := by
  simp [Clock.stamp]

namespace Document

/-- A stamp that says something: an empty one counts as none. -/
def given (created : Option String) : Option String := created.filter (· ≠ "")

theorem given_some {s : String} (h : s ≠ "") : given (some s) = some s := by
  simp [given, h]

theorem ne_empty_of_given {created : Option String} {s : String} (h : given created = some s) :
    s ≠ "" := by
  simpa using (Option.filter_eq_some_iff.1 h).2

/-- The creation stamp in a value, where documents state it. -/
def stampIn (v : Value) : Option Value :=
  match v with
  | .object fields =>
    match Fields.get? fields "metadata" with
    | some (.object metadata) => Fields.get? metadata "created"
    | _ => none
  | _ => none

/-- A document bears its stamp in its value. -/
theorem stampIn_toValue (d : Document) : stampIn d.toValue = some (.text d.metadata.created) := rfl

/-- The first stamp that says something is that of the drawing, or else that of the clock. -/
theorem firstGiven_created (created : Option String) (stamp : String) :
    firstGiven [.null, .ofText? created] (.text stamp) = .text ((given created).getD stamp) := by
  rcases created with - | s
  · rfl
  · by_cases hs : s = ""
    · subst hs
      rfl
    · rw [given_some hs]
      simp [firstGiven, Value.truthy, Value.ofText?, hs]

/-- Where the creation stamp of a document is read from. -/
theorem get?_of_metadataOf {v : Value} {m : Metadata} (h : metadataOf .value v = .ok m) :
    ∃ fields, v = .object fields ∧ Fields.get? fields "created" = some (.text m.created) := by
  obtain ⟨fs, hfs, h⟩ := bind_eq_ok_iff.1 h
  obtain ⟨⟨name, created, modified⟩, hpair, rfl⟩ := map_eq_ok_iff.1 h
  obtain ⟨-, hpair⟩ := Checked.pair_eq_ok_iff.1 hpair
  obtain ⟨hcreated, -⟩ := Checked.pair_eq_ok_iff.1 hpair
  obtain ⟨w, hw, htext⟩ := Checked.required_eq_ok hcreated
  refine ⟨fs, Checked.record_eq_ok hfs rfl, hw.trans (congrArg some ?_)⟩
  cases w with
  | text s => exact congrArg Value.text (Except.ok.inj htext)
  | _ => exact absurd htext (by simp [Checked.text, Checked.flawed])

/-- **A drawing is written down with its own stamp**, or that of the clock if it has none. -/
theorem created_of_ofDrawing {clock : Clock} {name : Value} {d : Drawing} {document : Document}
    (h : ofDrawing clock { name := name } d = .ok document) :
    document.metadata.created = (given d.created).getD clock.stamp := by
  unfold ofDrawing at h
  split at h
  · exact absurd h (by simp)
  · dsimp only at h
    split at h
    · exact absurd h (by simp)
    · next metadata blocks wires hpair =>
      obtain rfl := Except.ok.inj h
      obtain ⟨hmetadata, -⟩ := Checked.pair_eq_ok_iff.1 hpair
      obtain ⟨fields, hfields, hget⟩ := get?_of_metadataOf (Checked.within_eq_ok_iff.1 hmetadata)
      obtain rfl := Value.object.inj hfields
      have hcreated : firstGiven [.null, .ofText? d.created] (.text clock.stamp) =
          .text metadata.created := Option.some.inj hget
      rw [firstGiven_created] at hcreated
      exact (Value.text.inj hcreated).symm

/-- What is handed over is the value of the document. -/
theorem eq_toValue_of_handedOver {document : Document} {v : Value}
    (h : document.handedOver = .ok v) : v = document.toValue := by
  unfold handedOver at h
  dsimp only at h
  split at h
  · exact absurd h (by simp)
  · exact (Except.ok.inj h).symm

/-- What is kept in a file is the indented text of the document. -/
theorem fileText_eq_ok {document : Document} {text : String} (h : document.fileText = .ok text) :
    text = Json.indented document.toValue := by
  obtain ⟨v, hover, htext⟩ := bind_eq_ok_iff.1 h
  obtain rfl := eq_toValue_of_handedOver hover
  unfold textOf at htext
  split at htext
  · exact (Except.ok.inj htext).symm
  · exact absurd htext (by simp)

/-- **A drawing that is read from a value has the stamp in it.** -/
theorem created_of_ofValue {palette : Option Palette} {v : Value} {d : Drawing} {s : String}
    (hstamp : stampIn v = some (.text s)) (h : Drawing.ofValue palette v = .ok d) :
    d.created = some s := by
  obtain ⟨document, hinput, hopen⟩ := exists_of_ofValue h
  rw [(heading_of_toDrawing hopen).2]
  cases v with
  | object fields =>
    obtain ⟨fs, hfs, hread⟩ := bind_eq_ok_iff.1 hinput
    obtain rfl := Value.object.inj (Checked.record_eq_ok hfs rfl)
    obtain ⟨⟨version, metadata, blocks, wires⟩, hpair, rfl⟩ := map_eq_ok_iff.1 hread
    obtain ⟨-, hpair⟩ := Checked.pair_eq_ok_iff.1 hpair
    obtain ⟨hmetadata, -⟩ := Checked.pair_eq_ok_iff.1 hpair
    obtain ⟨w, hw, hmetadata⟩ := Checked.required_eq_ok hmetadata
    obtain ⟨own, rfl, hown⟩ := get?_of_metadataOf hmetadata
    simp only [stampIn, hw] at hstamp
    rw [hown] at hstamp
    exact congrArg some (Value.text.inj (Option.some.inj hstamp))
  | _ => exact absurd hstamp (by simp [stampIn])

/-! ### Stamps in files -/

/-- **The layout of a document keeps its stamp.** -/
theorem exists_laidOut_toValue (d : Document) : ∃ w, Json.LaidOut d.toValue w ∧
    stampIn w = some (.text d.metadata.created) := by
  obtain ⟨blocks, hblocks⟩ := Json.exists_laidOut (.list (d.blocks.map BlockRecord.toValue))
  obtain ⟨wires, hwires⟩ := Json.exists_laidOut (.list (d.wires.map WireRecord.toValue))
  have hmetadata : Json.LaidOut d.metadata.toValue d.metadata.toValue :=
    Json.laidOut_object (.cons ⟨rfl, Json.laidOut_text _⟩ (.cons ⟨rfl, Json.laidOut_text _⟩
      (.cons ⟨rfl, Json.laidOut_text _⟩ .nil)))
  have hentries : List.Forall₂ Json.EntryLaidOut
      [("version", .text d.version), ("metadata", d.metadata.toValue),
        ("nodes", .list (d.blocks.map BlockRecord.toValue)),
        ("edges", .list (d.wires.map WireRecord.toValue))]
      [("version", .text d.version), ("metadata", d.metadata.toValue), ("nodes", blocks),
        ("edges", wires)] :=
    .cons ⟨rfl, Json.laidOut_text _⟩ (.cons ⟨rfl, hmetadata⟩ (.cons ⟨rfl, hblocks⟩
      (.cons ⟨rfl, hwires⟩ .nil)))
  exact ⟨_, Json.laidOut_object hentries, rfl⟩

/-- **A drawing that is read from a file has the stamp in what the file holds.** -/
theorem created_of_openFile {palette : Option Palette} {files : Files} {path : Path}
    {text s : String} {v : Value} {d : Drawing} (hholds : Json.Holds text.toList v)
    (hstamp : stampIn v = some (.text s)) (hread : files.read path = .ok text)
    (h : openFile palette files path = .ok d) : d.created = some s := by
  unfold openFile at h
  rw [hread] at h
  dsimp only at h
  split at h
  · exact absurd h (by simp)
  · next found hfound =>
    obtain rfl := hholds.eq_of_read hfound
    split at h
    · exact absurd h (by simp)
    · next again hagain =>
      obtain rfl := Except.ok.inj h
      exact created_of_ofValue hstamp hagain

/-- What is saved in a file is the text of the document, and its stamp is told. -/
theorem save_eq_ok {files : Files} {target : Path} {document : Document} {saved : Saved}
    (h : document.save files target = .ok saved) :
    document.fileText = .ok saved.text ∧ saved.created = document.metadata.created := by
  unfold save at h
  split at h
  · exact absurd h (by simp)
  · next text htext =>
    split at h
    · exact absurd h (by simp)
    · obtain rfl := Except.ok.inj h
      exact ⟨htext, rfl⟩

end Document

namespace Canvas

variable {clock : Clock} {c : Canvas}

/-- What a canvas is written down as is what it shows is written down as. -/
theorem ofDrawing_of_document {heading : Document.Heading} {name : Option String}
    {document : Document} (h : c.document clock heading name = .ok document) :
    Document.ofDrawing clock heading (c.drawing name) = .ok document := by
  unfold Canvas.document Canvas.snapshot at h
  split at h
  · exact absurd h (by simp)
  · next d hd =>
    obtain ⟨-, hd⟩ := Option.ite_none_right_eq_some.1 hd
    obtain rfl := Option.some.inj hd
    exact h

/-- What a canvas is saved as in a file is a document that it is written down as, and the canvas
keeps the stamp. -/
theorem saveFile_eq_ok {files : Files} {path : Path} {name : Value} {saved : Document.Saved}
    {c' : Canvas} (h : c.saveFile clock files path name = .ok (saved, c')) :
    ∃ document, c.document clock { name := name } none = .ok document ∧
      document.fileText = .ok saved.text ∧ c'.created = some document.metadata.created := by
  unfold saveFile at h
  split at h
  · exact absurd h (by simp)
  · split at h
    · exact absurd h (by simp)
    · next document hdocument =>
      obtain ⟨_, hsaved, hpair⟩ := map_eq_ok_iff.1 h
      obtain ⟨rfl, rfl⟩ := Prod.mk.inj hpair
      obtain ⟨htext, hcreated⟩ := Document.save_eq_ok hsaved
      exact ⟨document, hdocument, htext, congrArg some hcreated⟩

end Canvas

/-! ### Desks -/

/-- A session at work, and the files around it. -/
structure Desk where
  session : Session
  files : Files := {}

/-- What somebody does at a desk: to the canvas, to the session, or to the files. -/
inductive Deed where
  | follow (instruction : Instruction)
  | overwrite (id name value : Value)
  | delete (id : Value)
  | save (clock : Clock)
  | load (v : Value)
  | saveFile (clock : Clock) (path : Path) (name : Value)
  | loadFile (path : Path)
  | writeFile (place : Place) (text : String)
  | rename (name : Value)
  | note (v : Value)
  | print (text : String)
  | clearLogs
  | clearTerminal
  | generate (service : Service)
  | run (service : Service)

/-- What is saved: a document as a value, or the text of a file. -/
inductive Work where
  | document (v : Value)
  | file (text : String)

namespace Work

/-- **A creation stamp is stated in what is saved.** -/
def Bears (s : String) : Work → Prop
  | .document v => Document.stampIn v = some (.text s)
  | .file text => ∃ v, Json.Holds (Text.ofFile text).toList v ∧ Document.stampIn v = some (.text s)

/-- A drawing is read from what is saved. A file may be read at any place that holds it. -/
def Opens (palette : Option Palette) (d : Drawing) : Work → Prop
  | .document v => Drawing.ofValue palette v = .ok d
  | .file text => ∃ files path, Files.read files path = .ok (Text.ofFile text) ∧
      Document.openFile palette files path = .ok d

variable {document : Document} {s : String}

theorem bears_document {v : Value} (h : document.handedOver = .ok v) :
    (Work.document v).Bears document.metadata.created := by
  obtain rfl := Document.eq_toValue_of_handedOver h
  exact document.stampIn_toValue

theorem bears_file {text : String} (h : document.fileText = .ok text) :
    (Work.file text).Bears document.metadata.created := by
  obtain rfl := Document.fileText_eq_ok h
  obtain ⟨w, hlaid, hstamp⟩ := document.exists_laidOut_toValue
  exact ⟨w, hlaid.ofFile_indented.symm ▸ hlaid.holds, hstamp⟩

/-- **What is read from something saved has its stamp.** -/
theorem Bears.created_eq {work : Work} (h : work.Bears s) {palette : Option Palette} {d : Drawing}
    (hopen : work.Opens palette d) : d.created = some s := by
  cases work with
  | document v => exact Document.created_of_ofValue h hopen
  | file text =>
    obtain ⟨v, hholds, hstamp⟩ := h
    obtain ⟨files, path, hread, hopen⟩ := hopen
    exact Document.created_of_openFile hholds hstamp hread hopen

end Work

/-- What is reported of a deed, as far as stamps are concerned: a flow was loaded with a stamp, or
it was saved at a time. All other deeds, and all that are refused, are alike. -/
inductive Report where
  | other
  | loaded (created : Option String)
  | saved (clock : Clock) (work : Work)

/-- The report of a deed that sets out to load a drawing, or of one that does not. -/
def Report.ofLoading {ε α : Type} : Option Drawing → Except ε α → Report
  | some d, .ok _ => .loaded d.created
  | _, _ => .other

/-- The stamp of the clock at a save. -/
def Report.clockStamp? : Report → Option String
  | .saved clock _ => some clock.stamp
  | _ => none

/-- The drawing that an instruction loads. -/
def Instruction.drawing? : Instruction → Option Drawing
  | .load d => some d
  | _ => none

namespace Desk

/-- The desk with another session. -/
def withSession (desk : Desk) (s : Session) : Desk := { desk with session := s }

/-- The creation stamp that is kept at a desk. -/
def created (desk : Desk) : Option String := desk.session.canvas.created

/-- **What a deed does at a desk**, and what is reported of it. -/
def act (desk : Desk) : Deed → Report × Desk
  | .follow i =>
    let t := desk.session.follow i
    (.ofLoading i.drawing? t.result, desk.withSession t.session)
  | .overwrite id name value =>
    match desk.session.canvas.overwrite id name value with
    | .error _ => (.other, desk)
    | .ok canvas => (.other, desk.withSession { desk.session with canvas := canvas })
  | .delete id => (.other, desk.withSession (desk.session.deleteNamed id).session)
  | .save clock =>
    let t := desk.session.save clock
    match t.result with
    | .error _ => (.other, desk.withSession t.session)
    | .ok v => (.saved clock (.document v), desk.withSession t.session)
  | .load v =>
    let t := desk.session.load v
    (.ofLoading (Drawing.ofValue (some desk.session.palette) v).toOption t.result,
      desk.withSession t.session)
  | .saveFile clock path name =>
    match desk.session.canvas.saveFile clock desk.files path name with
    | .error _ => (.other, desk)
    | .ok (s, canvas) =>
      (.saved clock (.file s.text), ⟨{ desk.session with canvas := canvas }, s.files⟩)
  | .loadFile path =>
    match desk.session.canvas.loadFile desk.session.palette desk.files path with
    | .error _ => (.other, desk)
    | .ok (d, o) =>
      (.ofLoading (some d) o.result, desk.withSession (desk.session.accept o).session)
  | .writeFile place text => (.other, { desk with files := desk.files.put place text })
  | .rename name => (.other, desk.withSession { desk.session with flowName := name })
  | .note v => (.other, desk.withSession (desk.session.note v))
  | .print text => (.other, desk.withSession (desk.session.print text))
  | .clearLogs => (.other, desk.withSession desk.session.clearLogs)
  | .clearTerminal => (.other, desk.withSession desk.session.clearTerminal)
  | .generate service => (.other, desk.withSession (desk.session.generate service).session)
  | .run service => (.other, desk.withSession (desk.session.run service).session)

/-- The desk after some deeds. -/
def after (desk : Desk) : List Deed → Desk
  | [] => desk
  | deed :: rest => (desk.act deed).2.after rest

/-- What is reported of some deeds, one after the other. -/
def reports (desk : Desk) : List Deed → List Report
  | [] => []
  | deed :: rest => (desk.act deed).1 :: (desk.act deed).2.reports rest

end Desk

/-! ### What deeds do to the stamp -/

/-- The drawing that a deed sets out to load. -/
def Deed.drawing? (desk : Desk) : Deed → Option Drawing
  | .follow i => i.drawing?
  | .load v => (Drawing.ofValue (some desk.session.palette) v).toOption
  | .loadFile path => (Document.openFile (some desk.session.palette) desk.files path).toOption
  | _ => none

open Document (given)

/-- **What spoils the stamp**: an interrupted load, which has put another one in its place, or a
save of a flow that has none, if the document is made and then not handed over. -/
inductive Deed.Spoils (desk : Desk) : Deed → Prop
  | interrupted {deed : Deed} (d : Drawing) (drawing : deed.drawing? desk = some d)
      (interrupts : d.Interrupts) (other : given d.created ≠ given desk.created) : Spoils desk deed
  | unsaved (clock : Clock) (document : Document) (unstamped : given desk.created = none)
      (made : desk.session.canvas.document clock { name := desk.session.flowName }
        desk.session.flowName.text? = .ok document)
      (refused : ∀ v, document.handedOver ≠ .ok v) : Spoils desk (.save clock)

theorem Deed.not_spoils {desk : Desk} {deed : Deed} (hdrawing : deed.drawing? desk = none)
    (hsave : ∀ clock, deed ≠ .save clock) : ¬ deed.Spoils desk := by
  rintro (⟨d, drawing, -, -⟩ | ⟨clock, -, -, -, -⟩)
  · exact absurd (hdrawing.symm.trans drawing) (by simp)
  · exact hsave clock rfl

namespace Desk

/-- The stamp that the next save is to bear, if that is settled. -/
def stamp? (desk : Desk) : Option String := given desk.created

/-- The stamp that a save at some time is to bear. -/
def stampAt (desk : Desk) (clock : Clock) : String := desk.stamp?.getD clock.stamp

/-- A save always has a stamp to give. -/
theorem stampAt_ne_empty (desk : Desk) (clock : Clock) : desk.stampAt clock ≠ "" := by
  rw [stampAt]
  rcases hstamp : desk.stamp? with - | s
  · exact clock.stamp_ne_empty
  · exact Document.ne_empty_of_given hstamp

/-- **What a deed can do to the stamp.** -/
inductive Effect (desk : Desk) (deed : Deed) : Report × Desk → Prop
  | untouched {after : Desk} (same : after.created = desk.created) (spares : ¬ deed.Spoils desk) :
      Effect desk deed (.other, after)
  | loaded {after : Desk} {created : Option String} (kept : after.created = created)
      (spares : ¬ deed.Spoils desk) : Effect desk deed (.loaded created, after)
  | interrupted {after : Desk} (d : Drawing) (drawing : deed.drawing? desk = some d)
      (interrupts : d.Interrupts) (kept : after.created = d.created) :
      Effect desk deed (.other, after)
  | saved {after : Desk} {clock : Clock} {work : Work} (bears : work.Bears (desk.stampAt clock))
      (kept : after.created = some (desk.stampAt clock)) (spares : ¬ deed.Spoils desk) :
      Effect desk deed (.saved clock work, after)
  | unsaved {after : Desk} (clock : Clock) (save : deed = .save clock) (document : Document)
      (made : desk.session.canvas.document clock { name := desk.session.flowName }
        desk.session.flowName.text? = .ok document)
      (refused : ∀ v, document.handedOver ≠ .ok v)
      (kept : after.created = some (desk.stampAt clock)) : Effect desk deed (.other, after)

variable {desk after : Desk} {deed : Deed}

/-- **What comes of loading a drawing**, by whatever deed. -/
theorem effect_load {ε α : Type} {d : Drawing} {result : Except ε α}
    (hdrawing : deed.drawing? desk = some d)
    (hresult : result.isOk = (desk.session.canvas.load d).result.isOk)
    (hafter : after.created = (desk.session.canvas.load d).canvas.created) :
    Effect desk deed (.ofLoading (some d) result, after) := by
  have hspares (h : ¬ d.Interrupts) : ¬ deed.Spoils desk := by
    rintro (⟨d', drawing, interrupts, -⟩ | ⟨clock, -, -, -, -⟩)
    · exact h (Option.some.inj (hdrawing.symm.trans drawing) ▸ interrupts)
    · exact absurd hdrawing (by simp [Deed.drawing?])
  have hload := Canvas.load_cases d desk.session.canvas
  generalize desk.session.canvas.load d = o at hload hresult hafter
  rcases result with fault | a
  · -- The load was refused, or it was interrupted.
    cases hload with
    | refused deep =>
      obtain ⟨b, hb, hdeep⟩ := deep
      exact .untouched hafter (hspares fun h ↦ absurd (h.1 b hb) (by simp [hdeep]))
    | stoppedAtBlock interrupts _ => exact .interrupted d hdrawing interrupts hafter
    | stoppedAtWire interrupts _ => exact .interrupted d hdrawing interrupts hafter
    | complete _ _ => exact absurd hresult (by simp [Except.isOk, Except.toBool])
  · cases hload with
    | complete _ readable => exact .loaded hafter (hspares readable)
    | _ => exact absurd hresult (by simp [Outcome.fail, Except.isOk, Except.toBool])

/-- A deed that loads nothing and leaves the stamp of the canvas as it is. -/
theorem effect_untouched (hdrawing : deed.drawing? desk = none)
    (hsave : ∀ clock, deed ≠ .save clock) (hafter : after.created = desk.created) :
    Effect desk deed (.other, after) :=
  .untouched hafter (Deed.not_spoils hdrawing hsave)

end Desk

/-! ### Canvases keep their stamp -/

namespace Canvas

variable {p : Palette} {s : Supply} {c c' : Canvas} {es : List Event}

/-- **No step touches the stamp of a canvas.** -/
theorem Step.created_eq (h : Step p s c es c') : c'.created = c.created := by
  cases h with
  | create h =>
    cases h with
    | make => rfl
  | change h =>
    cases h with
    | retouch h => exact h.kept.created
    | remove | disconnect => rw [deselecting_eq]; rfl
    | connect => rfl
    | select => rw [selecting_eq]

/-- **No writing changes the stamp**, short of loading. -/
theorem Trace.created_eq (h : Trace (Step p s) c es c') : c'.created = c.created := by
  induction h with
  | nil => rfl
  | cons step _ ih => rw [ih, step.created_eq]

theorem created_follow {i : Instruction} (hload : ∀ d, i ≠ .load d) :
    (c.follow p i).canvas.created = c.created :=
  Trace.created_eq (follow_traced (Action.within_anything (.follow i)) hload)

theorem created_deleteBlock (id : String) : (c.deleteBlock p id).canvas.created = c.created :=
  Trace.created_eq ((deleteBlock_changed (s := .anything)).traced.mono .change)

/-- Nor does writing into a block. -/
theorem created_overwrite {id name value : Value} (h : c.overwrite id name value = .ok c') :
    c'.created = c.created := by
  obtain ⟨b, -, h⟩ := bind_eq_ok_iff.1 h
  dsimp only at h
  split at h
  · obtain ⟨_, h, -⟩ := bind_eq_ok_iff.1 h
    exact absurd h throw_eq_ok_iff.1
  · obtain rfl := pure_eq_ok_iff.1 h
    rfl

end Canvas

theorem Session.created_deleteNamed (s : Session) (id : Value) :
    (s.deleteNamed id).session.canvas.created = s.canvas.created := by
  unfold deleteNamed
  split
  · rfl
  · next b _ =>
    unfold delete
    dsimp only
    split
    · split
      · rfl
      · exact Canvas.created_deleteBlock b.id
    · exact Canvas.created_deleteBlock b.id

/-! ### Deeds one by one -/

namespace Desk

variable {desk : Desk}

/-- An instruction that holds a drawing loads it; any other leaves the stamp alone. -/
theorem effect_follow (i : Instruction) : Effect desk (.follow i) (desk.act (.follow i)) := by
  by_cases hload : ∃ d, i = .load d
  · obtain ⟨d, rfl⟩ := hload
    refine effect_load rfl ?_ rfl
    show (((desk.session.canvas.load d).result.map fun _ ↦ Reply.done).mapError _).isOk = _
    cases (desk.session.canvas.load d).result <;> rfl
  · have hload : ∀ d, i ≠ .load d := fun d hd ↦ hload ⟨d, hd⟩
    have hdrawing : i.drawing? = none := by
      cases i with
      | load d => exact absurd rfl (hload d)
      | _ => rfl
    have hreport : desk.act (.follow i) =
        (.other, desk.withSession (desk.session.follow i).session) := by
      rw [act, hdrawing]
      rfl
    rw [hreport]
    exact effect_untouched hdrawing (by simp) (Canvas.created_follow hload)

/-- Saving to a document sets the stamp, also if the document cannot be handed over. -/
theorem effect_save (clock : Clock) : Effect desk (.save clock) (desk.act (.save clock)) := by
  have hspares (h : ∀ document, desk.session.canvas.document clock
      { name := desk.session.flowName } desk.session.flowName.text? = .ok document →
        ∃ v, document.handedOver = .ok v) : ¬ (Deed.save clock).Spoils desk := by
    rintro (⟨d, drawing, -, -⟩ | ⟨_, document, -, made, refused⟩)
    · exact absurd drawing (by simp [Deed.drawing?])
    · obtain ⟨v, hv⟩ := h document made
      exact refused v hv
  rcases hmade : desk.session.canvas.document clock { name := desk.session.flowName }
      desk.session.flowName.text? with fault | document
  · simp only [act, Session.save, hmade]
    exact .untouched rfl (hspares fun document h ↦ absurd (hmade.symm.trans h) (by simp))
  · have hstamp : document.metadata.created = desk.stampAt clock :=
      Document.created_of_ofDrawing (Canvas.ofDrawing_of_document hmade)
    rcases hover : document.handedOver with fault | v
    · simp only [act, Session.save, hmade, hover, Except.mapError]
      refine .unsaved clock rfl document hmade (fun v hv ↦ ?_) (congrArg some hstamp)
      exact absurd (hover.symm.trans hv) (by simp)
    · simp only [act, Session.save, hmade, hover, Except.mapError]
      refine .saved (hstamp ▸ Work.bears_document hover) (congrArg some hstamp) (hspares ?_)
      intro other hother
      exact ⟨v, Except.ok.inj (hmade.symm.trans hother) ▸ hover⟩

theorem effect_load_value (v : Value) : Effect desk (.load v) (desk.act (.load v)) := by
  rcases hd : Drawing.ofValue (some desk.session.palette) v with fault | d
  · have hdrawing : (Deed.load v).drawing? desk = none := congrArg Except.toOption hd
    have hcanvas : (desk.session.load v).session.canvas = desk.session.canvas := by
      simp only [Session.load, hd]
      split <;> rfl
    simp only [act, hd]
    exact effect_untouched hdrawing (by simp) (congrArg Canvas.created hcanvas)
  · have hdrawing : (Deed.load v).drawing? desk = some d := congrArg Except.toOption hd
    simp only [act, hd]
    refine effect_load hdrawing ?_ ?_
    · simp only [Session.load, hd, Session.accept]
      rcases (desk.session.canvas.load d).result with fault | u <;> rfl
    · simp only [Session.load, hd, Session.accept]
      rcases (desk.session.canvas.load d).result with fault | u <;> rfl

/-- Saving to a file sets the stamp only if the file is written. -/
theorem effect_saveFile (clock : Clock) (path : Path) (name : Value) :
    Effect desk (.saveFile clock path name) (desk.act (.saveFile clock path name)) := by
  have hspares : ¬ (Deed.saveFile clock path name).Spoils desk := Deed.not_spoils rfl (by simp)
  rcases hsave : desk.session.canvas.saveFile clock desk.files path name with
      fault | ⟨saved, canvas⟩
  · simp only [act, hsave]
    exact .untouched rfl hspares
  · simp only [act, hsave]
    obtain ⟨document, hmade, htext, hcreated⟩ := Canvas.saveFile_eq_ok hsave
    have hstamp : document.metadata.created = desk.stampAt clock :=
      Document.created_of_ofDrawing (Canvas.ofDrawing_of_document hmade)
    rw [hstamp] at hcreated
    exact .saved (hstamp ▸ Work.bears_file htext) hcreated hspares

theorem effect_loadFile (path : Path) :
    Effect desk (.loadFile path) (desk.act (.loadFile path)) := by
  rcases hopen : Document.openFile (some desk.session.palette) desk.files path with fault | d
  · have hdrawing : (Deed.loadFile path).drawing? desk = none := congrArg Except.toOption hopen
    simp only [act, Canvas.loadFile, hopen]
    exact effect_untouched hdrawing (by simp) rfl
  · have hdrawing : (Deed.loadFile path).drawing? desk = some d := congrArg Except.toOption hopen
    simp only [act, Canvas.loadFile, hopen]
    exact effect_load hdrawing rfl rfl

/-- **What a deed does to the stamp is one of these.** -/
theorem effect_act (desk : Desk) (deed : Deed) : Effect desk deed (desk.act deed) := by
  cases deed with
  | follow i => exact effect_follow i
  | save clock => exact effect_save clock
  | load v => exact effect_load_value v
  | saveFile clock path name => exact effect_saveFile clock path name
  | loadFile path => exact effect_loadFile path
  | overwrite id name value =>
    rcases hwrite : desk.session.canvas.overwrite id name value with fault | canvas
    · simp only [act, hwrite]
      exact effect_untouched rfl (by simp) rfl
    · simp only [act, hwrite]
      exact effect_untouched rfl (by simp) (Canvas.created_overwrite hwrite)
  | delete id => exact effect_untouched rfl (by simp) (desk.session.created_deleteNamed id)
  | generate service =>
    have hsame := (Session.sameFlow_generate service desk.session).1.canvas
    exact effect_untouched rfl (by simp) (congrArg Canvas.created hsame)
  | run service =>
    have hsame := (Session.sameFlow_run service desk.session).1.canvas
    exact effect_untouched rfl (by simp) (congrArg Canvas.created hsame)
  | writeFile | rename | note | print | clearLogs | clearTerminal =>
    exact effect_untouched rfl (by simp) rfl

/-! ### What is promised -/

/-- The stamp that is settled after a report, if one is: that of what was loaded, or else that of
the first save. -/
def promised (stamp : Option String) : Report → Option String
  | .other => stamp
  | .loaded created => given created
  | .saved clock _ => some (stamp.getD clock.stamp)

/-- **The stamp is kept as promised exactly if the deed does not spoil it.** -/
theorem Effect.stamp?_eq_iff {deed : Deed} {report : Report} {after : Desk}
    (h : Effect desk deed (report, after)) :
    after.stamp? = promised desk.stamp? report ↔ ¬ deed.Spoils desk := by
  cases h with
  | untouched same spares => exact iff_of_true (congrArg given same) spares
  | loaded kept spares => exact iff_of_true (congrArg given kept) spares
  | saved bears kept spares =>
    refine iff_of_true ?_ spares
    rw [stamp?, kept, Document.given_some (desk.stampAt_ne_empty _)]
    rfl
  | interrupted d drawing interrupts kept =>
    rw [stamp?, kept]
    constructor
    · rintro hsame (⟨d', drawing', -, other⟩ | ⟨clock, -, -, -, -⟩)
      · exact other (Option.some.inj (drawing.symm.trans drawing') ▸ hsame)
      · exact absurd drawing (by simp [Deed.drawing?])
    · exact fun hspares ↦ not_not.1 fun other ↦ hspares (.interrupted d drawing interrupts other)
  | unsaved clock save document made refused kept =>
    subst save
    have hnew : after.stamp? = some (desk.stampAt clock) := by
      rw [stamp?, kept, Document.given_some (desk.stampAt_ne_empty clock)]
    rw [hnew]
    constructor
    · rintro hsame (⟨d, drawing, -, -⟩ | ⟨_, _, unstamped, -, -⟩)
      · exact absurd drawing (by simp [Deed.drawing?])
      · exact absurd (hsame.trans unstamped) (by simp)
    · intro hspares
      rcases hstamp : desk.stamp? with - | s
      · exact absurd (.unsaved clock document hstamp made refused) hspares
      · simp [promised, stampAt, hstamp]

/-- **No deed spoils the stamp**, each at the desk as it finds it. -/
def Careful (desk : Desk) (deeds : List Deed) : Prop :=
  ∀ before deed rest, deeds = before ++ deed :: rest → ¬ deed.Spoils (desk.after before)

/-- Deeds are careful one by one. -/
theorem careful_cons {deed : Deed} {rest : List Deed} :
    desk.Careful (deed :: rest) ↔ ¬ deed.Spoils desk ∧ (desk.act deed).2.Careful rest := by
  constructor
  · refine fun h ↦ ⟨h [] deed rest rfl, fun before other more hsplit ↦ ?_⟩
    exact h (deed :: before) other more (congrArg (deed :: ·) hsplit)
  · rintro ⟨hdeed, hrest⟩ (- | ⟨first, before⟩) other more hsplit
    · obtain ⟨rfl, rfl⟩ := List.cons.inj hsplit
      exact hdeed
    · obtain ⟨rfl, rfl⟩ := List.cons.inj hsplit
      exact hrest before other more rfl

theorem careful_nil : desk.Careful [] := fun _ _ _ hsplit ↦ absurd hsplit (by simp)

/-- **The stamp is kept as promised after every deed exactly if none of them spoils it.** -/
theorem stamp?_after_iff (desk : Desk) (deeds : List Deed) :
    (∀ before rest, deeds = before ++ rest →
      (desk.after before).stamp? = (desk.reports before).foldl promised desk.stamp?) ↔
        desk.Careful deeds := by
  induction deeds generalizing desk with
  | nil =>
    refine iff_of_true (fun before rest hsplit ↦ ?_) careful_nil
    obtain ⟨rfl, rfl⟩ := List.nil_eq_append_iff.1 hsplit
    rfl
  | cons deed rest ih =>
    have heffect : Effect desk deed ((desk.act deed).1, (desk.act deed).2) := effect_act desk deed
    rw [careful_cons, ← ih, ← heffect.stamp?_eq_iff]
    constructor
    · intro h
      have hfirst : (desk.act deed).2.stamp? = promised desk.stamp? (desk.act deed).1 :=
        h [deed] rest rfl
      refine ⟨hfirst, fun before more hsplit ↦ ?_⟩
      rw [hfirst]
      exact h (deed :: before) more (congrArg (deed :: ·) hsplit)
    · rintro ⟨hfirst, hrest⟩ (- | ⟨first, before⟩) more hsplit
      · rfl
      · obtain ⟨rfl, rfl⟩ := List.cons.inj hsplit
        have hafter := hrest before more rfl
        rwa [hfirst] at hafter

/-! ### Between two loads -/

/-- The stamp that is settled between two loads: the one that was loaded, if it says something, and
else that of the clock at the first save. -/
def settled (created : Option String) (reports : List Report) : Option String :=
  (given created).or (reports.findSome? Report.clockStamp?)

/-- Whatever comes before the next load, what is settled then is what was promised. -/
theorem settled_cons {report : Report} (h : ∀ created, report ≠ .loaded created)
    (created : Option String) (reports : List Report) :
    settled created (report :: reports) =
      (promised (given created) report).or (reports.findSome? Report.clockStamp?) := by
  cases report with
  | other => rfl
  | loaded other => exact absurd rfl (h other)
  | saved clock work =>
    show (given created).or (some clock.stamp) = _
    cases given created <;> rfl

/-- **All saves up to the next load bear one stamp**, if none of the deeds spoils it. -/
theorem bears_of_careful {deeds : List Deed} (h : desk.Careful deeds) {between rest : List Report}
    (hreports : desk.reports deeds = between ++ rest)
    (hloads : ∀ created, .loaded created ∉ between)
    {clock : Clock} {work : Work} (hsaved : .saved clock work ∈ between) :
    ∃ stamp, settled desk.created between = some stamp ∧ work.Bears stamp := by
  induction deeds generalizing desk between with
  | nil =>
    obtain ⟨rfl, rfl⟩ := List.nil_eq_append_iff.1 hreports
    exact absurd hsaved List.not_mem_nil
  | cons deed deeds ih =>
    cases between with
    | nil => exact absurd hsaved List.not_mem_nil
    | cons report between =>
      obtain ⟨hspares, hcareful⟩ := careful_cons.1 h
      obtain ⟨hreport, hreports⟩ := List.cons.inj hreports
      have heffect : Effect desk deed (report, (desk.act deed).2) := hreport ▸ effect_act desk deed
      have hsettled : settled (desk.act deed).2.created between =
          settled desk.created (report :: between) := by
        rw [settled_cons fun created hload ↦ hloads created (hload ▸ List.mem_cons_self)]
        exact congrArg (Option.or · _) (heffect.stamp?_eq_iff.2 hspares)
      rcases List.mem_cons.1 hsaved with rfl | hlater
      · cases heffect with
        | saved bears kept _ => exact ⟨_, settled_cons (by simp) _ _, bears⟩
      · rw [← hsettled]
        exact ih hcareful hreports
          (fun created hload ↦ hloads created (List.mem_cons_of_mem _ hload)) hlater

/-! ### Runs -/

/-- Reports are split where deeds are. -/
theorem reports_eq_append {deeds : List Deed} {first rest : List Report}
    (h : desk.reports deeds = first ++ rest) : ∃ before later, deeds = before ++ later ∧
      desk.reports before = first ∧ (desk.after before).reports later = rest := by
  induction first generalizing desk deeds with
  | nil => exact ⟨[], deeds, rfl, rfl, h⟩
  | cons report first ih =>
    cases deeds with
    | nil => exact absurd h (by simp [reports])
    | cons deed deeds =>
      obtain ⟨hreport, hrest⟩ := List.cons.inj h
      obtain ⟨before, later, rfl, hbefore, hlater⟩ := ih hrest
      exact ⟨deed :: before, later, rfl, congrArg₂ List.cons hreport hbefore, hlater⟩

theorem after_append (desk : Desk) (before later : List Deed) :
    desk.after (before ++ later) = (desk.after before).after later := by
  induction before generalizing desk with
  | nil => rfl
  | cons deed before ih => exact ih (desk.act deed).2

theorem Careful.later {before later : List Deed} (h : desk.Careful (before ++ later)) :
    (desk.after before).Careful later := by
  intro between deed rest hsplit
  rw [← after_append]
  exact h (before ++ between) deed rest (by rw [hsplit, List.append_assoc])

/-- **From a load on there is a desk with the stamp that was loaded.** What is kept at the beginning
counts as loaded. -/
theorem exists_loaded {deeds : List Deed} (h : desk.Careful deeds) {created : Option String}
    {before following : List Report}
    (htrail : .loaded desk.created :: desk.reports deeds = before ++ .loaded created :: following) :
    ∃ (start : Desk) (later : List Deed), start.created = created ∧ start.Careful later ∧
      start.reports later = following := by
  cases before with
  | nil =>
    obtain ⟨hcreated, hreports⟩ := List.cons.inj htrail
    exact ⟨desk, deeds, Report.loaded.inj hcreated, h, hreports⟩
  | cons first before =>
    obtain ⟨earlier, later, rfl, -, hlater⟩ := reports_eq_append (List.cons.inj htrail).2
    cases later with
    | nil => exact absurd hlater (by simp [reports])
    | cons deed later =>
      obtain ⟨hreport, hreports⟩ := List.cons.inj hlater
      have heffect : Effect (desk.after earlier) deed
          (.loaded created, ((desk.after earlier).act deed).2) := hreport ▸ effect_act _ deed
      refine ⟨_, later, ?_, (careful_cons.1 h.later).2, hreports⟩
      cases heffect with
      | loaded kept _ => exact kept

/-- What is settled says something. -/
theorem ne_empty_of_settled {created : Option String} {reports : List Report} {stamp : String}
    (h : settled created reports = some stamp) : stamp ≠ "" := by
  rcases Option.or_eq_some_iff.1 h with hgiven | ⟨-, hclock⟩
  · exact Document.ne_empty_of_given hgiven
  · obtain ⟨report, -, hreport⟩ := List.exists_of_findSome?_eq_some hclock
    cases report with
    | saved clock work => exact Option.some.inj hreport ▸ clock.stamp_ne_empty
    | _ => exact absurd hreport (by simp [Report.clockStamp?])

/-- **The creation stamp is settled by the last load and the first save after it.** The stamp that
is kept at a desk is always the one that was promised, exactly if no deed spoils it. Then all saves
from one load up to the next bear one stamp: the one that was loaded, if it says something, and else
that of the clock at the first of them. Whatever is read from something that was saved settles the
same stamp again. -/
theorem creation_stamp_settled (desk : Desk) (deeds : List Deed) :
    ((∀ before rest, deeds = before ++ rest →
        (desk.after before).stamp? = (desk.reports before).foldl promised desk.stamp?) ↔
      desk.Careful deeds) ∧
    (desk.Careful deeds → ∀ before created between rest,
      .loaded desk.created :: desk.reports deeds = before ++ .loaded created :: (between ++ rest) →
      (∀ other, .loaded other ∉ between) →
      ∀ clock work, .saved clock work ∈ between →
        ∃ stamp, settled created between = some stamp ∧ work.Bears stamp ∧
          ∀ palette d, work.Opens palette d → ∀ later, settled d.created later = some stamp) := by
  refine ⟨stamp?_after_iff desk deeds, ?_⟩
  intro hcareful before created between rest htrail hloads clock work hsaved
  obtain ⟨start, later, rfl, hlater, hreports⟩ := exists_loaded hcareful htrail
  obtain ⟨stamp, hsettled, hbears⟩ := bears_of_careful hlater hreports hloads hsaved
  refine ⟨stamp, hsettled, hbears, fun palette d hopen more ↦ ?_⟩
  rw [hbears.created_eq hopen, settled, Document.given_some (ne_empty_of_settled hsettled)]
  rfl

theorem report_save_of_ok {clock : Clock} {v : Value}
    (h : (desk.session.save clock).result = .ok v) :
    (desk.act (.save clock)).1 = .saved clock (.document v) := by
  simp only [act, h]

theorem report_save_of_error {clock : Clock} {fault : SessionFault}
    (h : (desk.session.save clock).result = .error fault) :
    (desk.act (.save clock)).1 = .other := by
  simp only [act, h]

theorem report_saveFile_of_ok {clock : Clock} {path : Path} {name : Value} {saved : Document.Saved}
    {canvas : Canvas}
    (h : desk.session.canvas.saveFile clock desk.files path name = .ok (saved, canvas)) :
    (desk.act (.saveFile clock path name)).1 = .saved clock (.file saved.text) := by
  simp only [act, h]

/-- A clock that runs backwards: the second save bears the stamp of the first. -/
theorem stamp_kept_backwards :
    let desk : Desk := { session := { palette := .bundled, client := ⟨""⟩ } }
    let late : Clock := ⟨2025, 3, 1, 10, 0, 0, 0⟩
    let early : Clock := ⟨2025, 1, 1, 10, 0, 0, 0⟩
    let deeds : List Deed := [
      .save late,
      .follow (.create { type := .text "debug" }),
      .saveFile early (.ofText "flow.json") (.text "demo")]
    desk.Careful deeds ∧ ∃ v text,
      desk.reports deeds = [.saved late (.document v), .other, .saved early (.file text)] ∧
        (Work.document v).Bears late.stamp ∧ (Work.file text).Bears late.stamp := by
  intro desk late early deeds
  have hcareful : desk.Careful deeds := by
    refine careful_cons.2 ⟨?_, careful_cons.2 ⟨Deed.not_spoils rfl (by simp), careful_cons.2
      ⟨Deed.not_spoils rfl (by simp), careful_nil⟩⟩⟩
    exact (effect_act desk (.save late)).stamp?_eq_iff.1 (by decide +kernel)
  have hsaved : (desk.session.save late).result.toOption.isSome = true := by decide +kernel
  have hfile : ((desk.after (deeds.take 2)).session.canvas.saveFile early
      (desk.after (deeds.take 2)).files (.ofText "flow.json") (.text "demo")).toOption.isSome =
        true := by decide +kernel
  obtain ⟨v, hv⟩ := Option.isSome_iff_exists.1 hsaved
  obtain ⟨⟨saved, canvas⟩, hfile⟩ := Option.isSome_iff_exists.1 hfile
  have hfirst := report_save_of_ok (toOption_eq_some_iff.1 hv)
  have hlast := report_saveFile_of_ok (toOption_eq_some_iff.1 hfile)
  have hreports : desk.reports deeds =
      [.saved late (.document v), .other, .saved early (.file saved.text)] :=
    congrArg₂ (fun first last ↦ [first, Report.other, last]) hfirst hlast
  have hbears := fun clock work hmem ↦ (creation_stamp_settled desk deeds).2 hcareful [] none
    [.saved late (.document v), .other, .saved early (.file saved.text)] []
    (by rw [hreports]; rfl) (by simp) clock work hmem
  refine ⟨hcareful, v, saved.text, hreports, ?_, ?_⟩
  · obtain ⟨stamp, hstamp, hdocument, -⟩ := hbears late (.document v) (by simp)
    exact (Option.some.inj hstamp : late.stamp = stamp) ▸ hdocument
  · obtain ⟨stamp, hstamp, hfile, -⟩ := hbears early (.file saved.text) (by simp)
    exact (Option.some.inj hstamp : late.stamp = stamp) ▸ hfile

/-- **A save that fails may settle the stamp.** A property is nested too deeply for the document to
be handed over, but by then the canvas has taken its stamp. The block is deleted, and the first save
that comes through bears the time of the one that failed. -/
theorem failed_save_settles :
    let desk : Desk := { session := { palette := .bundled, client := ⟨""⟩ } }
    let early : Clock := ⟨2025, 1, 1, 10, 0, 0, 0⟩
    let late : Clock := ⟨2025, 3, 1, 10, 0, 0, 0⟩
    let deep : Value := .object [("deep", Document.wrapped 269)]
    let deeds : List Deed := [
      .follow (.create { type := .text "debug", properties := deep }),
      .save early,
      .delete (.text "node_0"),
      .save late]
    desk.created = none ∧ ∃ v,
      desk.reports deeds = [.other, .other, .other, .saved late (.document v)] ∧
        (Work.document v).Bears early.stamp ∧ ¬ (Work.document v).Bears late.stamp := by
  intro desk early late deep deeds
  have hfailed : ((desk.after (deeds.take 1)).session.save early).result.toOption = none := by
    decide +kernel
  have hsaved : ((desk.after (deeds.take 3)).session.save late).result.toOption.bind
      Document.stampIn = some (.text early.stamp) := by decide +kernel
  obtain ⟨v, hv, hstamp⟩ := Option.bind_eq_some_iff.1 hsaved
  have hlast := report_save_of_ok (toOption_eq_some_iff.1 hv)
  have hsecond : ((desk.after (deeds.take 1)).act (.save early)).1 = .other := by
    rcases hresult : ((desk.after (deeds.take 1)).session.save early).result with fault | w
    · exact report_save_of_error hresult
    · exact absurd (hfailed.symm.trans (congrArg Except.toOption hresult))
        (by simp [Except.toOption])
  refine ⟨rfl, v, ?_, hstamp, fun hlate ↦ ?_⟩
  · exact congrArg₂ (fun second last ↦ [Report.other, second, Report.other, last]) hsecond hlast
  · have hsame : early.stamp = late.stamp :=
      Value.text.inj (Option.some.inj (hstamp.symm.trans hlate))
    exact absurd hsame (by decide +kernel)

end Desk

end FlowCanvas
