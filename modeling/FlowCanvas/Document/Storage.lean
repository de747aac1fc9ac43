import FlowCanvas.Document.Convert
import FlowCanvas.Files.Basic
import FlowCanvas.Json.Writer

/-!
# Saving and opening

A flow is saved as the indented text of its document, under the name of the flow where only a
directory is given. The creation stamp of the first save stays with the canvas.
-/

namespace FlowCanvas

/-- Why a flow is not saved. -/
inductive SaveFault where
  | writing (fault : WritingFault)
  | file (fault : FileFault)
deriving DecidableEq

/-- Why a flow is not opened. -/
inductive OpenFault where
  | file (fault : FileFault)
  | document (fault : DocumentFault)
deriving DecidableEq

namespace Document

/-- The file of a flow: the path itself, or the file of the flow's name if the path is that of a
directory. -/
def filePath (files : Files) (path : Path) (name : Value) : Except FileFault Path :=
  (files.directory? path).map fun
    | some _ => path.append (.ofText (name.display ++ fileSuffix))
    | none => path

/-- The text of a value, if no integer in it is too long to be written out. -/
def textOf (layout : Value → String) (v : Value) : Except WritingFault String :=
  if v.isWritable then .ok (layout v) else .error .overlong

/-- The text under which a document is kept. -/
def fileText (d : Document) : Except WritingFault String := d.handedOver >>= textOf Json.indented

/-- A saved flow. -/
structure Saved where
  place : Place
  text : String
  files : Files
  created : String

/-- Keeps a document in a file. -/
def save (files : Files) (target : Path) (d : Document) : Except SaveFault Saved :=
  match d.fileText with
  | .error fault => .error (.writing fault)
  | .ok text =>
    match files.write target text with
    | .error fault => .error (.file fault)
    | .ok (place, files) => .ok ⟨place, text, files, d.metadata.created⟩

/-- Opens a file. -/
def openFile (palette : Option Palette) (files : Files) (path : Path) : Except OpenFault Drawing :=
  match files.read path with
  | .error fault => .error (.file fault)
  | .ok text =>
    match Json.read .file text with
    | .error refusal => .error (.document (.notJson path.name refusal))
    | .ok v =>
      match Drawing.ofValue palette v with
      | .error fault => .error (.document fault)
      | .ok d => .ok d

/-- Whether a drawing comes back from its document unchanged in its blocks, and in its wires; and
the name it comes back under. -/
def roundTrip (clock : Clock) (palette : Option Palette) (name : String) (d : Drawing) :
    Except (WritingFault ⊕ DocumentFault) (Bool × Bool × Option String) :=
  match ofDrawing clock { name := .text name } d with
  | .error fault => .error (.inl fault)
  | .ok document =>
    match document.handedOver >>= textOf Json.compact with
    | .error fault => .error (.inl fault)
    | .ok text =>
      match Drawing.ofText palette text with
      | .error fault => .error (.inr fault)
      | .ok again =>
        .ok (Drawing.sameList Block.same d.blocks again.blocks,
          Drawing.sameList Wire.same d.wires again.wires, again.name)

end Document

namespace Canvas

/-- Saves what is on a canvas in a file. The canvas keeps the creation stamp once the file is
written. -/
def saveFile (clock : Clock) (files : Files) (path : Path) (name : Value) (c : Canvas) :
    Except SaveFault (Document.Saved × Canvas) :=
  match Document.filePath files path name with
  | .error fault => .error (.file fault)
  | .ok target =>
    match c.document clock { name := name } none with
    | .error fault => .error (.writing fault)
    | .ok document =>
      (document.save files target).map fun s ↦ (s, { c with created := some s.created })

/-- Loads what a file draws in place of what is on a canvas. -/
def loadFile (p : Palette) (files : Files) (path : Path) (c : Canvas) :
    Except OpenFault (Drawing × Outcome Unit) :=
  (Document.openFile (some p) files path).map fun d ↦ (d, c.load d)

end Canvas

end FlowCanvas
