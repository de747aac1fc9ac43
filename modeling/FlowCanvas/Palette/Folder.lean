import FlowCanvas.Json.Reader
import FlowCanvas.Palette.Basic
import FlowCanvas.Text.Lines

/-!
# Folders of block types

A folder of block types has a subfolder for each, with its description in `plugin.json` and an
optional code template in `template.rs`. The subfolders are read in the order of their names. One
that cannot be read is skipped and named, so that it does not hide the rest. A description that is
no record and has no template beside it ends the reading, and so does one that is nested too deeply.
-/

namespace FlowCanvas.Palette

/-- The files of a folder: the text at each path, paths written with slashes. -/
abbrev Folder := Fields String

namespace Folder

/-- The name of the subfolder if a path leads to a description or into one. -/
def described? (path : String) : Option String :=
  match (Text.cutAt '/' path.toList).map String.ofList with
  | dir :: "plugin.json" :: _ => some dir
  | _ => none

/-- The subfolders that have a description, by name. -/
def subfolders (folder : Folder) : List String :=
  ((folder.filterMap fun file ↦ described? file.1).eraseDups).mergeSort fun a b ↦ decide (a ≤ b)

/-- The text of a file of a subfolder. -/
def file? (folder : Folder) (dir name : String) : Option String :=
  (Fields.get? folder s!"{dir}/{name}").map Text.ofFile

end Folder

/-- Why the reading of a folder ends early. -/
inductive Folder.Stop where
  /-- A description is no record. -/
  | notRecord
  /-- A description is nested too deeply. -/
  | tooDeep
deriving DecidableEq, Repr

/-- What became of a subfolder. -/
inductive Folder.Step where
  /-- A type was registered. -/
  | added (type : BlockType) (palette : Palette)
  /-- The subfolder could not be read as a block type. -/
  | skipped
  /-- Nothing more is read. -/
  | stopped (why : Folder.Stop)

/-- Reads one subfolder. -/
def readSubfolder (p : Palette) (folder : Folder) (dir : String) : Folder.Step :=
  let register (description : Value) : Folder.Step :=
    match p.register description with
    | .ok (type, palette) => .added type palette
    | .error .notRecord => .stopped .notRecord
    | .error _ => .skipped
  match folder.file? dir "plugin.json" with
  | none => .skipped
  | some text =>
    match Json.read .file text, folder.file? dir "template.rs" with
    | .error refusal, _ =>
      if refusal.complaint = .tooDeep then .stopped .tooDeep else .skipped
    | .ok description, none => register description
    | .ok (.object fields), some template =>
      register (.object (Fields.set fields "template" (.text template)))
    | .ok _, some _ => .skipped

/-- What reading a folder gave. -/
structure FolderReport where
  palette : Palette
  /-- The registered types, in the order they were read. -/
  loaded : List BlockType := []
  /-- The subfolders that were skipped, in the order they were met. -/
  skipped : List String := []
  /-- What ended the reading early, if anything did. -/
  stopped : Option Folder.Stop := none

/-- Reads subfolders one after the other. -/
def readSubfolders (folder : Folder) : List String → FolderReport → FolderReport
  | [], report => report
  | dir :: rest, report =>
    match readSubfolder report.palette folder dir with
    | .added type palette =>
      readSubfolders folder rest
        { report with palette := palette, loaded := report.loaded ++ [type] }
    | .skipped => readSubfolders folder rest { report with skipped := report.skipped ++ [dir] }
    | .stopped why => { report with stopped := some why }

/-- Registers the block types of a folder; a folder that does not exist has none. -/
def readFolder (p : Palette) : Option Folder → FolderReport
  | none => { palette := p }
  | some folder => readSubfolders folder folder.subfolders { palette := p }

end FlowCanvas.Palette
