import FlowCanvas.Files.Path

/-!
# Files

The files around the working directory, as far as the editor sees them: a text at each place. A
directory is there as soon as a file is in it; the working directory, those above it and the root
are always there. A path is followed part by part, so that it fails at the first part that leads
nowhere.
-/

namespace FlowCanvas

/-- The texts of files, by place. -/
structure Files where
  texts : List (Place × String) := []
deriving DecidableEq

/-- Why a file cannot be read or written. -/
inductive FileFault where
  /-- There is no such file, or no directory to put it in. -/
  | missing (path : Path)
  /-- The path is that of a directory. -/
  | isDirectory
  /-- The path leads through a file. -/
  | notDirectory
  /-- The path or a part of it is too long. -/
  | tooLong
  /-- The path holds a character that no path can hold. -/
  | unwritable
deriving DecidableEq, Repr

/-- What is at a place. -/
inductive Files.Occupant where
  | file (text : String)
  | directory
  | nothing
deriving DecidableEq, Repr

namespace Files

/-- What is at a place. -/
def occupant (fs : Files) (p : Place) : Occupant :=
  match fs.texts.lookup p with
  | some text => .file text
  | none =>
    if p.names.isEmpty || fs.texts.any fun file ↦ file.1.isBelow p then .directory else .nothing

/-- Follows parts of `path` from a place. -/
def follow (fs : Files) (path : Path) : Place → List String → Except FileFault Place
  | place, [] => .ok place
  | place, part :: rest =>
    match fs.occupant place with
    | .file _ => .error .notDirectory
    | .nothing => .error (.missing path)
    | .directory =>
      if Path.longestPart < part.utf8ByteSize then .error .tooLong
      else follow fs path (place.step part) rest

/-- The place that a path leads to; its directory exists. -/
def locate (fs : Files) (path : Path) : Except FileFault Place :=
  if path.text.toList.contains '\x00' then .error .unwritable
  else if Path.longest < path.text.utf8ByteSize then .error .tooLong
  else fs.follow path (.ofStart path.start) path.parts

/-- The text of a file as it is read: line ends are line feeds. -/
def read (fs : Files) (path : Path) : Except FileFault String :=
  match fs.locate path with
  | .error fault => .error fault
  | .ok place =>
    match fs.occupant place with
    | .file text => .ok (Text.ofFile text)
    | .directory => .error .isDirectory
    | .nothing => .error (.missing path)

/-- Puts a text at a place, with the directories on the way. -/
def put (fs : Files) (place : Place) (text : String) : Files :=
  if fs.texts.any fun file ↦ file.1 == place then
    ⟨fs.texts.map fun file ↦ if file.1 == place then (place, text) else file⟩
  else ⟨fs.texts ++ [(place, text)]⟩

/-- Writes a file into a directory that exists; gives the place of the file too. -/
def write (fs : Files) (path : Path) (text : String) : Except FileFault (Place × Files) :=
  match fs.locate path with
  | .error fault => .error fault
  | .ok place =>
    match fs.occupant place with
    | .directory => .error .isDirectory
    | _ => .ok (place, fs.put place text)

/-- The directory that a path leads to, if it leads to one. What leads nowhere is no directory, but
a path that is too long is a fault. -/
def directory? (fs : Files) (path : Path) : Except FileFault (Option Place) :=
  match fs.locate path with
  | .error .tooLong => .error .tooLong
  | .error _ => .ok none
  | .ok place => .ok (if fs.occupant place = .directory then some place else none)

/-- The files below a place, by their paths from there. -/
def below (fs : Files) (place : Place) : List (String × String) :=
  fs.texts.filterMap fun file ↦
    if file.1.isBelow place then
      some (({ parts := file.1.names.drop place.names.length } : Path).text, file.2)
    else none

/-- The files of texts given by their paths. -/
def ofTexts (texts : List (String × String)) : Files :=
  texts.foldl (fun fs file ↦ fs.put (.ofPath (.ofText file.1)) file.2) {}

end Files

end FlowCanvas
