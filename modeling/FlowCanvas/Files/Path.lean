import FlowCanvas.Text.Lines

/-!
# Paths

A path names a file by the directories on the way to it. It starts where it is used, or at the root
of all directories if it begins with a slash. Empty parts and single dots mean nothing; two dots
lead up, but only a walk through the directories can tell where, so they are kept.
-/

namespace FlowCanvas

/-- Where a path starts. -/
inductive Path.Start where
  | here
  | root
  /-- The root, written with two slashes. -/
  | doubleRoot
deriving DecidableEq, Repr

/-- A path. -/
structure Path where
  start : Path.Start := .here
  parts : List String := []
deriving DecidableEq, Repr

namespace Path

/-- The pieces of a text between slashes. -/
def pieces (s : String) : List String := (Text.cutAt '/' s.toList).map String.ofList

/-- How the start of a path is written. -/
def Start.text : Start → String
  | here => ""
  | root => "/"
  | doubleRoot => "//"

/-- The start of a path, by its slashes; more than two count as one. -/
def Start.ofText (s : String) : Start :=
  match (s.toList.takeWhile (· = '/')).length with
  | 0 => .here
  | 2 => .doubleRoot
  | _ => .root

/-- Reads a path. -/
def ofText (s : String) : Path where
  start := .ofText s
  parts := (pieces s).filter fun part ↦ part != "" && part != "."

/-- Writes a path. -/
def text (p : Path) : String :=
  match p.start.text ++ "/".intercalate p.parts with
  | "" => "."
  | s => s

/-- The last part of a path. -/
def name (p : Path) : String := p.parts.getLast?.getD ""

/-- A path followed by another; one from the root stands for itself. -/
def append (p q : Path) : Path :=
  match q.start with
  | .here => { p with parts := p.parts ++ q.parts }
  | _ => q

/-- Whether a text, as a path, asks for a directory. -/
def asksDirectory (s : String) : Bool :=
  match (pieces s).getLast? with
  | some last => last = "" || last = "."
  | none => true

/-- How many bytes a part of a path may have. -/
def longestPart : Nat := 255

/-- How many bytes a path may have. -/
def longest : Nat := 4095

end Path

/-- Where a place lies: some steps above the working directory, or below the root. -/
inductive Place.Origin where
  | above (steps : Nat)
  | root
deriving DecidableEq, Repr

/-- A place among all directories, seen from the working directory: an origin, and the names that
lead down from it. -/
structure Place where
  origin : Place.Origin := .above 0
  names : List String := []
deriving DecidableEq, Repr

namespace Place

/-- The place where paths start. -/
def ofStart : Path.Start → Place
  | .here => {}
  | .root | .doubleRoot => { origin := .root }

/-- The directory of a place. -/
def parent (p : Place) : Place :=
  match p.origin, p.names with
  | .above n, [] => { origin := .above (n + 1) }
  | .root, [] => p
  | origin, names => ⟨origin, names.dropLast⟩

/-- A place in a directory. -/
def child (p : Place) (name : String) : Place := { p with names := p.names ++ [name] }

/-- Goes from a place along a part of a path, whatever is there. -/
def step (p : Place) (part : String) : Place := if part = ".." then p.parent else p.child part

/-- The place that a path names if all directories on the way exist. -/
def ofPath (path : Path) : Place := path.parts.foldl step (ofStart path.start)

/-- Whether a place lies in the working directory. -/
def isHere (p : Place) : Bool := p.origin = .above 0

/-- Whether a place lies in another, or in a directory below it. -/
def isBelow (p above : Place) : Bool :=
  p.origin = above.origin && above.names.length < p.names.length && above.names.isPrefixOf p.names

/-- A place as a path from the working directory. -/
def path (p : Place) : Path :=
  match p.origin with
  | .above n => { parts := List.replicate n ".." ++ p.names }
  | .root => { start := .root, parts := p.names }

end Place

end FlowCanvas
