import FlowCanvas.Text.AsciiLabel
import FlowCanvas.Text.Compose
import FlowCanvas.Text.Lines
import FlowCanvas.Web.Label.Direction
import FlowCanvas.Web.Label.Joining
import FlowCanvas.Web.Label.Script

/-!
# Labels of host names

The name of a host is a row of labels with stops between them. A label may be written in any script,
under the rules of international domain names: it is spelled in the composed way, does not begin
with a mark, has hyphens only inside and none as third and fourth character, holds only characters
that are allowed, some of them only among certain others, and its directions of writing agree.

`Label.encode` gives the form in ASCII under which a label is known to everyone.
-/

namespace FlowCanvas.Web.Label

open Text

/-- Whether a character may stand between two texts of a label, of which the first is read
backwards: a plain one anywhere, the others only where they have a meaning. -/
def fits (before : List Char) (c : Char) (after : List Char) : Bool :=
  let label := before ++ after
  let joinedBefore : Bool := (nextJoining? before).any joinsNext
  let joinedAfter : Bool := (nextJoining? after).any joinsPrevious
  let afterVirama : Bool := before.head?.any fun b ↦ markClass b.toNat == 9
  match c.toNat with
  | 0xb7 => before.head? == some 'l' && after.head? == some 'l'
  | 0x375 => after.head?.any isGreek
  | 0x5f3 | 0x5f4 => before.head?.any isHebrew
  | 0x30fb => label.any isEastAsian
  | 0x200c => afterVirama || (joinedBefore && joinedAfter)
  | 0x200d => afterVirama
  | n =>
    if 0x660 ≤ n && n ≤ 0x669 then !label.any fun d ↦ 0x6f0 ≤ d.toNat && d.toNat ≤ 0x6f9
    else if 0x6f0 ≤ n && n ≤ 0x6f9 then !label.any fun d ↦ 0x660 ≤ d.toNat && d.toNat ≤ 0x669
    else isPlain c

/-- Whether every character of a text fits; `before` is what stands before it, read backwards. -/
def allFit : (before : List Char) → List Char → Bool
  | _, [] => true
  | before, c :: cs => fits before c cs && allFit (c :: before) cs

/-- How long the name of a host may be with a stop behind it, and so a label before it is written
in ASCII. -/
def longest : Nat := 254

/-- Whether a text is a label. -/
def isValid (cs : List Char) : Bool :=
  !cs.isEmpty && cs.length ≤ longest && allFit [] cs && isComposed cs &&
    cs.head? != some '-' && cs.getLast? != some '-' && (cs.drop 2).take 2 != ['-', '-'] &&
    !cs.head?.any isMark && Direction.agree (cs.map Direction.of)

/-- The mark of a label that is the form in ASCII of another. -/
def mark : List Char := ['x', 'n', '-', '-']

/-- Whether a text in ASCII is a label, or the form of one. -/
def isValidForm (cs : List Char) : Bool :=
  let cs := cs.map Char.toLower
  if mark.isPrefixOf cs then
    let form := cs.drop 4
    !form.isEmpty && form.getLast? != some '-' && (AsciiLabel.decode form).any isValid
  else isValid cs

/-- The form of a label in ASCII, which has at most 63 characters. -/
def encode (cs : List Char) : Option (List Char) :=
  let plain : Bool := cs.all fun c ↦ c.toNat < 128
  let form := if plain then cs else mark ++ AsciiLabel.encode cs
  if (if plain then isValidForm cs else isValid cs) && form.length ≤ 63 then some form else none

/-- Whether a character is a stop between labels, as written in some script. -/
def isStop (c : Char) : Bool := [0x2e, 0x3002, 0xff0e, 0xff61].contains c.toNat

/-- The form in ASCII of the name of a host; a stop may stand behind it. -/
def encodeAll (cs : List Char) : Option (List Char) :=
  let labels := Text.cutAt '.' (cs.map fun c ↦ if isStop c then '.' else c)
  let stopped : Bool := labels.getLast? == some []
  if longest < cs.length || cs.isEmpty then none
  else
    match (if stopped then labels.dropLast else labels).mapM encode with
    | none => none
    | some forms =>
      let name := List.intercalate ['.'] (if stopped then forms ++ [[]] else forms)
      if (if stopped then longest else longest - 1) < name.length then none else some name

end FlowCanvas.Web.Label
