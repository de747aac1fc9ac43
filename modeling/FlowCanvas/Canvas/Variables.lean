import FlowCanvas.Text.Blank
import FlowCanvas.Text.Word

/-!
# Bound variables

The names that a piece of code binds with `let` or `let mut`. This reads text, not the language: it
serves to suggest names, and whoever uses a suggestion sees it.
-/

namespace FlowCanvas.Variables

/-- Drops a nonempty run of blanks. -/
def afterBlanks? (cs : List Char) : Option (List Char) :=
  match cs with
  | c :: _ => if Text.isBlank c then some (cs.dropWhile Text.isBlank) else none
  | [] => none

/-- Drops a word that begins the text. -/
def afterWord? (word : String) (cs : List Char) : Option (List Char) :=
  if word.toList.isPrefixOf cs then some (cs.drop word.length) else none

/-- The name that begins a text, and the rest. -/
def name? (cs : List Char) : Option (List Char × List Char) :=
  match cs.takeWhile Text.isWord with
  | [] => none
  | name => some (name, cs.dropWhile Text.isWord)

/-- The name bound by a `let` that begins the text, and the rest. If no name follows `mut`, that is
itself the name. -/
def binding? (cs : List Char) : Option (List Char × List Char) := do
  let head ← (afterWord? "let" cs).bind afterBlanks?
  (((afterWord? "mut" head).bind afterBlanks?).bind name?).or (name? head)

/-- The names bound in a text, in order. A step drops at least one character. -/
def scan : (fuel : Nat) → List Char → List String
  | 0, _ => []
  | _, [] => []
  | fuel + 1, c :: cs =>
    match binding? (c :: cs) with
    | some (name, rest) => String.ofList name :: scan fuel rest
    | none => scan fuel cs

/-- The names bound in a piece of code, each once, in the order of their first binding. -/
def boundIn (code : String) : List String :=
  (scan code.toList.length code.toList).eraseDups

end FlowCanvas.Variables
