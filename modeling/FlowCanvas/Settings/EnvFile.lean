import FlowCanvas.Text.Blank
import FlowCanvas.Text.Lines
import FlowCanvas.Value.Fields

/-!
# Environment files

A file of bindings `NAME=value`, one a line, from which the environment is completed. A line may
begin with `export`, a name may stand in single quotes, and a comment may follow a `#`. A value in
quotes may go over several lines and has backslash escapes; a value without quotes ends before a
comment and loses the blanks at its end. A line that is none of this is passed over. A byte order
mark may begin the file.

In a value, `${NAME}` and `${NAME:-default}` stand for the value of a variable.
-/

namespace FlowCanvas.EnvFile

/-! ### Lines -/

/-- Whether a character ends a line. -/
def isLineEnd (c : Char) : Bool := c = '\r' || c = '\n'

/-- Whether a character is a blank within a line. -/
def isInnerBlank (c : Char) : Bool := Text.isBlank c && !isLineEnd c

/-- A text without the blanks that begin it, within the line. -/
def skipInner (cs : List Char) : List Char := cs.dropWhile isInnerBlank

/-- Drops one line end. -/
def afterLineEnd : List Char → List Char
  | '\r' :: '\n' :: rest => rest
  | c :: rest => if isLineEnd c then rest else c :: rest
  | [] => []

/-- What follows the present line. -/
def nextLine (cs : List Char) : List Char :=
  match cs.dropWhile (!isLineEnd ·) with
  | c :: rest => if isLineEnd c then rest else c :: rest
  | [] => []

/-- Drops blanks and a comment up to the end of the line, and the line end; `none` if something else
is in the way. -/
def endOfLine? (cs : List Char) : Option (List Char) :=
  let rest :=
    match skipInner cs with
    | '#' :: more => more.dropWhile (!isLineEnd ·)
    | more => more
  match rest with
  | [] => some []
  | c :: _ => if isLineEnd c then some (afterLineEnd rest) else none

/-! ### Names and values -/

/-- Drops the word `export` and the blanks after it. -/
def skipExport (cs : List Char) : List Char :=
  if "export".toList.isPrefixOf cs then
    match cs.drop 6 with
    | c :: rest => if isInnerBlank c then skipInner (c :: rest) else cs
    | [] => cs
  else cs

/-- The single quote. -/
def quote : Char := Char.ofNat 39

/-- Reads a name; a comment has none. -/
def name? (cs : List Char) : Option (Option (List Char) × List Char) :=
  match cs with
  | [] => none
  | c :: rest =>
    if c = '#' then some (none, cs)
    else if c = quote then
      match rest.takeWhile (· != quote), rest.dropWhile (· != quote) with
      | [], _ => none
      | _, [] => none
      | name, _ :: more => some (some name, more)
    else
      let inside (c : Char) : Bool := c != '=' && c != '#' && !Text.isBlank c
      match cs.takeWhile inside with
      | [] => none
      | name => some (some name, cs.dropWhile inside)

/-- Reads up to the closing quote. A backslash and the character after it stay together, so that a
quote after a backslash does not close. -/
def untilQuote (q : Char) : List Char → Option (List Char × List Char)
  | [] => none
  | ['\\'] => none
  | '\\' :: c :: rest => (untilQuote q rest).map fun (value, after) ↦ ('\\' :: c :: value, after)
  | c :: rest =>
    if c = q then some ([], rest)
    else (untilQuote q rest).map fun (value, after) ↦ (c :: value, after)

/-- The characters that a letter after a backslash stands for between double quotes. -/
def doubleEscapes : List (Char × Char) :=
  [('\\', '\\'), (quote, quote), ('"', '"'), ('a', Char.ofNat 7), ('b', Char.ofNat 8),
    ('f', Char.ofNat 12), ('n', '\n'), ('r', '\r'), ('t', '\t'), ('v', Char.ofNat 11)]

/-- The characters that a letter after a backslash stands for between single quotes. -/
def singleEscapes : List (Char × Char) := [('\\', '\\'), (quote, quote)]

/-- Replaces escapes by what they stand for; others are kept. -/
def unescape (escapes : List (Char × Char)) : List Char → List Char
  | '\\' :: c :: rest =>
    match escapes.lookup c with
    | some d => d :: unescape escapes rest
    | none => '\\' :: unescape escapes (c :: rest)
  | c :: rest => c :: unescape escapes rest
  | [] => []

/-- A text up to the first comment that follows a blank. -/
def beforeComment : List Char → List Char
  | [] => []
  | c :: rest =>
    if Text.isBlank c && (rest.dropWhile Text.isBlank).head? = some '#' then []
    else c :: beforeComment rest

/-- Reads a value; `apart` tells whether blanks stand before it, after which a comment may begin. -/
def value? (apart : Bool) (cs : List Char) : Option (List Char × List Char) :=
  match cs with
  | [] => some ([], [])
  | c :: rest =>
    if c = quote then
      (untilQuote quote rest).map fun (v, after) ↦ (unescape singleEscapes v, after)
    else if c = '"' then
      (untilQuote '"' rest).map fun (v, after) ↦ (unescape doubleEscapes v, after)
    else if isLineEnd c then some ([], cs)
    else if apart && c = '#' then some ([], cs.dropWhile (!isLineEnd ·))
    else
      some (Text.trimEnd Text.isBlank (beforeComment (cs.takeWhile (!isLineEnd ·))),
        cs.dropWhile (!isLineEnd ·))

/-! ### Bindings -/

/-- A name and its value; a name alone has none. -/
abbrev Binding := String × Option String

/-- What the beginning of a text is read as. -/
structure Entry where
  binding : Option Binding
  rest : List Char

/-- Reads one entry of a text that has something besides blanks. -/
def entryAt (cs : List Char) : Entry :=
  let start := skipExport cs
  match name? start with
  | none => ⟨none, nextLine start⟩
  | some (name, afterName) =>
    let close (value : Option (List Char)) (rest : List Char) : Entry :=
      match endOfLine? rest with
      | some rest => ⟨name.map fun n ↦ (String.ofList n, value.map String.ofList), rest⟩
      | none => ⟨none, nextLine rest⟩
    match skipInner afterName with
    | '=' :: more =>
      match value? (skipInner more != more) (skipInner more) with
      | some (value, rest) => close (some value) rest
      | none => ⟨none, nextLine (skipInner more)⟩
    | rest => close none rest

/-- Reads entries until the text ends. Each drops at least one character. -/
def entries : (fuel : Nat) → List Char → List Binding
  | 0, _ => []
  | fuel + 1, cs =>
    match cs.dropWhile Text.isBlank with
    | [] => []
    | more =>
      let entry := entryAt more
      entry.binding.toList ++ entries fuel entry.rest

/-- The bindings of a file, in order. -/
def bindings (s : String) : List Binding :=
  let cs := Text.normalizeLineEnds s.toList
  let cs := if cs.head? = some '\ufeff' then cs.drop 1 else cs
  entries (cs.length + 1) cs

/-! ### Variables in values -/

/-- A variable `${NAME}` or `${NAME:-default}` at the beginning of a text: its name, its default,
and the rest. -/
def reference? : List Char → Option (List Char × List Char × List Char)
  | '$' :: '\x7b' :: rest =>
    let name := rest.takeWhile fun c ↦ c != '\x7d' && c != ':'
    match rest.drop name.length with
    | '\x7d' :: after => some (name, [], after)
    | ':' :: '-' :: more =>
      match more.dropWhile (· != '\x7d') with
      | '\x7d' :: after => some (name, more.takeWhile (· != '\x7d'), after)
      | _ => none
    | _ => none
  | _ => none

/-- A value with its variables replaced. -/
def expand (lookup : String → Option (Option String)) : (fuel : Nat) → List Char → List Char
  | 0, cs => cs
  | _ + 1, [] => []
  | fuel + 1, c :: cs =>
    match reference? (c :: cs) with
    | some (name, default, rest) =>
      let value : List Char :=
        match lookup (String.ofList name) with
        | some (some s) => s.toList
        | some none => []
        | none => default
      value ++ expand lookup fuel rest
    | none => c :: expand lookup fuel cs

/-- The values of bindings with their variables replaced, the environment coming before the file. -/
def resolve (environment : Fields String) (bs : List Binding) : Fields (Option String) :=
  bs.foldl (fun known b ↦
    let lookup (name : String) : Option (Option String) :=
      ((Fields.get? environment name).map some).or (Fields.get? known name)
    let value := b.2.map fun s ↦ String.ofList (expand lookup s.toList.length s.toList)
    Fields.set known b.1 value) []

/-- The environment completed by a file; what is set already stays. -/
def complete (environment : Fields String) (file : String) : Fields String :=
  (resolve environment (bindings file)).foldl (fun env b ↦
    match b.2 with
    | some value => if Fields.has env b.1 then env else Fields.set env b.1 value
    | none => env) environment

/-- A name that no variable can have, or whose value no variable can hold, among the bindings that a
file adds. -/
def unfit? (environment : Fields String) (file : String) : Option String :=
  ((complete environment file).find? fun b ↦
    !Fields.has environment b.1 &&
      (b.1.toList.contains '=' || b.1.toList.contains '\x00' || b.2.toList.contains '\x00')).map
    Prod.fst

end FlowCanvas.EnvFile
