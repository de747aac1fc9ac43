import FlowCanvas.Number.Numeral
import FlowCanvas.Text.Encoding
import FlowCanvas.Text.Hex
import FlowCanvas.Value.Basic

/-!
# Reading JSON

Standard JSON and the three names of the floats that it lacks (`NaN`, `Infinity`, `-Infinity`).
A number with a point or an exponent is a float, any other an integer. Of two entries with one name
in an object the later value counts, at the place of the earlier, unless the dialect keeps both.

A text that is not JSON is refused with a `Complaint` and the place it is about. So is one that goes
beyond the limits of a reader: an overlong integer, or nesting that is too deep. Readers work on the
rest of the text, so a place is the rest that begins there; `read` turns it into a number.
-/

namespace FlowCanvas.Json

/-- What is wrong with a text. -/
inductive Complaint where
  | expectedValue
  | expectedName
  | expectedColon
  | expectedComma
  | unterminatedString
  | controlCharacter
  | badEscape
  | badCodeEscape
  | loneSurrogate
  | overlongInteger
  | tooDeep
  | extraData
  | byteOrderMark
deriving DecidableEq, Repr

/-- Whether a complaint is that a text is not JSON, and not that it goes beyond a limit. -/
def Complaint.isSyntax : Complaint → Bool
  | overlongInteger | tooDeep => false
  | _ => true

/-- The wording of a complaint. -/
def Complaint.message : Complaint → String
  | expectedValue => "Expecting value"
  | expectedName => "Expecting property name enclosed in double quotes"
  | expectedColon => "Expecting ':' delimiter"
  | expectedComma => "Expecting ',' delimiter"
  | unterminatedString => "Unterminated string starting at"
  | controlCharacter => "Invalid control character at"
  | badEscape => "Invalid \\escape"
  | badCodeEscape => "Invalid \\uXXXX escape"
  | loneSurrogate => "Lone surrogate at"
  | overlongInteger => "Integer too long at"
  | tooDeep => "Nesting too deep at"
  | extraData => "Extra data"
  | byteOrderMark => "Unexpected UTF-8 BOM (decode using utf-8-sig)"

/-- A complaint and the rest of the text from the place it is about. -/
structure Fault where
  complaint : Complaint
  rest : List Char

/-- The result of reading the beginning of a text. -/
abbrev Reading (α : Type) := Except Fault (α × List Char)

/-- How lenient a reader is. -/
structure Dialect where
  /-- How many filled lists and objects may stand inside one another; `none` sets no limit. -/
  depth : Option Nat
  /-- Whether half of a surrogate pair is refused; otherwise it reads as the replacement
  character. -/
  pairsOnly : Bool
  /-- Whether an object keeps entries that repeat a name. -/
  keepsRepeats : Bool

/-- The dialect of files and of the wire. -/
def Dialect.file : Dialect := ⟨some 985, false, false⟩

/-- The dialect of documents handed over as text. -/
def Dialect.document : Dialect := ⟨some 200, true, true⟩

/-- A text without the blanks at its beginning. -/
def skipBlanks (cs : List Char) : List Char :=
  cs.dropWhile fun c ↦ c = ' ' || c = '\t' || c = '\n' || c = '\r'

/-! ### Strings -/

/-- The code of four hexadecimal digits at the beginning of a text that goes on after them. -/
def hexCode? : List Char → Option (Nat × List Char)
  | a :: b :: c :: d :: e :: rest => do
    let a ← Text.hexValue? a
    let b ← Text.hexValue? b
    let c ← Text.hexValue? c
    let d ← Text.hexValue? d
    some (((a * 16 + b) * 16 + c) * 16 + d, e :: rest)
  | _ => none

/-- The character that a letter after a backslash stands for. -/
def escaped? : Char → Option Char
  | '"' => some '"'
  | '\\' => some '\\'
  | '/' => some '/'
  | 'b' => some (Char.ofNat 8)
  | 'f' => some (Char.ofNat 12)
  | 'n' => some '\n'
  | 'r' => some '\r'
  | 't' => some '\t'
  | _ => none

/-- Reads the four digits after `\u`, and the second half of a surrogate pair after them. `place` is
the text from the letter `u` on. Where half a pair is not refused it becomes U+FFFD: no `Char`
stands for it, while readers whose texts may hold surrogates keep it as it is. -/
def codeEscape (dialect : Dialect) (place : List Char) : Reading Char :=
  match hexCode? (place.drop 1) with
  | none => .error ⟨.badCodeEscape, place⟩
  | some (code, rest) =>
    let lone : Reading Char :=
      if dialect.pairsOnly then .error ⟨.loneSurrogate, place⟩ else .ok (Char.ofNat 0xfffd, rest)
    if 0xd800 ≤ code ∧ code < 0xdc00 then
      match rest with
      | '\\' :: 'u' :: more =>
        match hexCode? more with
        | some (second, after) =>
          if 0xdc00 ≤ second ∧ second < 0xe000 then
            .ok (Char.ofNat (0x10000 + (code - 0xd800) * 0x400 + (second - 0xdc00)), after)
          else lone
        | none => if more.length < 5 then lone else .error ⟨.badCodeEscape, rest.drop 1⟩
      | _ => lone
    else if 0xdc00 ≤ code ∧ code < 0xe000 then lone
    else .ok (Char.ofNat code, rest)

/-- Reads the rest of a string. `start` is the text from the opening quote on, `done` the characters
read so far, the last first. -/
def stringRest (dialect : Dialect) (start : List Char) : (fuel : Nat) → (done : List Char) →
    List Char → Reading String
  | 0, _, _ => .error ⟨.unterminatedString, start⟩
  | _ + 1, _, [] => .error ⟨.unterminatedString, start⟩
  | _ + 1, done, '"' :: rest => .ok (String.ofList done.reverse, rest)
  | _ + 1, _, ['\\'] => .error ⟨.unterminatedString, start⟩
  | fuel + 1, done, '\\' :: c :: rest =>
    if c = 'u' then
      match codeEscape dialect (c :: rest) with
      | .error fault => .error fault
      | .ok (d, more) => stringRest dialect start fuel (d :: done) more
    else
      match escaped? c with
      | some d => stringRest dialect start fuel (d :: done) rest
      | none => .error ⟨.badEscape, '\\' :: c :: rest⟩
  | fuel + 1, done, c :: rest =>
    if c.toNat < 32 then .error ⟨.controlCharacter, c :: rest⟩
    else stringRest dialect start fuel (c :: done) rest

/-- Reads a string whose opening quote begins the text. -/
def stringAt (dialect : Dialect) (cs : List Char) : Reading String :=
  stringRest dialect cs cs.length [] (cs.drop 1)

/-! ### Numbers -/

/-- Reads the digits after a point, if there are any. -/
def fractionPart : List Char → List Char × List Char
  | '.' :: rest =>
    match rest.takeWhile Char.isDigit with
    | [] => ([], '.' :: rest)
    | digits => (digits, rest.dropWhile Char.isDigit)
  | cs => ([], cs)

/-- Reads an exponent, if there is one. -/
def exponentPart (cs : List Char) : Option Int × List Char :=
  match cs with
  | e :: rest =>
    if e = 'e' || e = 'E' then
      let (negative, body) := Number.Numeral.takeSign rest
      match body.takeWhile Char.isDigit with
      | [] => (none, cs)
      | digits =>
        let size : Int := Text.digitsValue digits
        (some (if negative then -size else size), body.dropWhile Char.isDigit)
    else (none, cs)
  | [] => (none, [])

/-- Reads a number; `none` if the text begins with none. -/
def number? (cs : List Char) : Option (Reading Value) :=
  let (negative, body) : Bool × List Char :=
    match cs with
    | '-' :: rest => (true, rest)
    | _ => (false, cs)
  let whole : List Char :=
    match body with
    | '0' :: _ => ['0']
    | _ => body.takeWhile Char.isDigit
  if whole.isEmpty then none
  else
    let (fraction, rest) := fractionPart (body.drop whole.length)
    let (exponent, rest) := exponentPart rest
    let digits := Text.digitsValue (whole ++ fraction)
    if fraction.isEmpty && exponent.isNone then
      if Number.isOverlong whole then some (.error ⟨.overlongInteger, cs⟩)
      else some (.ok (.int (if negative then -(digits : Int) else digits), rest))
    else
      let numeral : Number.Numeral := ⟨negative, digits, exponent.getD 0 - fraction.length⟩
      some (.ok (.float numeral.toFloat, rest))

/-! ### Values -/

/-- The words that are values. -/
def words : List (String × Value) :=
  [("null", .null), ("true", .bool true), ("false", .bool false), ("NaN", .float (0 / 0)),
    ("Infinity", .float (1 / 0)), ("-Infinity", .float (-1 / 0))]

/-- Reads a word that is a value. -/
def word? (cs : List Char) : Option (Value × List Char) :=
  words.findSome? fun (name, v) ↦
    if name.toList.isPrefixOf cs then some (v, cs.drop name.length) else none

/-- Room for one level of nesting less. -/
def deeper : Option Nat → Option (Option Nat)
  | none => some none
  | some 0 => none
  | some (n + 1) => some (some n)

mutual

/-- Reads a value at the beginning of a text. -/
def valueAt (dialect : Dialect) : (fuel : Nat) → (room : Option Nat) → List Char → Reading Value
  | 0, _, cs => .error ⟨.expectedValue, cs⟩
  | fuel + 1, room, cs =>
    match cs with
    | '"' :: _ =>
      match stringAt dialect cs with
      | .error fault => .error fault
      | .ok (s, rest) => .ok (.text s, rest)
    | '[' :: more =>
      match skipBlanks more with
      | ']' :: rest => .ok (.list [], rest)
      | inner =>
        match deeper room with
        | none => .error ⟨.tooDeep, cs⟩
        | some room =>
          match itemsAt dialect fuel room inner with
          | .error fault => .error fault
          | .ok (items, rest) => .ok (.list items, rest)
    | '\x7b' :: more =>
      match skipBlanks more with
      | '\x7d' :: rest => .ok (.object [], rest)
      | inner =>
        match deeper room with
        | none => .error ⟨.tooDeep, cs⟩
        | some room =>
          match membersAt dialect fuel room inner with
          | .error fault => .error fault
          | .ok (members, rest) =>
            .ok (.object (if dialect.keepsRepeats then members else Fields.ofList members), rest)
    | _ =>
      match word? cs with
      | some found => .ok found
      | none => (number? cs).getD (.error ⟨.expectedValue, cs⟩)

/-- Reads the items of a list that has at least one, and its end. -/
def itemsAt (dialect : Dialect) : (fuel : Nat) → (room : Option Nat) → List Char →
    Reading (List Value)
  | 0, _, cs => .error ⟨.expectedValue, cs⟩
  | fuel + 1, room, cs =>
    match valueAt dialect fuel room cs with
    | .error fault => .error fault
    | .ok (v, more) =>
      match skipBlanks more with
      | ']' :: rest => .ok ([v], rest)
      | ',' :: rest =>
        match itemsAt dialect fuel room (skipBlanks rest) with
        | .error fault => .error fault
        | .ok (items, rest) => .ok (v :: items, rest)
      | place => .error ⟨.expectedComma, place⟩

/-- Reads the entries of an object that has at least one, and its end. -/
def membersAt (dialect : Dialect) : (fuel : Nat) → (room : Option Nat) → List Char →
    Reading (List (String × Value))
  | 0, _, cs => .error ⟨.expectedValue, cs⟩
  | fuel + 1, room, cs =>
    match cs with
    | '"' :: _ =>
      match stringAt dialect cs with
      | .error fault => .error fault
      | .ok (key, more) =>
        match skipBlanks more with
        | ':' :: more =>
          match valueAt dialect fuel room (skipBlanks more) with
          | .error fault => .error fault
          | .ok (v, more) =>
            match skipBlanks more with
            | '\x7d' :: rest => .ok ([(key, v)], rest)
            | ',' :: rest =>
              match membersAt dialect fuel room (skipBlanks rest) with
              | .error fault => .error fault
              | .ok (members, rest) => .ok ((key, v) :: members, rest)
            | place => .error ⟨.expectedComma, place⟩
        | place => .error ⟨.expectedColon, place⟩
    | _ => .error ⟨.expectedName, cs⟩

end

/-- Reads a text that holds one value and blanks around it. Every call of a reader within another
follows a character, or is one of the two calls for it. -/
def readChars (dialect : Dialect) (cs : List Char) : Except Fault Value :=
  match cs with
  | '\ufeff' :: _ => .error ⟨.byteOrderMark, cs⟩
  | _ =>
    match valueAt dialect (2 * cs.length + 2) dialect.depth (skipBlanks cs) with
    | .error fault => .error fault
    | .ok (v, more) =>
      match skipBlanks more with
      | [] => .ok v
      | place => .error ⟨.extraData, place⟩

/-- A place in a text, counted in characters from zero, and in lines and columns from one. -/
structure Place where
  offset : Nat
  line : Nat
  column : Nat
deriving DecidableEq, Repr

/-- The place of an offset in a text. -/
def Place.ofOffset (cs : List Char) (offset : Nat) : Place :=
  let before := cs.take offset
  ⟨offset, before.count '\n' + 1, (before.reverse.takeWhile (· != '\n')).length + 1⟩

/-- A complaint about a place in a text. -/
structure Refusal where
  complaint : Complaint
  place : Place
deriving DecidableEq, Repr

/-- The wording of a refusal. -/
def Refusal.message (r : Refusal) : String :=
  s!"{r.complaint.message}: line {r.place.line} column {r.place.column} (char {r.place.offset})"

/-- Reads characters that hold one value and blanks around it. -/
def readAll (dialect : Dialect) (cs : List Char) : Except Refusal Value :=
  match readChars dialect cs with
  | .ok v => .ok v
  | .error fault =>
    .error ⟨fault.complaint, Place.ofOffset cs (cs.length - fault.rest.length)⟩

/-- Reads a text that holds one value and blanks around it. -/
def read (dialect : Dialect) (s : String) : Except Refusal Value := readAll dialect s.toList

/-- Why the body of a message is not read. -/
inductive BodyFault where
  /-- The bytes of the body are in no encoding. -/
  | undecodable
  | refused (refusal : Refusal)
deriving DecidableEq, Repr

/-- Reads the body of a message, in whatever encoding it is. -/
def readBody (s : String) : Except BodyFault Value :=
  match Text.bodyChars? s with
  | none => .error .undecodable
  | some cs => (readAll .file cs).mapError .refused

end FlowCanvas.Json
