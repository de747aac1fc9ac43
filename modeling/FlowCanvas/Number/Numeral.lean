import FlowCanvas.Text.Blank
import FlowCanvas.Text.Digit

/-!
# Numerals

Reading numbers from text. A *plain* numeral is ASCII: a sign, digits with an optional point, an
optional exponent, or one of the names of infinity and NaN in any case. The lenient readers accept
blanks around the numeral, digits of any script, and single underscores between digits. An integer
of very many digits is not read at all; a float may have as many as it likes.
-/

namespace FlowCanvas.Number

/-- The number of digits of the longest integer that is read or written. -/
def longestInteger : Nat := 4300

/-- Whether an integer is short enough to be written out. -/
def isWritable (n : Int) : Bool := decide (n.natAbs < Nat.pow 10 longestInteger)

/-- Whether digits are too many to be read as an integer. -/
def isOverlong (digits : List Char) : Bool := longestInteger < digits.length

/-- The number `digits * 10 ^ exponent`, negated if `negative`. -/
structure Numeral where
  negative : Bool
  digits : Nat
  exponent : Int
deriving DecidableEq, Repr

namespace Numeral

/-- The float nearest to a numeral. A numeral far beyond the range of floats is infinite, one far
below it is zero. -/
def toFloat (n : Numeral) : Float :=
  let size : Int := (Nat.toDigits 10 n.digits).length + n.exponent
  let magnitude : Float :=
    if n.digits = 0 then 0
    else if 400 < size then 1 / 0
    else if size < -400 then 0
    else Float.ofScientific n.digits (n.exponent < 0) n.exponent.natAbs
  if n.negative then -magnitude else magnitude

/-- Takes the sign off a numeral; tells whether it is negative. -/
def takeSign : List Char → Bool × List Char
  | '-' :: cs => (true, cs)
  | '+' :: cs => (false, cs)
  | cs => (false, cs)

/-- Reads an exponent part that must fill the text. -/
def exponent? : List Char → Option Int
  | [] => some 0
  | e :: cs =>
    if e = 'e' || e = 'E' then
      let (negative, digits) := takeSign cs
      if digits.isEmpty || !digits.all Char.isDigit then none
      else
        let size : Int := Text.digitsValue digits
        some (if negative then -size else size)
    else none

/-- Reads an unsigned decimal number with an optional point and exponent. -/
def magnitude? (negative : Bool) (cs : List Char) : Option Numeral :=
  let whole := cs.takeWhile Char.isDigit
  let (fraction, rest) :=
    match cs.dropWhile Char.isDigit with
    | '.' :: more => (more.takeWhile Char.isDigit, more.dropWhile Char.isDigit)
    | more => ([], more)
  if whole.isEmpty && fraction.isEmpty then none
  else
    (exponent? rest).map fun e ↦
      ⟨negative, Text.digitsValue (whole ++ fraction), e - fraction.length⟩

end Numeral

/-- Reads a plain numeral that fills the text. -/
def plainFloat? (cs : List Char) : Option Float :=
  let (negative, body) := Numeral.takeSign cs
  let signed (x : Float) : Float := if negative then -x else x
  let word := String.ofList (body.map Char.toLower)
  if word = "inf" || word = "infinity" then some (signed (1 / 0))
  else if word = "nan" then some (0 / 0)
  else (Numeral.magnitude? negative body).map Numeral.toFloat

/-- Digits of any script as ASCII digits. -/
def asciiDigits (cs : List Char) : List Char :=
  cs.map fun c ↦ ((Text.digitValue? c).map fun d ↦ Char.ofNat (48 + d)).getD c

/-- Removes underscores that stand singly between two digits; `none` if one stands elsewhere.
`previous` is the character before the text. -/
def dropSeparators (previous : Char) : List Char → Option (List Char)
  | [] => if previous = '_' then none else some []
  | c :: cs =>
    if c = '_' then
      if previous.isDigit then dropSeparators c cs else none
    else if previous = '_' && !c.isDigit then none
    else (dropSeparators c cs).map (c :: ·)

/-- Reads a number leniently: blanks around it, digits of any script, underscores between
digits. -/
def lenientFloat? (s : String) : Option Float :=
  (dropSeparators ' ' (asciiDigits (Text.trimBoth Text.isWhite s.toList))).bind plainFloat?

/-- Reads an integer leniently: blanks around it, a sign, digits of any script, underscores between
digits, of which there may not be too many. -/
def lenientInt? (s : String) : Option Int := do
  let cs ← dropSeparators ' ' (asciiDigits (Text.trimBoth Text.isWhite s.toList))
  let (negative, digits) := Numeral.takeSign cs
  if digits.isEmpty || !digits.all Char.isDigit || isOverlong digits then none
  else
    let size : Int := Text.digitsValue digits
    some (if negative then -size else size)

/-- Reads the number of a form field. White space around it is dropped; failing that, underscores
that neither begin nor end the text nor stand together are dropped, and then no white space is
allowed. -/
def fieldFloat? (s : String) : Option Float :=
  match plainFloat? (Text.trimBoth Text.isWhite s.toList) with
  | some x => some x
  | none =>
    let cs := s.toList
    if cs.contains '_' && cs.head? != some '_' && cs.getLast? != some '_' &&
        !(cs.zip cs.tail).contains ('_', '_') then
      plainFloat? (cs.filter (· != '_'))
    else none

end FlowCanvas.Number
