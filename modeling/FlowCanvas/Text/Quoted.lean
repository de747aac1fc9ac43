import FlowCanvas.Text.Hex
import FlowCanvas.Text.Printable

/-!
# Quoted text

How a text is shown inside a displayed value. It stands between single quotes, or between double
quotes when it holds a single quote and no double one. The quote in use and the backslash take a
backslash; a line feed, a carriage return and a tab have their letters; any other character that is
not printable is written by its code, in two, four or eight hexadecimal digits.
-/

namespace FlowCanvas.Text

/-- The single quote. -/
def singleQuote : Char := Char.ofNat 39

/-- The quote a text is shown in. -/
def quoteOf (cs : List Char) : Char :=
  if cs.contains singleQuote && !cs.contains '"' then '"' else singleQuote

/-- A character inside quotes. -/
def quotedChar (quote c : Char) : List Char :=
  if c = quote || c = '\\' then ['\\', c]
  else if c = '\n' then ['\\', 'n']
  else if c = '\r' then ['\\', 'r']
  else if c = '\t' then ['\\', 't']
  else if isPrintable c then [c]
  else if c.toNat < 0x100 then '\\' :: 'x' :: hexDigits 2 c.toNat
  else if c.toNat < 0x10000 then '\\' :: 'u' :: hexDigits 4 c.toNat
  else '\\' :: 'U' :: hexDigits 8 c.toNat

/-- A text in quotes. -/
def quoted (s : String) : String :=
  let cs := s.toList
  let quote := quoteOf cs
  String.ofList (quote :: cs.flatMap (quotedChar quote) ++ [quote])

end FlowCanvas.Text
