/-!
# UTF-8

Reading characters from bytes. A character of several bytes is a lead and the bytes that follow it;
the lead says how many there are and what the first of them may be, which keeps out surrogates,
codes beyond the last one, and spellings longer than need be. Bytes that make up no character are
read as `none`, once for the longest beginning of a character that they are.
-/

namespace FlowCanvas.Text.Utf8

/-- What the first byte of a character says. -/
structure Lead where
  /-- The part of the code that the byte carries. -/
  code : Nat
  /-- How many bytes follow. -/
  more : Nat
  /-- The least and the greatest byte that may follow first. -/
  low : Nat := 0x80
  high : Nat := 0xbf
deriving DecidableEq, Repr

/-- Reads the first byte of a character. -/
def lead? (b : Nat) : Option Lead :=
  if b < 0x80 then some ⟨b, 0, 0x80, 0xbf⟩
  else if b < 0xc2 then none
  else if b < 0xe0 then some ⟨b - 0xc0, 1, 0x80, 0xbf⟩
  else if b = 0xe0 then some ⟨0, 2, 0xa0, 0xbf⟩
  else if b = 0xed then some ⟨0xd, 2, 0x80, 0x9f⟩
  else if b < 0xf0 then some ⟨b - 0xe0, 2, 0x80, 0xbf⟩
  else if b = 0xf0 then some ⟨0, 3, 0x90, 0xbf⟩
  else if b < 0xf4 then some ⟨b - 0xf0, 3, 0x80, 0xbf⟩
  else if b = 0xf4 then some ⟨4, 3, 0x80, 0x8f⟩
  else none

/-- Reads the bytes that follow a lead, and gives the rest. -/
def follow : (more low high code : Nat) → List UInt8 → Option Nat × List UInt8
  | 0, _, _, code, bytes => (some code, bytes)
  | _ + 1, _, _, _, [] => (none, [])
  | more + 1, low, high, code, b :: rest =>
    if low ≤ b.toNat ∧ b.toNat ≤ high then
      follow more 0x80 0xbf (code * 64 + b.toNat % 64) rest
    else (none, b :: rest)

/-- Reads characters; every step takes at least one byte. -/
def scan : (fuel : Nat) → List UInt8 → List (Option Char)
  | 0, _ => []
  | _, [] => []
  | fuel + 1, b :: rest =>
    match lead? b.toNat with
    | none => none :: scan fuel rest
    | some lead =>
      let (code, after) := follow lead.more lead.low lead.high lead.code rest
      code.map Char.ofNat :: scan fuel after

/-- The characters of bytes, `none` for bytes that are no character. -/
def chars (bytes : List UInt8) : List (Option Char) := scan bytes.length bytes

/-- The character that stands for what is none. -/
def replacement : Char := Char.ofNat 0xfffd

/-- The characters of bytes; what is no character reads as the replacement character. -/
def decodeLenient (bytes : List UInt8) : List Char := (chars bytes).map fun c ↦ c.getD replacement

/-- The characters of bytes that are characters throughout. -/
def decode? (bytes : List UInt8) : Option (List Char) := (chars bytes).mapM id

end FlowCanvas.Text.Utf8
