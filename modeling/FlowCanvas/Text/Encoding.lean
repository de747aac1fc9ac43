import FlowCanvas.Text.Utf8

/-!
# Encodings of messages

The body of a message comes as bytes in one of the encodings of Unicode. Which one it is shows at
its beginning, because the first characters of JSON are ASCII: an ASCII character in an encoding of
wider units has null bytes on one side.
-/

namespace FlowCanvas.Text

/-- An encoding of Unicode; those of wider units have an order of bytes. -/
inductive Encoding where
  | utf8
  | utf16 (bigEndian : Bool)
  | utf32 (bigEndian : Bool)
deriving DecidableEq, Repr

namespace Encoding

/-- The encoding of a body, by its null bytes; without any it is UTF-8. -/
def detect : List UInt8 → Encoding
  | [a, b] => if a = 0 then .utf16 true else if b = 0 then .utf16 false else .utf8
  | a :: b :: c :: d :: _ =>
    if a = 0 then if b = 0 then .utf32 true else .utf16 true
    else if b = 0 then if c = 0 && d = 0 then .utf32 false else .utf16 false
    else .utf8
  | _ => .utf8

/-- The units of two bytes each; `none` if a byte is left over. -/
def units16? (bigEndian : Bool) : List UInt8 → Option (List Nat)
  | [] => some []
  | [_] => none
  | a :: b :: rest =>
    let unit := if bigEndian then a.toNat * 256 + b.toNat else b.toNat * 256 + a.toNat
    (units16? bigEndian rest).map (unit :: ·)

/-- The character of one code. Half a surrogate pair becomes U+FFFD: no `Char` stands for it, while
decoders whose texts may hold surrogates keep it as it is. -/
def charOf (code : Nat) : Char :=
  if 0xd800 ≤ code ∧ code < 0xe000 then Utf8.replacement else Char.ofNat code

/-- The characters of units of two bytes. -/
def chars16 : List Nat → List Char
  | high :: low :: rest =>
    if 0xd800 ≤ high ∧ high < 0xdc00 ∧ 0xdc00 ≤ low ∧ low < 0xe000 then
      Char.ofNat (0x10000 + (high - 0xd800) * 0x400 + (low - 0xdc00)) :: chars16 rest
    else charOf high :: chars16 (low :: rest)
  | [unit] => [charOf unit]
  | [] => []

/-- The characters of four bytes each; `none` if bytes are left over or a code is none. -/
def chars32? (bigEndian : Bool) : List UInt8 → Option (List Char)
  | [] => some []
  | a :: b :: c :: d :: rest =>
    let ⟨a, b, c, d⟩ := if bigEndian then (a, b, c, d) else (d, c, b, a)
    let code := ((a.toNat * 256 + b.toNat) * 256 + c.toNat) * 256 + d.toNat
    if 0x10ffff < code then none
    else (chars32? bigEndian rest).map (charOf code :: ·)
  | _ => none

/-- The characters of bytes in an encoding; `none` if they are not in it. A byte order mark that
begins UTF-8 is dropped. -/
def decode? (bytes : List UInt8) : Encoding → Option (List Char)
  | .utf8 =>
    (Utf8.decode? bytes).map fun cs ↦
      match cs with
      | '\ufeff' :: rest => rest
      | _ => cs
  | .utf16 bigEndian => (units16? bigEndian bytes).map chars16
  | .utf32 bigEndian => chars32? bigEndian bytes

end Encoding

/-- The characters of the body of a message, in the encoding that it shows. -/
def bodyChars? (body : String) : Option (List Char) :=
  let bytes := body.toUTF8.toList
  (Encoding.detect bytes).decode? bytes

end FlowCanvas.Text
