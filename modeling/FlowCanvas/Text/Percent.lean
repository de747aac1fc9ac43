import FlowCanvas.Text.Hex
import FlowCanvas.Text.Utf8

/-!
# Percent encoding

A character of an address may stand as `%` and two hexadecimal digits for each of its bytes.
-/

namespace FlowCanvas.Text

/-- The encoded bytes that begin a text. -/
def encodedBytes : List Char → List UInt8
  | '%' :: a :: b :: rest =>
    match hexValue? a, hexValue? b with
    | some x, some y => UInt8.ofNat (x * 16 + y) :: encodedBytes rest
    | _, _ => []
  | _ => []

/-- A text with its encoded bytes decoded, run by run; `skip` counts the characters already
decoded. -/
def percentDecoded : (skip : Nat) → List Char → List Char
  | _, [] => []
  | skip + 1, _ :: cs => percentDecoded skip cs
  | 0, c :: cs =>
    match encodedBytes (c :: cs) with
    | [] => c :: percentDecoded 0 cs
    | bytes => Utf8.decodeLenient bytes ++ percentDecoded (3 * bytes.length - 1) cs

/-- A text with its encoded bytes decoded. -/
def percentDecode (cs : List Char) : List Char := percentDecoded 0 cs

/-- The encoding of a character. -/
def percentCode (c : Char) : List Char :=
  (String.singleton c).toUTF8.toList.flatMap fun b ↦
    '%' :: (hexDigits 2 b.toNat).map Char.toUpper

/-- A text in which the characters that may not stand as they are have been encoded. -/
def percentEncode (plain : Char → Bool) (cs : List Char) : List Char :=
  cs.flatMap fun c ↦ if plain c then [c] else percentCode c

end FlowCanvas.Text
