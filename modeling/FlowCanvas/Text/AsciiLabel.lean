/-!
# Labels in ASCII

A label of a host may be written in any script, and has a form in ASCII for those who know no other.
The ASCII characters of the label come first. The others follow in the order of their code points,
each as the number of places passed over since the one before: the places are those of the label so
far, counted once for every code point. The numbers are in digits of base 36, of which the smaller
ones end a number, and which ones count as small adapts to the numbers seen.

`encode` finds the form of a label, and `decode` the label of a form.
-/

namespace FlowCanvas.Text.AsciiLabel

/-! ### Numbers -/

/-- A digit of base 36: the letters, then the numerals. -/
def digit (d : Nat) : Char := Char.ofNat (if d < 26 then 97 + d else 22 + d)

/-- The value of a digit of base 36; case does not matter. -/
def digitValue? (c : Char) : Option Nat :=
  if c.isLower then some (c.toNat - 97)
  else if c.isUpper then some (c.toNat - 65)
  else if c.isDigit then some (c.toNat - 22)
  else none

/-- The least digit at a place, counted in steps of 36, that does not end a number. -/
def threshold (bias place : Nat) : Nat := max 1 (min 26 (place - bias))

theorem threshold_pos (bias place : Nat) : 0 < threshold bias place := by
  unfold threshold
  omega

/-- The digits of a number, the least first, from a place on. -/
def digits (bias place n : Nat) : List Char :=
  let t := threshold bias place
  if n < t then [digit n]
  else digit (t + (n - t) % (36 - t)) :: digits bias (place + 36) ((n - t) / (36 - t))
termination_by n
decreasing_by
  have := threshold_pos bias place
  have := Nat.div_le_self (n - threshold bias place) (36 - threshold bias place)
  omega

/-- Reads a number from a place on, whose digits there count `weight` times; gives the rest too. -/
def number? (bias : Nat) : (place weight : Nat) → List Char → Option (Nat × List Char)
  | _, _, [] => none
  | place, weight, c :: cs =>
    match digitValue? c with
    | none => none
    | some d =>
      let t := threshold bias place
      if d < t then some (d * weight, cs)
      else
        (number? bias (place + 36) (weight * (36 - t)) cs).map fun (n, rest) ↦
          (d * weight + n, rest)

/-- The bias for numbers of about this size; `rounds` counts the divisions already made. -/
def biasFor (rounds n : Nat) : Nat :=
  if 455 < n then biasFor (rounds + 1) (n / 35) else 36 * rounds + 36 * n / (n + 38)
termination_by n
decreasing_by omega

/-- The bias after a number, in a label that now has `size` characters; the first number counts
for less. -/
def biasAfter (first : Bool) (n size : Nat) : Nat :=
  let part := if first then n / 700 else n / 2
  biasFor 0 (part + part / size)

/-! ### Writing -/

/-- How far the form of a label has come: the characters in place, the places passed over, the bias
and the digits so far. -/
structure Progress where
  size : Nat
  passed : Nat := 0
  bias : Nat := 72
  written : List Char := []

/-- Passes a character of the label while those of one code point are put in place; `basic` is the
number of ASCII characters. -/
def Progress.pass (basic code : Nat) (p : Progress) (c : Char) : Progress :=
  if c.toNat < code then { p with passed := p.passed + 1 }
  else if c.toNat = code then
    { size := p.size + 1
      passed := 0
      bias := biasAfter (p.size == basic) p.passed (p.size + 1)
      written := p.written ++ digits p.bias 36 p.passed }
  else p

/-- Puts the characters of the given code points in place; those below `next` are there. -/
def place (label : List Char) (basic : Nat) : (next : Nat) → List Nat → Progress → Progress
  | _, [], p => p
  | next, code :: codes, p =>
    let reached := { p with passed := p.passed + (code - next) * (p.size + 1) }
    let p := label.foldl (Progress.pass basic code) reached
    place label basic (code + 1) codes { p with passed := p.passed + 1 }

/-- The form of a label in ASCII, without the mark that sets it apart from other labels. -/
def encode (label : List Char) : List Char :=
  let basic := label.filter fun c ↦ c.toNat < 128
  let codes := (label.map Char.toNat).filter (128 ≤ ·)
  let codes := (codes.mergeSort (· ≤ ·)).eraseReps
  let p := place label basic.length 128 codes { size := basic.length }
  (if basic.isEmpty then [] else basic ++ ['-']) ++ p.written

/-! ### Reading -/

/-- Puts characters into a label as the digits say. The next one goes to `spot` or later, and its
code is `code` or higher; each number takes at least one of the `fuel` digits. -/
def insertAll : (fuel : Nat) → (first : Bool) → (bias code spot : Nat) → (label : List Char) →
    List Char → Option (List Char)
  | _, _, _, _, _, label, [] => some label
  | 0, _, _, _, _, _, _ => none
  | fuel + 1, first, bias, code, spot, label, digits =>
    match number? bias 36 1 digits with
    | none => none
    | some (n, rest) =>
      let size := label.length + 1
      let code := code + (spot + n) / size
      let spot := (spot + n) % size
      if code.isValidChar then
        let label := label.take spot ++ Char.ofNat code :: label.drop spot
        insertAll fuel false (biasAfter first n size) code (spot + 1) label rest
      else none

/-- The label of a form in ASCII. -/
def decode (form : List Char) : Option (List Char) :=
  let tail := form.reverse.takeWhile (· != '-')
  let basic := form.take (form.length - tail.length - 1)
  insertAll tail.length true 72 128 0 basic tail.reverse

end FlowCanvas.Text.AsciiLabel
