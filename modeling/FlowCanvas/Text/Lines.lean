/-!
# Lines

Three ways of looking at the lines of a text: cutting at line feeds, counting the lines that a
reader of any convention sees, and bringing the line ends of a file to the line feed.
-/

namespace FlowCanvas.Text

/-- Cuts a text at each occurrence of a character; one piece more than there are cuts. -/
def cutAt (sep : Char) : List Char → List (List Char)
  | [] => [[]]
  | c :: cs =>
    if c = sep then [] :: cutAt sep cs
    else
      match cutAt sep cs with
      | [] => [[c]]
      | piece :: rest => (c :: piece) :: rest

/-- The pieces of a text between line feeds. -/
def lines (s : String) : List String := (cutAt '\n' s.toList).map String.ofList

/-- Whether a character ends a line under some convention. -/
def endsLine (c : Char) : Bool :=
  let n := c.toNat
  (10 ≤ n && n ≤ 13) || (0x1c ≤ n && n ≤ 0x1e) || n == 0x85 || n == 0x2028 || n == 0x2029

/-- The number of lines of a text, where `open?` tells whether the current line has begun. -/
def countLinesFrom : (open? : Bool) → List Char → Nat
  | open?, [] => if open? then 1 else 0
  | _, '\r' :: '\n' :: cs => 1 + countLinesFrom false cs
  | _, c :: cs => if endsLine c then 1 + countLinesFrom false cs else countLinesFrom true cs

/-- The number of lines of a text; a final line end opens no further line. -/
def countLines (s : String) : Nat := countLinesFrom false s.toList

/-- Line ends brought to the line feed: a carriage return, with the line feed after it if there is
one, becomes a line feed. -/
def normalizeLineEnds : List Char → List Char
  | [] => []
  | '\r' :: '\n' :: cs => '\n' :: normalizeLineEnds cs
  | c :: cs => (if c = '\r' then '\n' else c) :: normalizeLineEnds cs

/-- The text of a file as it is read: line ends are line feeds. -/
def ofFile (s : String) : String := String.ofList (normalizeLineEnds s.toList)

end FlowCanvas.Text
