/-!
# Code ranges

Character classes of the Unicode standard are tables of inclusive ranges of code points. Where the
members of a class alternate with others, a table of runs is shorter: a run takes every second code
point, or every fourth.
-/

namespace FlowCanvas.Text

/-- The code points from `first` to `last`, both included. -/
structure CodeRange where
  first : Nat
  last : Nat

namespace CodeRange

/-- A table written as pairs of end points. -/
def ofPairs (pairs : List (Nat × Nat)) : List CodeRange := pairs.map fun p ↦ ⟨p.1, p.2⟩

/-- Whether a code point lies in a range. -/
def contains (r : CodeRange) (n : Nat) : Bool := r.first ≤ n && n ≤ r.last

/-- Whether a character lies in one of the ranges of a table. -/
def anyContains (table : List CodeRange) (c : Char) : Bool := table.any fun r ↦ r.contains c.toNat

end CodeRange

/-- Every `stride`-th code point from `first` to `last`. -/
structure CodeRun where
  first : Nat
  last : Nat
  stride : Nat

namespace CodeRun

/-- Whether a code point lies in a run. -/
def contains (r : CodeRun) (n : Nat) : Bool :=
  r.first ≤ n && n ≤ r.last && (n - r.first) % r.stride == 0

/-- Whether a character lies in one of the runs of a table. -/
def anyContains (table : List CodeRun) (c : Char) : Bool := table.any fun r ↦ r.contains c.toNat

end CodeRun

end FlowCanvas.Text
