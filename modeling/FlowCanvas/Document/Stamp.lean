/-!
# Time stamps

The form in which documents state moments: `2025-01-01T10:00:00.000Z`, in universal time, cut to
milliseconds.
-/

namespace FlowCanvas

/-- A reading of the clock, in universal time. -/
structure Clock where
  year : Nat
  month : Nat
  day : Nat
  hour : Nat
  minute : Nat
  second : Nat
  microsecond : Nat
deriving DecidableEq, Repr

namespace Clock

/-- A number filled with zeros to a width. -/
def padded (width n : Nat) : String :=
  let digits := Nat.toDigits 10 n
  String.ofList (List.replicate (width - digits.length) '0' ++ digits)

/-- The stamp of a reading. -/
def stamp (c : Clock) : String :=
  padded 4 c.year ++ "-" ++ padded 2 c.month ++ "-" ++ padded 2 c.day ++ "T" ++
    padded 2 c.hour ++ ":" ++ padded 2 c.minute ++ ":" ++ padded 2 c.second ++ "." ++
    padded 3 (c.microsecond / 1000) ++ "Z"

end Clock

end FlowCanvas
