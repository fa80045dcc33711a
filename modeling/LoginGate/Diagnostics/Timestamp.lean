import LoginGate.Diagnostics.TraceFile

namespace LoginGate

/-!
# Time stamps of the trace file
-/

/-- A moment in coordinated universal time, to the second. -/
structure Timestamp where
  year : Nat
  month : Nat
  day : Nat
  hour : Nat
  minute : Nat
  second : Nat
  deriving Repr, DecidableEq

/-- A number in decimal digits, with zeros in front up to a width. -/
def paddedDecimal (width number : Nat) : List Char :=
  let digits := Nat.toDigits 10 number
  List.replicate (width - digits.length) '0' ++ digits

/-- A year in four digits, or with a sign and more of them. -/
def yearDigits (year : Nat) : List Char :=
  (if 9999 < year then ['+'] else []) ++ paddedDecimal 4 year

/-- A moment as it is written: date, the letter T, time of day, the letter Z. -/
def Timestamp.display (moment : Timestamp) : String :=
  String.ofList
    (yearDigits moment.year ++ ['-'] ++ paddedDecimal 2 moment.month ++ ['-'] ++
      paddedDecimal 2 moment.day ++ ['T'] ++ paddedDecimal 2 moment.hour ++ [':'] ++
      paddedDecimal 2 moment.minute ++ [':'] ++ paddedDecimal 2 moment.second ++ ['Z'])

/-- The clock that reads these moments one after the other. -/
def Timestamp.clock (moments : Nat → Timestamp) : Clock :=
  fun reading => (moments reading).display

end LoginGate
