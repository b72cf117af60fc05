/-!
# Time stamps

The moment at which a log record is made, to the millisecond, as it is shown in front of it.
-/

namespace CoinConsole.Log

/-- A moment on the calendar and the clock. -/
structure Stamp where
  year : Nat
  month : Nat
  day : Nat
  hour : Nat
  minute : Nat
  second : Nat
  millisecond : Nat
deriving DecidableEq

/-- The decimal digits of `n`, filled with zeros to `width`. -/
def padded (width n : Nat) : String := String.ofList ((toString n).toList.leftpad width '0')

/-- The date and the time of day, with a comma in front of the milliseconds. -/
def Stamp.text (stamp : Stamp) : String :=
  let date := "-".intercalate [padded 4 stamp.year, padded 2 stamp.month, padded 2 stamp.day]
  let time := ":".intercalate [padded 2 stamp.hour, padded 2 stamp.minute, padded 2 stamp.second]
  s!"{date} {time},{padded 3 stamp.millisecond}"

end CoinConsole.Log
