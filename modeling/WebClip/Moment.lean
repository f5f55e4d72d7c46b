/-!
# Moments

Seconds since the start of 1970, and the date and the time of day they are written as.
-/

namespace WebClip

/-- A moment, in seconds since the start of 1970. -/
structure Moment where
  seconds : Nat
  deriving DecidableEq

namespace Moment

/-- Whether a year has a day more. -/
def isLeap (year : Nat) : Bool := year % 4 = 0 && (year % 100 ≠ 0 || year % 400 = 0)

/-- The number of days in each month of a year. -/
def monthLengths (year : Nat) : List Nat :=
  [31, if isLeap year then 29 else 28, 31, 30, 31, 30, 31, 31, 30, 31, 30, 31]

/-- The year that so many days from the start of a year lead to, and the days left then. -/
def yearAfter : Nat → Nat → Nat → Nat × Nat
  | 0, year, days => (year, days)
  | n + 1, year, days =>
    let length := if isLeap year then 366 else 365
    if days < length then (year, days) else yearAfter n (year + 1) (days - length)

/-- The month that so many days lead to, and the days left then. -/
def monthAfter : List Nat → Nat → Nat → Nat × Nat
  | [], month, days => (month, days)
  | length :: rest, month, days =>
    if days < length then (month, days) else monthAfter rest (month + 1) (days - length)

/-- A number in so many digits at least. -/
def digits (width n : Nat) : String :=
  let ds := Nat.toDigits 10 n
  String.ofList (List.replicate (width - ds.length) '0' ++ ds)

/-- The date. -/
def date (m : Moment) : String :=
  let days := m.seconds / 86400
  let (year, days) := yearAfter days 1970 days
  let (month, days) := monthAfter (monthLengths year) 1 days
  digits 4 year ++ "-" ++ digits 2 month ++ "-" ++ digits 2 (days + 1)

/-- The time of day. -/
def time (m : Moment) : String :=
  let s := m.seconds % 86400
  digits 2 (s / 3600) ++ ":" ++ digits 2 (s / 60 % 60) ++ ":" ++ digits 2 (s % 60)

/-- The date and the time of day. -/
def toString (m : Moment) : String := m.date ++ "T" ++ m.time

end Moment

end WebClip
