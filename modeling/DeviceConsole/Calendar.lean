/-! Points in time as calendar text, in UTC and the proleptic Gregorian calendar. -/
namespace DeviceConsole.Calendar

structure Date where
  year : Int
  month : Nat
  day : Nat
deriving DecidableEq, Repr

/-- The date so many days after the first of January 1970. Years are counted from the first of
March, so that a leap day comes last. -/
def ofDays (days : Int) : Date :=
  let shifted := days + 719468
  let era := shifted.fdiv 146097
  let dayOfEra := (shifted - era * 146097).toNat
  let yearOfEra :=
    (dayOfEra - dayOfEra / 1460 + dayOfEra / 36524 - dayOfEra / 146096) / 365
  let dayOfYear := dayOfEra - (365 * yearOfEra + yearOfEra / 4 - yearOfEra / 100)
  let marchMonth := (5 * dayOfYear + 2) / 153
  let month := if marchMonth < 10 then marchMonth + 3 else marchMonth - 9
  { year := era * 400 + yearOfEra + (if month ≤ 2 then 1 else 0)
    month, day := dayOfYear - (153 * marchMonth + 2) / 5 + 1 }

def padded (width n : Nat) : String :=
  let digits := toString n
  String.ofList (List.replicate (width - digits.length) '0') ++ digits

/-- Four digits; a year outside of them carries its sign. -/
def yearText (y : Int) : String :=
  if 0 ≤ y ∧ y ≤ 9999 then padded 4 y.toNat
  else (if y < 0 then "-" else "+") ++ padded 4 y.natAbs

/-- The years that have a text. -/
def inRange (y : Int) : Bool := -262143 ≤ y && y ≤ 262142

/-- Date and time of day to the second. A point outside of the calendar is shown as its number. -/
def millisText (millis : Int) : String :=
  let seconds := millis.fdiv 1000
  let days := seconds.fdiv 86400
  let clock := (seconds - days * 86400).toNat
  let date := ofDays days
  if inRange date.year then
    yearText date.year ++ "-" ++ padded 2 date.month ++ "-" ++ padded 2 date.day ++ " " ++
      padded 2 (clock / 3600) ++ ":" ++ padded 2 (clock / 60 % 60) ++ ":" ++ padded 2 (clock % 60)
  else toString millis

end DeviceConsole.Calendar
