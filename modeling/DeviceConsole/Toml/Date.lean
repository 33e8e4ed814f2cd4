import DeviceConsole.Decimal.Integer
import DeviceConsole.Json.Basic

/-! The dates and times of TOML, checked and kept as text. -/
namespace DeviceConsole.Toml

/-- The field that marks an object as a date. -/
def dateField : String := "$__toml_private_datetime"

/-- A number of exactly so many digits in a range. -/
def fixedDigits? (count low high : Nat) (cs : List Char) : Option Nat := do
  let n ← Decimal.readDigits? cs
  if cs.length = count && low ≤ n && n ≤ high then some n else none

def isLeapYear (y : Nat) : Bool := y % 4 = 0 && (y % 100 ≠ 0 || y % 400 = 0)

def daysInMonth (y m : Nat) : Nat :=
  if m = 2 then (if isLeapYear y then 29 else 28)
  else if m = 4 || m = 6 || m = 9 || m = 11 then 30 else 31

def isDate (cs : List Char) : Bool :=
  match cs.splitOn '-' with
  | [y, m, d] =>
      match fixedDigits? 4 0 9999 y, fixedDigits? 2 1 12 m with
      | some y, some m => (fixedDigits? 2 1 (daysInMonth y m) d).isSome
      | _, _ => false
  | _ => false

/-- Seconds, which may be those of a leap second, and any number of digits after a point. -/
def isSeconds (cs : List Char) : Bool :=
  match cs.splitOn '.' with
  | [s] => (fixedDigits? 2 0 60 s).isSome
  | [s, fraction] => (fixedDigits? 2 0 60 s).isSome && Decimal.isDigits fraction
  | _ => false

def isTime (cs : List Char) : Bool :=
  match cs.splitOn ':' with
  | [h, m, s] => (fixedDigits? 2 0 23 h).isSome && (fixedDigits? 2 0 59 m).isSome && isSeconds s
  | _ => false

/-- Hours and minutes of an offset, after its sign. -/
def isOffset (cs : List Char) : Bool :=
  match cs.splitOn ':' with
  | [h, m] => (fixedDigits? 2 0 24 h).isSome && (fixedDigits? 2 0 59 m).isSome
  | _ => false

/-- A time with an offset, or with none. -/
def isZonedTime (cs : List Char) : Bool :=
  let clock := cs.takeWhile fun c => c.isDigit || c = ':' || c = '.'
  isTime clock &&
    match cs.drop clock.length with
    | [] => true
    | ['Z'] => true
    | ['z'] => true
    | '+' :: offset => isOffset offset
    | '-' :: offset => isOffset offset
    | _ => false

def isDateTime (cs : List Char) : Bool :=
  match cs.drop 10 with
  | [] => isDate cs || isTime cs
  | c :: clock =>
      isTime cs || (isDate (cs.take 10) && (c = 'T' || c = 't' || c = ' ') && isZonedTime clock)

def date? (cs : List Char) : Option Json :=
  if isDateTime cs then some (.obj [(dateField, .str (String.ofList cs))]) else none

end DeviceConsole.Toml
