import DeviceConsole.Binary64.Basic
import DeviceConsole.Decimal.Integer
import DeviceConsole.Json.Basic

/-! The numbers of TOML: 64-bit integers in four bases and doubles, with underscores between
digits. -/
namespace DeviceConsole.Toml

/-- Digits without their underscores, each of which has to stand between two digits. -/
def digits? (isDigit : Char → Bool) (cs : List Char) : Option (List Char) :=
  let groups := cs.splitOn '_'
  if groups.all fun g => !g.isEmpty && g.all isDigit then some groups.flatten else none

def hexValue (c : Char) : Nat :=
  if c.isDigit then c.toNat - 48 else if 'a' ≤ c then c.toNat - 87 else c.toNat - 55

def isHexDigit (c : Char) : Bool :=
  c.isDigit || ('a' ≤ c && c ≤ 'f') || ('A' ≤ c && c ≤ 'F')

def isDigitBelow (base : Nat) (c : Char) : Bool := isHexDigit c && hexValue c < base

def int? (i : Int) : Option Json := (Decimal.int64? i).map fun n => .int n.toInt

/-- A number of another base after its two marking characters. -/
def basedInteger? (base : Nat) (cs : List Char) : Option Json := do
  let ds ← digits? (isDigitBelow base) cs
  int? (ds.foldl (fun n c => base * n + hexValue c) 0 : Nat)

/-- Decimal digits without a leading zero. -/
def wholeDigits? (cs : List Char) : Option (List Char) := do
  let ds ← digits? Char.isDigit cs
  if ds.head? = some '0' && 1 < ds.length then none else some ds

def splitSign : List Char → Bool × List Char
  | '-' :: cs => (true, cs)
  | '+' :: cs => (false, cs)
  | cs => (false, cs)

def integer? (cs : List Char) : Option Json := do
  let (negative, cs) := splitSign cs
  let n := Nat.ofDigitChars 10 (← wholeDigits? cs) 0
  int? (if negative then -(n : Int) else n)

/-- The part before a character, and the part after it where it occurs. -/
def splitAtChar (p : Char → Bool) (cs : List Char) : List Char × Option (List Char) :=
  let rest := cs.dropWhile fun c => !p c
  (cs.takeWhile fun c => !p c, if rest.isEmpty then none else some rest.tail)

def exponent? (cs : List Char) : Option Int := do
  let (negative, cs) := splitSign cs
  let n := Nat.ofDigitChars 10 (← digits? Char.isDigit cs) 0
  some (if negative then -(n : Int) else n)

/-- Digits with a fraction, an exponent or both. A positive number too large for a double is
refused. -/
def decimalFloat? (negative : Bool) (cs : List Char) : Option Json := do
  let (mantissa, power) := splitAtChar (fun c => c = 'e' || c = 'E') cs
  let (whole, fraction) := splitAtChar (· = '.') mantissa
  if power.isNone && fraction.isNone then none
  let whole ← wholeDigits? whole
  let fraction ← match fraction with
    | some ds => digits? Char.isDigit ds
    | none => some []
  let power ← match power with
    | some cs => exponent? cs
    | none => some 0
  let significand := Nat.ofDigitChars 10 (whole ++ fraction) 0
  let x := Binary64.ofDecimal significand (max (-5000) (min 5000 power) - fraction.length)
  if negative then some (.float x.neg)
  else if x.isFinite then some (.float x) else none

def notANumber : Binary64 := ⟨0x7FF8000000000000⟩

def float? (cs : List Char) : Option Json :=
  let (negative, cs) := splitSign cs
  let signed (x : Binary64) : Json := .float (if negative then x.neg else x)
  if cs = ['i', 'n', 'f'] then some (signed .infinity)
  else if cs = ['n', 'a', 'n'] then some (signed notANumber)
  else decimalFloat? negative cs

def number? : List Char → Option Json
  | '0' :: 'x' :: cs => basedInteger? 16 cs
  | '0' :: 'o' :: cs => basedInteger? 8 cs
  | '0' :: 'b' :: cs => basedInteger? 2 cs
  | cs => (integer? cs).or (float? cs)

end DeviceConsole.Toml
