/-! Powers, and integers written in decimal digits. A reader takes the whole text or nothing. -/
namespace DeviceConsole

def twoTo (n : Nat) : Nat := Nat.pow 2 n

def tenTo (n : Nat) : Nat := Nat.pow 10 n

namespace Decimal

/-- A non-empty run of ASCII digits; leading zeros are allowed. -/
def isDigits (cs : List Char) : Bool := !cs.isEmpty && cs.all Char.isDigit

def readDigits? (cs : List Char) : Option Nat :=
  if isDigits cs then some (Nat.ofDigitChars 10 cs 0) else none

/-- A natural number of at most `bound`, with an optional plus sign. -/
def readNat? (bound : Nat) (cs : List Char) : Option Nat := do
  let n ← readDigits? (match cs with | '+' :: ds => ds | _ => cs)
  if n ≤ bound then some n else none

def readInt? : List Char → Option Int
  | '-' :: ds => (readDigits? ds).map fun n => -(n : Int)
  | '+' :: ds => (readDigits? ds).map Int.ofNat
  | ds => (readDigits? ds).map Int.ofNat

def minInt64 : Int := -9223372036854775808

def maxInt64 : Int := 9223372036854775807

def maxUInt64 : Nat := 18446744073709551615

def int64? (i : Int) : Option Int64 :=
  if minInt64 ≤ i ∧ i ≤ maxInt64 then some (Int64.ofInt i) else none

/-- The nearest integer that 64 bits hold. -/
def heldInt64 (i : Int) : Int :=
  if i < minInt64 then minInt64 else if maxInt64 < i then maxInt64 else i

def readInt64? (cs : List Char) : Option Int64 := readInt? cs >>= int64?

def readUInt16? (cs : List Char) : Option UInt16 := (readNat? 65535 cs).map UInt16.ofNat

def readUInt64? (cs : List Char) : Option UInt64 :=
  (readNat? maxUInt64 cs).map UInt64.ofNat

end Decimal
end DeviceConsole
