import DeviceConsole.ConsoleError
import DeviceConsole.Decimal.Integer

/-! IPv4 addresses: packed into 32 bits with the first octet on top, written as four decimal
octets joined by points. -/
namespace DeviceConsole

structure Address where
  packed : UInt32
deriving DecidableEq, Repr, Inhabited

namespace Address

instance : LT Address := ⟨fun a b => a.packed < b.packed⟩
instance : LE Address := ⟨fun a b => a.packed ≤ b.packed⟩
instance (a b : Address) : Decidable (a < b) := inferInstanceAs (Decidable (a.packed < b.packed))
instance (a b : Address) : Decidable (a ≤ b) := inferInstanceAs (Decidable (a.packed ≤ b.packed))

def ofNat (n : Nat) : Address := ⟨UInt32.ofNat n⟩

def toNat (a : Address) : Nat := a.packed.toNat

def octets (a : Address) : List Nat :=
  [a.toNat / 16777216, a.toNat / 65536 % 256, a.toNat / 256 % 256, a.toNat % 256]

def text (a : Address) : String := ".".intercalate (a.octets.map toString)

instance : ToString Address := ⟨text⟩

def packedText (a : Address) : String := toString a.toNat

/-- A non-empty run of digits of value at most 255; leading zeros are allowed. -/
def readOctet? (cs : List Char) : Option Nat := do
  let n ← Decimal.readDigits? cs
  if n ≤ 255 then some n else none

def ofOctets (a b c d : Nat) : Address := ofNat (((a * 256 + b) * 256 + c) * 256 + d)

/-- Exactly four octets with a point between neighbours, nothing around them. -/
def ofChars? (cs : List Char) : Option Address :=
  match cs.splitOn '.' with
  | [a, b, c, d] => do
      some (ofOctets (← readOctet? a) (← readOctet? b) (← readOctet? c) (← readOctet? d))
  | _ => none

def ofText? (s : String) : Option Address := ofChars? s.toList

/-- A text that is no address is reported as it stands. -/
def parse (s : String) : Except ConsoleError Address :=
  match ofText? s with
  | some a => .ok a
  | none => .error (.invalidAddresses [s])

end Address
end DeviceConsole
