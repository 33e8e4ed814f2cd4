import DeviceConsole.Address

/-! Address blocks `a.b.c.d/n`. The address is kept as entered; the block is all addresses that
share its top `n` bits. -/
namespace DeviceConsole

structure Cidr where
  address : Address
  bits : Nat
  bits_le : bits ≤ 32
deriving DecidableEq, Repr

namespace Cidr

def size (b : Cidr) : Nat := twoTo (32 - b.bits)

/-- The first address: the bits below the top `n` cleared. -/
def network (b : Cidr) : Address := .ofNat (b.address.toNat / b.size * b.size)

/-- The last address: the bits below the top `n` set. -/
def broadcast (b : Cidr) : Address := .ofNat (b.address.toNat / b.size * b.size + (b.size - 1))

def contains (b : Cidr) (a : Address) : Bool := a.toNat / b.size = b.address.toNat / b.size

def text (b : Cidr) : String := s!"{b.address}/{b.bits}"

instance : ToString Cidr := ⟨text⟩

/-- An address, the first slash, and a run of digits of value at most 32. -/
def ofChars? (cs : List Char) : Option Cidr :=
  match cs.dropWhile (· ≠ '/') with
  | [] => none
  | _ :: digits => do
      let address ← Address.ofChars? (cs.takeWhile (· ≠ '/'))
      let bits ← Decimal.readDigits? digits
      if h : bits ≤ 32 then some ⟨address, bits, h⟩ else none

def parse (s : String) : Except ConsoleError Cidr :=
  match ofChars? s.toList with
  | some b => .ok b
  | none => .error (.invalidCidr s)

/-- Every address of the block, first to last. -/
def addresses (b : Cidr) : List Address :=
  (List.range b.size).map fun i => .ofNat (b.address.toNat / b.size * b.size + i)

/-- Refuses a block that holds more than `ceiling` addresses. -/
def expand (b : Cidr) (ceiling : Nat) : Except ConsoleError (List Address) :=
  if ceiling < b.size then .error (.tooManyTargets b.size ceiling) else .ok b.addresses

end Cidr
end DeviceConsole
