import DeviceConsole.Address.Set

/-! The devices ticked for a bulk provisioning update. -/
namespace DeviceConsole

structure Selection where
  selected : AddressSet := .empty
deriving DecidableEq, Inhabited

namespace Selection

def empty : Selection := {}

def contains (s : Selection) (a : Address) : Bool := s.selected.contains a

def size (s : Selection) : Nat := s.selected.size

def isEmpty (s : Selection) : Bool := s.selected.isEmpty

def toggle (s : Selection) (a : Address) : Selection :=
  ⟨if s.contains a then s.selected.erase a else s.selected.insert a⟩

/-- The answer to a toggle, whether the address is ticked then, and the selection. -/
def toggled (s : Selection) (a : Address) : Bool × Selection := (!s.contains a, s.toggle a)

def selectAll (devices : List Address) : Selection := ⟨.ofList devices⟩

/-- As many devices are selected as the table has rows; never so for an empty table. -/
def isAll (s : Selection) (total : Nat) : Bool := 0 < total && s.size = total

def isPartial (s : Selection) (total : Nat) : Bool := !s.isEmpty && s.size < total

/-- The checkbox above the table: clears a full selection, otherwise selects the whole table. -/
def toggleAll (s : Selection) (devices : List Address) : Selection :=
  if s.isAll devices.length then empty else selectAll devices

/-- The addresses to send, ascending. -/
def request (s : Selection) : Except ConsoleError (List Address) :=
  if s.isEmpty then .error .nothingSelected else .ok s.selected.elems

end Selection
end DeviceConsole
