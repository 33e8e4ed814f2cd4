import DeviceConsole.Text.Blank
import DeviceConsole.Address.Set
import DeviceConsole.Cidr

/-! Discovery targets: the text an operator types, split by input mode, and the addresses or the
block it denotes. -/
namespace DeviceConsole

inductive TargetMode where
  | list
  | cidr
deriving DecidableEq, Repr, Inhabited

namespace TargetMode

def text : TargetMode → String
  | list => "list"
  | cidr => "cidr"

def ofText? (s : String) : Option TargetMode :=
  [list, cidr].find? fun m => m.text = s

end TargetMode

/-- Target text split by its mode, not yet validated. -/
inductive TargetSpec where
  | list (tokens : List String)
  | block (text : String)
deriving DecidableEq, Repr

/-- Validated targets. A block stays compact until it is expanded. -/
inductive Targets where
  | addresses (set : AddressSet)
  | block (cidr : Cidr)
deriving DecidableEq

namespace Targets

def isCidr : Targets → Bool
  | addresses _ => false
  | block _ => true

def size : Targets → Nat
  | addresses set => set.size
  | block cidr => cidr.size

def contains (a : Address) : Targets → Bool
  | addresses set => set.contains a
  | block cidr => cidr.contains a

/-- Only a block can exceed the ceiling: a list is already spelled out. -/
def expand (ceiling : Nat) : Targets → Except ConsoleError AddressSet
  | addresses set => .ok set
  | block cidr => (cidr.expand ceiling).map AddressSet.ofList

def text : Targets → String
  | addresses set => set.text
  | block cidr => cidr.text

end Targets

namespace TargetSpec

/-- The parts between commas, trimmed; blank parts are dropped. -/
def tokens (text : String) : List String :=
  ((text.toList.splitOn ',').map Text.trimChars).filterMap fun cs =>
    if cs.isEmpty then none else some (String.ofList cs)

def ofInput (mode : TargetMode) (text : String) : TargetSpec :=
  match mode with
  | .list => list (tokens text)
  | .cidr => block (Text.trim text)

/-- A list reports every token that is no address, in input order. -/
def resolve : TargetSpec → Except ConsoleError Targets
  | list tokens =>
      let invalid := tokens.filter fun t => (Address.ofText? t).isNone
      if invalid.isEmpty then .ok (.addresses (.ofList (tokens.filterMap Address.ofText?)))
      else .error (.invalidAddresses invalid)
  | block text => (Cidr.parse text).map .block

end TargetSpec
end DeviceConsole
