import DeviceConsole.Address
import DeviceConsole.Json.Decode
import DeviceConsole.Text.Blank

/-! Addresses on the wire: some backends send them packed, others as dotted text. -/
namespace DeviceConsole

inductive WireAddress where
  | packed (n : UInt32)
  | text (s : String)
deriving DecidableEq, Repr

namespace WireAddress

def toJson : WireAddress → Json
  | packed n => .ofNat n.toNat
  | text s => .str s

def ofJson? : Json → Option WireAddress
  | .str s => some (text s)
  | j => j.toUInt32?.map packed

/-- Text is trimmed before it is read. -/
def resolve : WireAddress → Except ConsoleError Address
  | packed n => .ok ⟨n⟩
  | text s => Address.parse (Text.trim s)

end WireAddress
end DeviceConsole
