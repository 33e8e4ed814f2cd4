/-! Percent-encoding of the bytes of a character, and the sets of characters that are encoded in
the parts of a URL. -/
namespace DeviceConsole.Url

def utf8Bytes (c : Char) : List Nat := (String.singleton c).toUTF8.toList.map UInt8.toNat

/-- Two upper-case hexadecimal digits after a percent sign. -/
def encodeByte (b : Nat) : List Char :=
  ['%', ((b / 16).digitChar).toUpper, ((b % 16).digitChar).toUpper]

def encodeChar (inSet : Char → Bool) (c : Char) : List Char :=
  if inSet c then (utf8Bytes c).flatMap encodeByte else [c]

def encode (inSet : Char → Bool) (cs : List Char) : List Char := cs.flatMap (encodeChar inSet)

/-- Control characters and everything outside ASCII. -/
def inControls (c : Char) : Bool := c.toNat < 0x20 || 0x7F ≤ c.toNat

def inFragment (c : Char) : Bool :=
  inControls c || c = ' ' || c = '"' || c = '<' || c = '>' || c = '\x60'

def inPath (c : Char) : Bool :=
  inFragment c || c = '#' || c = '?' || c = '\x7b' || c = '\x7d'

def inUserinfo (c : Char) : Bool :=
  inPath c || c = '/' || c = ':' || c = ';' || c = '=' || c = '@' || c = '[' || c = '\\' ||
    c = ']' || c = '^' || c = '|'

def inQuery (c : Char) : Bool :=
  inControls c || c = ' ' || c = '"' || c = '#' || c = '<' || c = '>'

/-- In the schemes of the web the single quote is encoded too. -/
def inSpecialQuery (c : Char) : Bool := inQuery c || c = '\x27'

def hexValue? (c : Char) : Option Nat :=
  if c.isDigit then some (c.toNat - 48)
  else if 'a' ≤ c && c ≤ 'f' then some (c.toNat - 87)
  else if 'A' ≤ c && c ≤ 'F' then some (c.toNat - 55)
  else none

/-- The bytes a text stands for; a percent sign without two digits stands for itself. -/
def decodeBytes : List Char → List Nat
  | [] => []
  | '%' :: a :: b :: cs =>
      match hexValue? a, hexValue? b with
      | some x, some y => (16 * x + y) :: decodeBytes cs
      | _, _ => utf8Bytes '%' ++ decodeBytes (a :: b :: cs)
  | c :: cs => utf8Bytes c ++ decodeBytes cs
termination_by cs => cs.length

/-- The text of decoded bytes, if they are UTF-8. -/
def decode? (cs : List Char) : Option (List Char) :=
  (String.fromUTF8? ⟨((decodeBytes cs).map UInt8.ofNat).toArray⟩).map String.toList

end DeviceConsole.Url
