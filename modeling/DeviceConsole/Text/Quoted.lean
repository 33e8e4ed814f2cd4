import DeviceConsole.Text.Blank
import DeviceConsole.Text.Unprintable
import DeviceConsole.Text.Combining

/-! Quoted text for messages: double quotes around, and every character that could not be told
apart on a terminal written as an escape. -/
namespace DeviceConsole.Text

/-- A code point in lower-case hexadecimal, without leading zeros. -/
def codeEscape (c : Char) : List Char :=
  ['\\', 'u', '{'] ++ Nat.toDigits 16 c.toNat ++ ['}']

/-- The single quote stays as it is: only the enclosing quote needs an escape. -/
def quoteChar (c : Char) : List Char :=
  if c = '"' then ['\\', '"']
  else if c = '\\' then ['\\', '\\']
  else if c = '\n' then ['\\', 'n']
  else if c = '\r' then ['\\', 'r']
  else if c = '\t' then ['\\', 't']
  else if c = '\x00' then ['\\', '0']
  else if 0x20 ≤ c.toNat && c.toNat < 0x7F then [c]
  else if inRanges combiningRanges c || inRanges unprintableRanges c then codeEscape c
  else [c]

def quote (s : String) : String :=
  String.ofList ('"' :: s.toList.flatMap quoteChar ++ ['"'])

end DeviceConsole.Text
