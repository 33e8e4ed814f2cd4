import DeviceConsole.Json.Basic
import DeviceConsole.Binary64.Text

/-! JSON text, on one line or indented by two spaces. -/
namespace DeviceConsole.Json

def hexEscape (c : Char) : List Char :=
  let ds := Nat.toDigits 16 c.toNat
  ['\\', 'u'] ++ List.replicate (4 - ds.length) '0' ++ ds

/-- Only quotes, backslashes and control characters below the space are escaped. -/
def escapeChar (c : Char) : List Char :=
  if c = '"' then ['\\', '"']
  else if c = '\\' then ['\\', '\\']
  else if c = '\n' then ['\\', 'n']
  else if c = '\r' then ['\\', 'r']
  else if c = '\t' then ['\\', 't']
  else if c = '\x08' then ['\\', 'b']
  else if c = '\x0c' then ['\\', 'f']
  else if c.toNat < 0x20 then hexEscape c
  else [c]

def stringText (s : String) : String :=
  String.ofList ('"' :: s.toList.flatMap escapeChar ++ ['"'])

/-- Braces and a separator around printed parts, on one line. -/
def bracket (opening closing : String) (parts : List String) : String :=
  opening ++ ",".intercalate parts ++ closing

def compact : Json → String
  | null => "null"
  | bool b => if b then "true" else "false"
  | int i => toString i
  | float x => x.text
  | str s => stringText s
  | arr items => bracket "[" "]" (compactItems items)
  | obj fields => bracket "\x7b" "\x7d" (compactFields fields)
where
  compactItems : List Json → List String
    | [] => []
    | j :: js => compact j :: compactItems js
  compactFields : List (String × Json) → List String
    | [] => []
    | (k, j) :: fs => (stringText k ++ ":" ++ compact j) :: compactFields fs

/-- Braces around parts that take a line each; without parts, nothing between them. -/
def block (indent : String) (opening closing : String) : List String → String
  | [] => opening ++ closing
  | parts =>
      opening ++ "\n" ++ ",\n".intercalate (parts.map (indent ++ "  " ++ ·)) ++ "\n" ++ indent ++
        closing

def prettyAt (indent : String) : Json → String
  | arr items => block indent "[" "]" (prettyItems (indent ++ "  ") items)
  | obj fields => block indent "\x7b" "\x7d" (prettyFields (indent ++ "  ") fields)
  | leaf => compact leaf
where
  prettyItems (indent : String) : List Json → List String
    | [] => []
    | j :: js => prettyAt indent j :: prettyItems indent js
  prettyFields (indent : String) : List (String × Json) → List String
    | [] => []
    | (k, j) :: fs => (stringText k ++ ": " ++ prettyAt indent j) :: prettyFields indent fs

def pretty (j : Json) : String := prettyAt "" j

end DeviceConsole.Json
