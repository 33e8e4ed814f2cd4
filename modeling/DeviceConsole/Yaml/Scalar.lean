import DeviceConsole.Binary64.Basic
import DeviceConsole.Decimal.Integer

/-! Texts as YAML scalars: bare where a reader would take the text back, in quotes or as a block of
lines otherwise. -/
namespace DeviceConsole.Yaml

/-! ### Texts that would read as something else -/

def nullWords : List String := ["", "null", "Null", "NULL", "~"]

def truthWords : List String := ["true", "True", "TRUE", "false", "False", "FALSE"]

def specialNumbers : List String :=
  [".inf", ".Inf", ".INF", "-.inf", "-.Inf", "-.INF", "+.inf", "+.Inf", "+.INF",
    ".nan", ".NaN", ".NAN"]

def dropSign (sign : Char → Bool) : List Char → List Char
  | [] => []
  | c :: cs => if sign c then cs else c :: cs

/-- A decimal number with an optional fraction and exponent; one side of the point may be bare. -/
def isDecimal (cs : List Char) : Bool :=
  let isPower (c : Char) : Bool := c = 'e' || c = 'E'
  let mantissa := cs.takeWhile fun c => !isPower c
  let digits := mantissa.filter fun c => c ≠ '.'
  let power := cs.dropWhile fun c => !isPower c
  mantissa.count '.' ≤ 1 && Decimal.isDigits digits &&
    (power.isEmpty || Decimal.isDigits (dropSign (fun c => c = '+' || c = '-') power.tail))

def isDigitOf (base : Nat) (c : Char) : Bool :=
  if base ≤ 10 then '0' ≤ c && c.toNat < 48 + base
  else c.isDigit || ('a' ≤ c && c ≤ 'f') || ('A' ≤ c && c ≤ 'F')

/-- A whole number of another base behind its mark. -/
def isBased (cs : List Char) : Bool :=
  let ofBase (base : Nat) (ds : List Char) : Bool := !ds.isEmpty && ds.all (isDigitOf base)
  match cs with
  | '0' :: 'x' :: ds => ofBase 16 ds
  | '0' :: 'o' :: ds => ofBase 8 ds
  | '0' :: 'b' :: ds => ofBase 2 ds
  | _ => false

def isNumber (s : String) : Bool :=
  let cs := s.toList
  let unsigned := dropSign (fun c => c = '+' || c = '-') cs
  s ∈ specialNumbers || isDecimal unsigned || isBased unsigned

def readsAsOther (s : String) : Bool := s ∈ nullWords || s ∈ truthWords || isNumber s

/-! ### What a text consists of -/

def isBreak (c : Char) : Bool :=
  c = '\n' || c = '\r' || c = '\x85' || c = '\u2028' || c = '\u2029'

def isBlankOrEnd : Option Char → Bool
  | none => true
  | some c => c = ' ' || c = '\t' || isBreak c

/-- Characters that may stand unescaped. -/
def isPrintable (c : Char) : Bool :=
  let n := c.toNat
  n = 0xA || (0x20 ≤ n && n ≤ 0x7E) || (0xA0 ≤ n && n ≤ 0xD7FF) ||
    (0xE000 ≤ n && n ≤ 0xFFFD && n ≠ 0xFEFF)

/-- Whether a character looks like syntax, given its neighbours. -/
def isIndicator (before : Option Char) (c : Char) (after : Option Char) : Bool :=
  match before with
  | none =>
      c ∈ ['#', ',', '[', ']', '\x7b', '\x7d', '&', '*', '!', '|', '>', '\x27', '"', '%', '@',
        '\x60'] || (c ∈ ['?', ':', '-'] && isBlankOrEnd after)
  | some b => (c = ':' && isBlankOrEnd after) || (c = '#' && isBlankOrEnd (some b))

/-- Some place of the text satisfies a test of the character and its neighbours. -/
def anyPlace (p : Option Char → Char → Option Char → Bool) : Option Char → List Char → Bool
  | _, [] => false
  | before, c :: cs => p before c cs.head? || anyPlace p (some c) cs

def isSpaceBefore (p : Char → Bool) (c : Char) (after : Option Char) : Bool :=
  c = ' ' && after.any p

structure Traits where
  /-- A character needs an escape, or blanks would be lost at the end of a line. -/
  escapes : Bool
  /-- A line starts with a blank. -/
  breakSpace : Bool
  /-- The text starts or ends in a blank or a newline. -/
  edges : Bool
  endsInSpace : Bool
  lines : Bool
  indicators : Bool

def isMarker (cs : List Char) : Bool :=
  ['-', '-', '-'].isPrefixOf cs || ['.', '.', '.'].isPrefixOf cs

def traits (cs : List Char) : Traits :=
  let edge (c : Option Char) : Bool := c.any fun c => c = ' ' || isBreak c
  { escapes := cs.any (fun c => !isPrintable c) ||
      anyPlace (fun _ c after => isSpaceBefore isBreak c after) none cs
    breakSpace := anyPlace (fun before c _ => c = ' ' && before.any isBreak) none cs
    edges := edge cs.head? || edge cs.getLast?
    endsInSpace := cs.getLast? = some ' '
    lines := cs.any isBreak
    indicators := isMarker cs || anyPlace isIndicator none cs }

/-! ### Styles -/

inductive Style where
  | plain
  | singleQuoted
  | doubleQuoted
  | block
deriving DecidableEq, Repr

/-- The style of a text; a key has to stay on one line. -/
def style (isKey : Bool) (s : String) : Style :=
  let t := traits s.toList
  let singleAllowed := !t.breakSpace && !t.escapes
  let single := if singleAllowed then Style.singleQuoted else .doubleQuoted
  if isKey && t.lines then .doubleQuoted
  else if s.toList.contains '\n' then
    if isKey || t.endsInSpace || t.escapes then .doubleQuoted else .block
  else if readsAsOther s then single
  else if t.edges || t.breakSpace || t.escapes || t.lines || t.indicators then single
  else .plain

def hexPadded (width n : Nat) : List Char :=
  let ds := (Nat.toDigits 16 n).map Char.toUpper
  List.replicate (width - ds.length) '0' ++ ds

def escapeChar (c : Char) : List Char :=
  match c with
  | '\x00' => ['\\', '0']
  | '\x07' => ['\\', 'a']
  | '\x08' => ['\\', 'b']
  | '\t' => ['\\', 't']
  | '\n' => ['\\', 'n']
  | '\x0b' => ['\\', 'v']
  | '\x0c' => ['\\', 'f']
  | '\r' => ['\\', 'r']
  | '\x1b' => ['\\', 'e']
  | '"' => ['\\', '"']
  | '\\' => ['\\', '\\']
  | '\x85' => ['\\', 'N']
  | '\u2028' => ['\\', 'L']
  | '\u2029' => ['\\', 'P']
  | c =>
      if isPrintable c then [c]
      else if c.toNat ≤ 0xFF then ['\\', 'x'] ++ hexPadded 2 c.toNat
      else if c.toNat ≤ 0xFFFF then ['\\', 'u'] ++ hexPadded 4 c.toNat
      else ['\\', 'U'] ++ hexPadded 8 c.toNat

def doubleQuoted (cs : List Char) : String :=
  String.ofList ('"' :: cs.flatMap escapeChar ++ ['"'])

/-- A quote inside is written twice. -/
def singleQuoted (cs : List Char) : String :=
  String.ofList ('\x27' :: cs.flatMap (fun c => if c = '\x27' then [c, c] else [c]) ++ ['\x27'])

/-- A block of lines: a mark that tells whether the first line is indented and how the text ends,
and the lines, of which empty ones are not indented. -/
def block (indent : String) (cs : List Char) : String :=
  let starts := if cs.head?.any (fun c => c = ' ' || isBreak c) then "2" else ""
  let reversed := cs.reverse
  let ends :=
    if !(reversed.head?.any isBreak) then "-"
    else if reversed.tail.head?.any isBreak || reversed.tail.isEmpty then "+" else ""
  let lines := cs.splitOn '\n'
  let shown := if cs.getLast? = some '\n' then lines.dropLast else lines
  "|" ++ starts ++ ends ++ String.join (shown.map fun l =>
    "\n" ++ if l.isEmpty then "" else indent ++ String.ofList l)

/-- A text in its style; `indent` is that of the lines of a block. -/
def scalar (isKey : Bool) (indent : String) (s : String) : String :=
  match style isKey s with
  | .plain => s
  | .singleQuoted => singleQuoted s.toList
  | .doubleQuoted => doubleQuoted s.toList
  | .block => block indent s.toList

end DeviceConsole.Yaml
