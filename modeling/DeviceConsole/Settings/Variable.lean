import DeviceConsole.Binary64.Basic
import DeviceConsole.Decimal.Integer
import DeviceConsole.Settings.Layer
import DeviceConsole.Text.Blank

/-! Environment variables as a layer of settings. A name gives the place, with two underscores
between the parts; the text gives a value: a word, a number, a quoted text, an array or a
record. -/
namespace DeviceConsole.Variable

/-! ### Values -/

def isSpace (c : Char) : Bool := c = ' ' || c = '\t'

def skipSpace (cs : List Char) : List Char := cs.dropWhile isSpace

def isSeparator (c : Char) : Bool :=
  c = ',' || c = '\x7b' || c = '\x7d' || c = '[' || c = ']'

def isKeyChar (c : Char) : Bool := c.isAlphanum || c = '_' || c = '-'

/-- What stands before a character, and what stands behind it. -/
def cutAt (p : Char → Bool) (cs : List Char) : List Char × Option (List Char) :=
  match cs.dropWhile fun c => !p c with
  | [] => (cs, none)
  | _ :: rest => (cs.takeWhile fun c => !p c, some rest)

/-- A number with a point; digits may be missing on one side of it. -/
def float? (cs : List Char) : Option Binary64 := do
  let (negative, cs) := match cs with
    | '-' :: cs => (true, cs)
    | '+' :: cs => (false, cs)
    | _ => (false, cs)
  let (mantissa, power) := cutAt (fun c => c = 'e' || c = 'E') cs
  let (whole, fraction) := cutAt (· = '.') mantissa
  let fraction ← fraction
  let significand ← Decimal.readDigits? (whole ++ fraction)
  let power ← match power with
    | none => some 0
    | some cs => Decimal.readInt? cs
  let x := Binary64.ofDecimal significand (max (-5000) (min 5000 power) - fraction.length)
  some (if negative then x.neg else x)

/-- A bare word: a number where it is one, else a text. -/
def word (cs : List Char) : Json :=
  match float? cs with
  | some x => .float x
  | none =>
      match Decimal.readNat? Decimal.maxUInt64 cs with
      | some n => .ofNat n
      | none =>
          match Decimal.readInt64? cs with
          | some n => .int n.toInt
          | none => .str (String.ofList cs)

def hexDigits? (count : Nat) (cs : List Char) : Option (Char × List Char) := do
  let ds := cs.take count
  if ds.length ≠ count || !ds.all (fun c => c.isDigit || ('a' ≤ c.toLower && c.toLower ≤ 'f')) then
    none
  let n := ds.foldl
    (fun n c => 16 * n + if c.isDigit then c.toNat - 48 else c.toLower.toNat - 87) 0
  if n.isValidChar then some (Char.ofNat n, cs.drop count) else none

def escape? : List Char → Option (Char × List Char)
  | 'b' :: cs => some ('\x08', cs)
  | 't' :: cs => some ('\t', cs)
  | 'n' :: cs => some ('\n', cs)
  | 'f' :: cs => some ('\x0c', cs)
  | 'r' :: cs => some ('\r', cs)
  | '"' :: cs => some ('"', cs)
  | '\\' :: cs => some ('\\', cs)
  | 'u' :: cs => hexDigits? 4 cs
  | 'U' :: cs => hexDigits? 8 cs
  | _ => none

/-- A quoted text behind its opening quote. -/
def quoted? : Nat → List Char → Option (List Char × List Char)
  | 0, _ => none
  | _ + 1, [] => none
  | fuel + 1, c :: cs =>
      if c = '"' then some ([], cs)
      else if c = '\\' then do
        let (d, rest) ← escape? cs
        let (text, rest) ← quoted? fuel rest
        some (d :: text, rest)
      else do
        let (text, rest) ← quoted? fuel cs
        some (c :: text, rest)

def key? (cs : List Char) : Option (String × List Char) :=
  match cs with
  | '"' :: cs => do
      let (text, rest) ← quoted? (cs.length + 1) cs
      some (String.ofList text, rest)
  | _ =>
      let name := cs.takeWhile isKeyChar
      if name.isEmpty then none else some (String.ofList name, cs.dropWhile isKeyChar)

mutual

/-- A value and what follows it, the blanks on both sides skipped. -/
def value? : Nat → List Char → Option (Json × List Char)
  | 0, _ => none
  | fuel + 1, cs => do
      let (value, rest) ←
        match skipSpace cs with
        | 't' :: 'r' :: 'u' :: 'e' :: rest => some (Json.bool true, rest)
        | 'f' :: 'a' :: 'l' :: 's' :: 'e' :: rest => some (Json.bool false, rest)
        | '[' :: rest => do
            let (items, rest) ← items? fuel rest
            some (Json.arr items, rest)
        | '\x7b' :: rest => do
            let (fields, rest) ← fields? fuel rest
            some (Json.obj (Json.sortFields fields), rest)
        | '"' :: rest => do
            let (text, rest) ← quoted? (rest.length + 1) rest
            some (Json.str (String.ofList text), rest)
        | '\x27' :: c :: '\x27' :: rest => some (Json.str (String.singleton c), rest)
        | '\x27' :: _ => none
        | cs =>
            some (word (Text.trimChars (cs.takeWhile fun c => !isSeparator c)),
              cs.dropWhile fun c => !isSeparator c)
      some (value, skipSpace rest)

/-- The items of an array and its closing bracket; a comma may stand behind the last. -/
def items? : Nat → List Char → Option (List Json × List Char)
  | 0, _ => none
  | _, ']' :: rest => some ([], rest)
  | fuel + 1, cs => do
      let (item, rest) ← value? fuel cs
      match rest with
      | ',' :: rest => do
          let (items, rest) ← items? fuel rest
          some (item :: items, rest)
      | ']' :: rest => some ([item], rest)
      | _ => none

/-- The fields of a record and its closing brace; a comma may stand behind the last. -/
def fields? : Nat → List Char → Option (List (String × Json) × List Char)
  | 0, _ => none
  | _, '\x7d' :: rest => some ([], rest)
  | fuel + 1, cs => do
      let (key, rest) ← key? (skipSpace cs)
      match skipSpace rest with
      | '=' :: rest => do
          let (value, rest) ← value? fuel rest
          match rest with
          | ',' :: rest => do
              let (fields, rest) ← fields? fuel rest
              some ((key, value) :: fields, rest)
          | '\x7d' :: rest => some ([(key, value)], rest)
          | _ => none
      | _ => none

end

/-- The value of a text. One that does not read as a value is a text as it stands. -/
def value (text : String) : Json :=
  match value? (text.length + 1) text.toList with
  | some (j, []) => j
  | _ => .str text

/-! ### Places -/

/-- What every name starts with, in capital or small letters. -/
def marker : List Char := "nmsops_".toList

/-- Two underscores separate like a point. -/
def separated : List Char → List Char
  | '_' :: '_' :: cs => '.' :: separated cs
  | c :: cs => c :: separated cs
  | [] => []

/-- The place a variable sets, `none` for one that is no setting. The first empty part ends it. -/
def place? (name : String) : Option (List String) :=
  let cs := name.toList.map Char.toLower
  if marker.isPrefixOf cs then
    let parts := (separated (cs.drop marker.length)).splitOn '.'
    match (parts.takeWhile fun p => !p.isEmpty).map String.ofList with
    | [] => none
    | path => some path
  else none

def nested (value : Json) : List String → Json
  | [] => value
  | key :: path => .obj [(key, nested value path)]

/-- Later variables go over earlier ones. -/
def layer (environment : List (String × String)) : Json :=
  environment.foldl
    (fun settings (name, text) =>
      match place? name with
      | none => settings
      | some path => Layer.overlay settings (nested (value text) path))
    (.obj [])

end DeviceConsole.Variable
