import DeviceConsole.Toml.Date
import DeviceConsole.Toml.Document
import DeviceConsole.Toml.Number
import DeviceConsole.Toml.Strings

/-! Reading TOML text. A reader returns the value and the characters behind it, or nothing where
the text is not TOML. -/
namespace DeviceConsole.Toml

def isSpace (c : Char) : Bool := c = ' ' || c = '\t'

def skipSpace (cs : List Char) : List Char := cs.dropWhile isSpace

/-- The comment, if there is one, and the end of the line or of the text. -/
def endOfLine? (cs : List Char) : Option (List Char) :=
  let rest := match skipSpace cs with
    | '#' :: cs => cs.dropWhile isPlain
    | cs => cs
  match rest with
  | [] => some []
  | rest => newline? rest

/-- Blanks, newlines and comments, as they may stand between the items of an array. -/
def skipLines : Nat → List Char → Option (List Char)
  | 0, cs => some cs
  | fuel + 1, cs =>
      match skipSpace cs with
      | '#' :: cs =>
          match cs.dropWhile isPlain with
          | [] => some []
          | rest => newline? rest >>= skipLines fuel
      | rest =>
          match newline? rest with
          | some rest => skipLines fuel rest
          | none => some rest

/-! ### Keys -/

def isBare (c : Char) : Bool := c.isAlphanum || c = '_' || c = '-'

/-- One part of a key: bare, or a string on one line. -/
def readPart? : List Char → Option (String × List Char)
  | '"' :: cs => do
      let (text, rest) ← readBasic? (cs.length + 1) cs
      some (String.ofList text, rest)
  | '\x27' :: cs => do
      let (text, rest) ← readLiteral? cs
      some (String.ofList text, rest)
  | cs =>
      let part := cs.takeWhile isBare
      if part.isEmpty then none else some (String.ofList part, cs.dropWhile isBare)

/-- The path and the last part of a dotted key. -/
def readKey? : Nat → List Char → Option ((List String × String) × List Char)
  | 0, _ => none
  | fuel + 1, cs => do
      let (part, rest) ← readPart? cs
      match skipSpace rest with
      | '.' :: cs => do
          let ((path, key), rest) ← readKey? fuel (skipSpace cs)
          some ((part :: path, key), rest)
      | rest => some (([], part), rest)

/-! ### Values -/

/-- Characters of a number, a date, a time or a word. -/
def isTokenChar (c : Char) : Bool :=
  c.isAlphanum || c = '+' || c = '-' || c = '_' || c = '.' || c = ':'

/-- The longest run of such characters; a date and the time behind one blank are taken together. -/
def splitToken (cs : List Char) : List Char × List Char :=
  let token := cs.takeWhile isTokenChar
  let rest := cs.dropWhile isTokenChar
  match rest with
  | ' ' :: d :: _ =>
      if isDate token && d.isDigit then
        (token ++ ' ' :: rest.tail.takeWhile isTokenChar, rest.tail.dropWhile isTokenChar)
      else (token, rest)
  | _ => (token, rest)

def token? (cs : List Char) : Option Json :=
  if cs = ['t', 'r', 'u', 'e'] then some (.bool true)
  else if cs = ['f', 'a', 'l', 's', 'e'] then some (.bool false)
  else (number? cs).or (date? cs)

/-- Arrays and inline tables may nest so deep. -/
def depthLimit : Nat := 80

mutual

/-- One value. `fuel` bounds the characters left, `depth` the brackets that may still open. -/
def readValue? : Nat → Nat → List Char → Option (Json × List Char)
  | 0, _, _ => none
  | _ + 1, _, [] => none
  | fuel + 1, depth, c :: cs =>
      if c = '"' || c = '\x27' then do
        let (s, rest) ← readString? (c :: cs)
        some (.str s, rest)
      else if c = '[' then
        if depth = 0 then none
        else do
          let (items, rest) ← readItems? fuel (depth - 1) cs
          some (.arr items, rest)
      else if c = '\x7b' then
        if depth = 0 then none
        else do
          let (fields, rest) ←
            match skipSpace cs with
            | '\x7d' :: rest => some ([], rest)
            | cs => readFields? fuel (depth - 1) cs
          some (← inlineTable? fields, rest)
      else do
        let (token, rest) := splitToken (c :: cs)
        some (← token? token, rest)

/-- The items of an array and its closing bracket. -/
def readItems? : Nat → Nat → List Char → Option (List Json × List Char)
  | 0, _, _ => none
  | fuel + 1, depth, cs => do
      match ← skipLines cs.length cs with
      | ']' :: rest => some ([], rest)
      | cs => do
          let (item, rest) ← readValue? fuel depth cs
          match ← skipLines rest.length rest with
          | ']' :: rest => some ([item], rest)
          | ',' :: rest => do
              let (items, rest) ← readItems? fuel depth rest
              some (item :: items, rest)
          | _ => none

/-- The fields of an inline table, at least one, and its closing brace. -/
def readFields? : Nat → Nat → List Char →
    Option (List (List String × String × Json) × List Char)
  | 0, _, _ => none
  | fuel + 1, depth, cs => do
      let ((path, key), rest) ← readKey? cs.length (skipSpace cs)
      match rest with
      | '=' :: cs => do
          let (value, rest) ← readValue? fuel depth (skipSpace cs)
          match skipSpace rest with
          | '\x7d' :: rest => some ([(path, key, value)], rest)
          | ',' :: rest => do
              let (fields, rest) ← readFields? fuel depth rest
              some ((path, key, value) :: fields, rest)
          | _ => none
      | _ => none

end

/-! ### Statements -/

/-- A header behind its first bracket. -/
def readHeader? (cs : List Char) : Option (Statement × List Char) :=
  match cs with
  | '[' :: cs => do
      let ((path, key), rest) ← readKey? cs.length (skipSpace cs)
      match rest with
      | ']' :: ']' :: rest => some (.openItem path key, rest)
      | _ => none
  | cs => do
      let ((path, key), rest) ← readKey? cs.length (skipSpace cs)
      match rest with
      | ']' :: rest => some (.openTable path key, rest)
      | _ => none

def readAssignment? (cs : List Char) : Option (Statement × List Char) := do
  let ((path, key), rest) ← readKey? cs.length cs
  match rest with
  | '=' :: cs => do
      let (value, rest) ← readValue? (cs.length + 1) depthLimit (skipSpace cs)
      some (.assign path key value, rest)
  | _ => none

/-- The statement of a line, `none` for a blank one, and the lines behind it. -/
def readLine? (cs : List Char) : Option (Option Statement × List Char) :=
  match skipSpace cs with
  | '[' :: cs => do
      let (statement, rest) ← readHeader? cs
      some (some statement, ← endOfLine? rest)
  | cs =>
      match endOfLine? cs with
      | some rest => some (none, rest)
      | none => do
          let (statement, rest) ← readAssignment? cs
          some (some statement, ← endOfLine? rest)

def readStatements? : Nat → List Char → Option (List Statement)
  | _, [] => some []
  | 0, _ => none
  | fuel + 1, cs => do
      let (statement, rest) ← readLine? cs
      let statements ← readStatements? fuel rest
      some (statement.toList ++ statements)

/-- The value of a whole text, which may start with a byte order mark. -/
def parse? (text : String) : Option Json := do
  let cs := match text.toList with
    | '\uFEFF' :: cs => cs
    | cs => cs
  let statements ← readStatements? (cs.length + 1) cs
  (ofStatements? statements).map toJson

end DeviceConsole.Toml
