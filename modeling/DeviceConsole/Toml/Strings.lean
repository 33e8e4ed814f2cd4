import DeviceConsole.Json.Printer

/-! The four kinds of TOML strings. A reader starts behind the opening quotes and returns the text
and what follows the closing ones. Written are only those in double quotes, on one line. -/
namespace DeviceConsole.Toml

/-- Characters that may stand in a comment: no control character but the tab. -/
def isPlain (c : Char) : Bool := c = '\t' || (0x20 ≤ c.toNat && c.toNat ≠ 0x7F)

def hexNibble? (c : Char) : Option Nat :=
  if c.isDigit then some (c.toNat - 48)
  else if 'a' ≤ c && c ≤ 'f' then some (c.toNat - 87)
  else if 'A' ≤ c && c ≤ 'F' then some (c.toNat - 55)
  else none

/-- A number of exactly `count` hexadecimal digits. -/
def readHex? : Nat → Nat → List Char → Option (Nat × List Char)
  | 0, n, cs => some (n, cs)
  | _ + 1, _, [] => none
  | count + 1, n, c :: cs => do readHex? count (16 * n + (← hexNibble? c)) cs

/-- The code point of an escape with so many digits. Surrogates are none. -/
def readCode? (count : Nat) (cs : List Char) : Option (Char × List Char) := do
  let (n, rest) ← readHex? count 0 cs
  if n.isValidChar then some (Char.ofNat n, rest) else none

def readEscape? : List Char → Option (Char × List Char)
  | 'b' :: cs => some ('\x08', cs)
  | 't' :: cs => some ('\t', cs)
  | 'n' :: cs => some ('\n', cs)
  | 'f' :: cs => some ('\x0c', cs)
  | 'r' :: cs => some ('\r', cs)
  | '"' :: cs => some ('"', cs)
  | '\\' :: cs => some ('\\', cs)
  | 'u' :: cs => readCode? 4 cs
  | 'U' :: cs => readCode? 8 cs
  | _ => none

def readBasic? : Nat → List Char → Option (List Char × List Char)
  | 0, _ => none
  | _ + 1, [] => none
  | fuel + 1, c :: cs =>
      if c = '"' then some ([], cs)
      else if c = '\\' then do
        let (d, rest) ← readEscape? cs
        let (text, rest) ← readBasic? fuel rest
        some (d :: text, rest)
      else if isPlain c then do
        let (text, rest) ← readBasic? fuel cs
        some (c :: text, rest)
      else none

/-- A string in single quotes, without escapes. -/
def readLiteral? : List Char → Option (List Char × List Char)
  | [] => none
  | c :: cs =>
      if c = '\x27' then some ([], cs)
      else if isPlain c then do
        let (text, rest) ← readLiteral? cs
        some (c :: text, rest)
      else none

/-- A newline is a line feed, alone or behind a carriage return. -/
def newline? : List Char → Option (List Char)
  | '\n' :: cs => some cs
  | '\r' :: '\n' :: cs => some cs
  | _ => none

/-- A newline right behind the opening quotes of a long string does not belong to it. -/
def skipNewline (cs : List Char) : List Char := (newline? cs).getD cs

/-- The end of a long string at a run of its quotes: three close it, and up to two more before
them belong to it. `none` where the run is too short. -/
def closing? (quote : Char) (cs : List Char) : Option (List Char × List Char) :=
  let run := (cs.takeWhile (· = quote)).length
  if run < 3 then none
  else
    let inside := min (run - 3) 2
    some (List.replicate inside quote, cs.drop (inside + 3))

/-- Behind a backslash at the end of a line, blanks and newlines up to the next visible character
are skipped. -/
def lineContinuation? (cs : List Char) : Option (List Char) := do
  let rest ← newline? (cs.dropWhile fun c => c = ' ' || c = '\t')
  some (rest.dropWhile fun c => c = ' ' || c = '\t' || c = '\n' || c = '\r')

def readLongBasic? : Nat → List Char → Option (List Char × List Char)
  | 0, _ => none
  | _ + 1, [] => none
  | fuel + 1, c :: cs =>
      if c = '"' then
        match closing? '"' (c :: cs) with
        | some result => some result
        | none => do
            let (text, rest) ← readLongBasic? fuel cs
            some ('"' :: text, rest)
      else if c = '\\' then
        match lineContinuation? cs with
        | some rest => readLongBasic? fuel rest
        | none => do
            let (d, rest) ← readEscape? cs
            let (text, rest) ← readLongBasic? fuel rest
            some (d :: text, rest)
      else match newline? (c :: cs) with
        | some rest => do
            let (text, rest) ← readLongBasic? fuel rest
            some ('\n' :: text, rest)
        | none =>
            if isPlain c then do
              let (text, rest) ← readLongBasic? fuel cs
              some (c :: text, rest)
            else none

def readLongLiteral? : Nat → List Char → Option (List Char × List Char)
  | 0, _ => none
  | _ + 1, [] => none
  | fuel + 1, c :: cs =>
      if c = '\x27' then
        match closing? '\x27' (c :: cs) with
        | some result => some result
        | none => do
            let (text, rest) ← readLongLiteral? fuel cs
            some ('\x27' :: text, rest)
      else match newline? (c :: cs) with
        | some rest => do
            let (text, rest) ← readLongLiteral? fuel rest
            some ('\n' :: text, rest)
        | none =>
            if isPlain c then do
              let (text, rest) ← readLongLiteral? fuel cs
              some (c :: text, rest)
            else none

/-- A string of any kind, from its opening quotes on. -/
def readString? (cs : List Char) : Option (String × List Char) := do
  let (text, rest) ← match cs with
    | '"' :: '"' :: '"' :: cs => readLongBasic? (cs.length + 1) (skipNewline cs)
    | '"' :: cs => readBasic? (cs.length + 1) cs
    | '\x27' :: '\x27' :: '\x27' :: cs => readLongLiteral? (cs.length + 1) (skipNewline cs)
    | '\x27' :: cs => readLiteral? cs
    | _ => none
  some (String.ofList text, rest)

/-! ### Writing -/

/-- Quotes, backslashes and control characters are escaped. -/
def escapeChar (c : Char) : List Char :=
  if c = '"' then ['\\', '"']
  else if c = '\\' then ['\\', '\\']
  else if c.toNat < 0x20 || c.toNat = 0x7F then Json.hexEscape c
  else [c]

def quote (s : String) : String :=
  String.ofList ('"' :: s.toList.flatMap escapeChar ++ ['"'])

end DeviceConsole.Toml
