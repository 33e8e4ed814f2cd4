import DeviceConsole.Binary64.Basic
import DeviceConsole.Decimal.Integer
import DeviceConsole.Json.Basic

/-! Reading JSON text. Reading is strict, and it is told which parts of the text are wanted: the
others only have to be well formed, so a number too large for a double or half a surrogate pair
does no harm there. -/
namespace DeviceConsole.Json

/-- Which parts of a value are wanted. An object may stand for a record, and so may an array of
the fields' values in order. -/
inductive Want where
  | all
  | nothing
  | items (each : Want)
  | record (fields : List (String × Want))
deriving Inhabited

def Want.ofField : Want → String → Want
  | .all, _ => .all
  | .record fields, key => ((fields.find? fun f => f.1 = key).map (·.2)).getD .nothing
  | _, _ => .nothing

/-- What is wanted of the array item at a position. -/
def Want.ofItem : Want → Nat → Want
  | .all, _ => .all
  | .items each, _ => each
  | .record fields, i => (fields[i]?.map (·.2)).getD .all
  | .nothing, _ => .nothing

def Want.isNothing : Want → Bool
  | .nothing => true
  | _ => false

/-- Why a text is not JSON, at the characters left when it was noticed. A fault seen one character
ahead is reported at that character. -/
structure Fault where
  cause : String
  rest : List Char
  ahead : Bool

abbrev Reading (α : Type) := Except Fault (α × List Char)

def failAt {α : Type} (cause : String) (rest : List Char) : Except Fault α :=
  .error ⟨cause, rest, false⟩

def failAhead {α : Type} (cause : String) (rest : List Char) : Except Fault α :=
  .error ⟨cause, rest, true⟩

def isSpace (c : Char) : Bool := c = ' ' || c = '\n' || c = '\t' || c = '\r'

def skipSpace (cs : List Char) : List Char := cs.dropWhile isSpace

/-- The rest of a keyword whose first letter has been read. -/
def readKeyword (value : Json) : List Char → List Char → Reading Json
  | [], cs => .ok (value, cs)
  | _ :: _, [] => failAt "EOF while parsing a value" []
  | k :: ks, c :: cs => if c = k then readKeyword value ks cs else failAt "expected ident" cs

/-- Digits are collected while the significand fits 64 bits. -/
def significandLimit : Nat := Decimal.maxUInt64

/-- Takes digits onto a significand as long as it stays below the limit, counting them. -/
def takeDigits (n count : Nat) : List Char → Nat × Nat × List Char
  | [] => (n, count, [])
  | c :: cs =>
      if c.isDigit && 10 * n + (c.toNat - 48) ≤ significandLimit then
        takeDigits (10 * n + (c.toNat - 48)) (count + 1) cs
      else (n, count, c :: cs)

def signed (positive : Bool) (x : Binary64) : Json := float (if positive then x else x.neg)

/-- A double from its significand and decimal exponent, rounded step by step. -/
def readScaled (wanted positive : Bool) (n : Nat) (e : Int) (cs : List Char) : Reading Json :=
  if !wanted then .ok (null, cs)
  else match (Binary64.ofNat n).scaleTen? e with
    | some x => .ok (signed positive x, cs)
    | none => failAt "number out of range" cs

/-- The exponent after its letter. An exponent beyond 32 bits makes zero or no number at all. -/
def readExponent (wanted positive : Bool) (n : Nat) (e : Int) (cs : List Char) : Reading Json :=
  let (negative, cs) := match cs with
    | '-' :: cs => (true, cs)
    | '+' :: cs => (false, cs)
    | _ => (false, cs)
  match cs with
  | [] => failAt "EOF while parsing a value" []
  | c :: rest =>
      if !c.isDigit then failAt "invalid number" rest
      else
        let ds := cs.takeWhile Char.isDigit
        let rest := cs.dropWhile Char.isDigit
        let k := Nat.ofDigitChars 10 ds 0
        if 2147483647 < k then
          if n ≠ 0 && !negative && wanted then failAt "number out of range" rest
          else .ok (signed positive .zero, rest)
        else readScaled wanted positive n (if negative then e - k else e + k) rest

/-- What follows the digits of a fraction or of a long integer. -/
def readScale (wanted positive : Bool) (n : Nat) (e : Int) : List Char → Reading Json
  | 'e' :: cs => readExponent wanted positive n e cs
  | 'E' :: cs => readExponent wanted positive n e cs
  | cs => readScaled wanted positive n e cs

/-- The fraction after its point. Digits beyond the limit of the significand are dropped. -/
def readFraction (wanted positive : Bool) (n : Nat) (e : Int) (cs : List Char) : Reading Json :=
  let (n', count, rest) := takeDigits n 0 cs
  match rest with
  | c :: _ =>
      if c.isDigit then
        readScale wanted positive n' (e - count) (rest.dropWhile Char.isDigit)
      else if count = 0 then failAhead "invalid number" rest
      else readScale wanted positive n' (e - count) rest
  | [] =>
      if count = 0 then failAhead "EOF while parsing a value" []
      else readScale wanted positive n' (e - count) []

/-- What follows the digits of an integer that fits 64 bits. Minus zero is a double, and so is an
integer below the smallest 64-bit one. -/
def readAfterInteger (wanted positive : Bool) (n : Nat) : List Char → Reading Json
  | '.' :: cs => readFraction wanted positive n 0 cs
  | 'e' :: cs => readExponent wanted positive n 0 cs
  | 'E' :: cs => readExponent wanted positive n 0 cs
  | cs =>
      if positive then .ok (int n, cs)
      else if n = 0 || twoTo 63 < n then .ok (signed false (Binary64.ofNat n), cs)
      else .ok (int (-(n : Int)), cs)

def readNumber (wanted positive : Bool) : List Char → Reading Json
  | [] => failAt "EOF while parsing a value" []
  | '0' :: cs =>
      match cs with
      | c :: _ =>
          if c.isDigit then failAhead "invalid number" cs
          else readAfterInteger wanted positive 0 cs
      | [] => readAfterInteger wanted positive 0 []
  | c :: cs =>
      if !c.isDigit then failAt "invalid number" cs
      else
        let (n, _, rest) := takeDigits (c.toNat - 48) 0 cs
        match rest with
        | d :: _ =>
            if d.isDigit then
              let dropped := rest.takeWhile Char.isDigit
              match rest.dropWhile Char.isDigit with
              | '.' :: rest => readFraction wanted positive n dropped.length rest
              | rest => readScale wanted positive n dropped.length rest
            else readAfterInteger wanted positive n rest
        | [] => readAfterInteger wanted positive n []

def hexDigit? (c : Char) : Option Nat :=
  if c.isDigit then some (c.toNat - 48)
  else if 'a' ≤ c && c ≤ 'f' then some (c.toNat - 87)
  else if 'A' ≤ c && c ≤ 'F' then some (c.toNat - 55)
  else none

def readHex4 : List Char → Except Fault (Nat × List Char)
  | a :: b :: c :: d :: cs =>
      match hexDigit? a, hexDigit? b, hexDigit? c, hexDigit? d with
      | some a, some b, some c, some d => .ok (((a * 16 + b) * 16 + c) * 16 + d, cs)
      | _, _, _, _ => failAt "invalid escape" cs
  | _ => failAt "EOF while parsing a string" []

/-- The code point of a `\u` escape; a leading surrogate takes the escape after it too. -/
def readCode (wanted : Bool) (cs : List Char) : Except Fault (Char × List Char) := do
  let (n, cs) ← readHex4 cs
  if !wanted then return ('?', cs)
  if n < 0xD800 || 0xE000 ≤ n then return (Char.ofNat n, cs)
  if 0xDC00 ≤ n then failAt "lone leading surrogate in hex escape" cs
  match cs with
  | [] => failAt "EOF while parsing a string" []
  | '\\' :: cs =>
      match cs with
      | [] => failAt "EOF while parsing a string" []
      | 'u' :: cs =>
          let (m, cs) ← readHex4 cs
          if m < 0xDC00 || 0xDFFF < m then failAt "lone leading surrogate in hex escape" cs
          else return (Char.ofNat (0x10000 + (n - 0xD800) * 0x400 + (m - 0xDC00)), cs)
      | _ :: cs => failAt "unexpected end of hex escape" cs
  | _ :: cs => failAt "unexpected end of hex escape" cs

def simpleEscape? : Char → Option Char
  | '"' => some '"'
  | '\\' => some '\\'
  | '/' => some '/'
  | 'b' => some '\x08'
  | 'f' => some '\x0c'
  | 'n' => some '\n'
  | 'r' => some '\r'
  | 't' => some '\t'
  | _ => none

/-- The characters of a string up to its closing quote, in reverse. -/
def readStringAux (wanted : Bool) : Nat → List Char → List Char → Except Fault (List Char × List Char)
  | 0, _, cs => failAt "EOF while parsing a string" cs
  | _ + 1, _, [] => failAt "EOF while parsing a string" []
  | fuel + 1, acc, c :: cs =>
      if c = '"' then .ok (acc, cs)
      else if c.toNat < 0x20 then
        failAt "control character (\\u0000-\\u001F) found while parsing a string" cs
      else if c ≠ '\\' then readStringAux wanted fuel (c :: acc) cs
      else match cs with
        | [] => failAt "EOF while parsing a string" []
        | 'u' :: cs => do
            let (d, cs) ← readCode wanted cs
            readStringAux wanted fuel (d :: acc) cs
        | e :: cs =>
            match simpleEscape? e with
            | some d => readStringAux wanted fuel (d :: acc) cs
            | none => failAt "invalid escape" cs

/-- A string whose opening quote has been read. -/
def readString (wanted : Bool) (cs : List Char) : Except Fault (String × List Char) := do
  let (reversed, rest) ← readStringAux wanted (cs.length + 1) [] cs
  return (String.ofList reversed.reverse, rest)

/-- Containers may nest 127 deep where they are wanted. -/
def depthLimit : Nat := 127

mutual

/-- One value. `fuel` bounds the characters left, `depth` the containers that may still open. -/
def readValue : Nat → Nat → Want → List Char → Except Fault (Json × List Char)
  | 0, _, _, cs => failAhead "EOF while parsing a value" cs
  | fuel + 1, depth, want, cs =>
      match skipSpace cs with
      | [] => failAhead "EOF while parsing a value" []
      | c :: cs =>
          let wanted := !want.isNothing
          if c = 'n' then readKeyword null ['u', 'l', 'l'] cs
          else if c = 't' then readKeyword (bool true) ['r', 'u', 'e'] cs
          else if c = 'f' then readKeyword (bool false) ['a', 'l', 's', 'e'] cs
          else if c = '-' then readNumber wanted false cs
          else if c.isDigit then readNumber wanted true (c :: cs)
          else if c = '"' then do
            let (s, cs) ← readString wanted cs
            return (str s, cs)
          else if c = '[' then
            if wanted && depth = 0 then failAhead "recursion limit exceeded" (c :: cs)
            else do
              let (items, cs) ← readItems fuel (depth - 1) want 0 cs
              return (arr items, cs)
          else if c = '\x7b' then
            if wanted && depth = 0 then failAhead "recursion limit exceeded" (c :: cs)
            else do
              let (fields, cs) ← readFields fuel (depth - 1) want true cs
              return (obj fields, cs)
          else failAhead "expected value" (c :: cs)

/-- The items of an array from the one at position `i`, and the closing bracket. -/
def readItems : Nat → Nat → Want → Nat → List Char → Except Fault (List Json × List Char)
  | 0, _, _, _, cs => failAhead "EOF while parsing a list" cs
  | fuel + 1, depth, want, i, cs =>
      match skipSpace cs with
      | [] => failAhead "EOF while parsing a list" []
      | ']' :: cs => .ok ([], cs)
      | c :: cs => do
          let start ←
            if i = 0 then pure (c :: cs)
            else if c = ',' then
              match skipSpace cs with
              | [] => failAhead "EOF while parsing a value" []
              | ']' :: cs => failAhead "trailing comma" (']' :: cs)
              | cs => pure cs
            else failAhead "expected \x60,\x60 or \x60]\x60" (c :: cs)
          let (item, rest) ← readValue fuel depth (want.ofItem i) start
          let (items, rest) ← readItems fuel depth want (i + 1) rest
          return (item :: items, rest)

/-- The fields of an object, and the closing brace. -/
def readFields : Nat → Nat → Want → Bool → List Char →
    Except Fault (List (String × Json) × List Char)
  | 0, _, _, _, cs => failAhead "EOF while parsing an object" cs
  | fuel + 1, depth, want, first, cs =>
      match skipSpace cs with
      | [] => failAhead "EOF while parsing an object" []
      | '\x7d' :: cs => .ok ([], cs)
      | c :: cs => do
          let start ←
            if first then pure (c :: cs)
            else if c = ',' then
              match skipSpace cs with
              | [] => failAhead "EOF while parsing a value" []
              | '\x7d' :: cs => failAhead "trailing comma" ('\x7d' :: cs)
              | cs => pure cs
            else failAhead "expected \x60,\x60 or \x60\x7d\x60" (c :: cs)
          let afterQuote ← match start with
            | '"' :: cs => pure cs
            | cs => failAhead "key must be a string" cs
          let (key, rest) ← readString (!want.isNothing) afterQuote
          let afterColon ← match skipSpace rest with
            | [] => failAhead "EOF while parsing an object" []
            | ':' :: cs => pure cs
            | cs => failAhead "expected \x60:\x60" cs
          let (value, rest) ← readValue fuel depth (want.ofField key) afterColon
          let (fields, rest) ← readFields fuel depth want false rest
          return ((key, value) :: fields, rest)

end

/-- Line and column of a fault, the column counted in bytes. -/
def Fault.position (text : List Char) (f : Fault) : Nat × Nat :=
  let consumed := text.take (text.length - f.rest.length)
  let lineStart := consumed.reverse.takeWhile (· ≠ '\n')
  let line := 1 + consumed.count '\n'
  let column := lineStart.foldl (fun n c => n + c.utf8Size) 0
  match f.ahead, f.rest with
  | true, '\n' :: _ => (line + 1, 0)
  | true, _ :: _ => (line, column + 1)
  | _, _ => (line, column)

def Fault.message (text : List Char) (f : Fault) : String :=
  let (line, column) := f.position text
  s!"{f.cause} at line {line} column {column}"

/-- The one value of a text, in the order it is written. -/
def readChars (want : Want) (cs : List Char) : Except Fault Json := do
  let (value, rest) ← readValue (cs.length + 1) depthLimit want cs
  match skipSpace rest with
  | [] => return value
  | rest => failAhead "trailing characters" rest

def read (want : Want) (text : String) : Except String Json :=
  (readChars want text.toList).mapError (Fault.message text.toList)

/-- The value of a whole text, as a value: fields sorted, of repeated keys the last. -/
def parse (text : String) : Except String Json := (read .all text).map canonical

end DeviceConsole.Json
