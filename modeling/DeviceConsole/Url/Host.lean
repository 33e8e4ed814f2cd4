import DeviceConsole.Decimal.Integer
import DeviceConsole.Text.Blank
import DeviceConsole.Text.LowerCase
import DeviceConsole.Text.Unprintable
import DeviceConsole.Url.Percent
import DeviceConsole.Url.Punycode

/-! Hosts of a URL: IPv4 and IPv6 addresses in their canonical text, and domain names in ASCII. -/
namespace DeviceConsole

inductive UrlError where
  | relativeWithoutBase
  | emptyHost
  | invalidDomainName
  | invalidHostCharacter
  | invalidPort
  | invalidIpv4
  | invalidIpv6
  | relativeToOpaque
deriving DecidableEq, Repr

def UrlError.message : UrlError → String
  | relativeWithoutBase => "relative URL without a base"
  | emptyHost => "empty host"
  | invalidDomainName => "invalid international domain name"
  | invalidHostCharacter => "invalid domain character"
  | invalidPort => "invalid port number"
  | invalidIpv4 => "invalid IPv4 address"
  | invalidIpv6 => "invalid IPv6 address"
  | relativeToOpaque => "relative URL with a cannot-be-a-base base"

namespace Url

/-- A number of an IPv4 address: hexadecimal after `0x`, octal after `0`, else decimal. -/
def ipv4Number? (cs : List Char) : Option Nat :=
  let read (base : Nat) (ds : List Char) : Option Nat :=
    (ds.mapM hexValue?).bind fun vs =>
      if vs.all (· < base) then some (vs.foldl (fun n v => base * n + v) 0) else none
  match cs with
  | [] => none
  | ['0'] => some 0
  | '0' :: 'x' :: ds => read 16 ds
  | '0' :: 'X' :: ds => read 16 ds
  | '0' :: ds => read 8 ds
  | ds => read 10 ds

/-- The parts of a dotted name; one empty part at the end does not count. -/
def dottedParts (cs : List Char) : List (List Char) :=
  let parts := cs.splitOn '.'
  if parts.getLast? = some [] then parts.dropLast else parts

/-- Such a name is an IPv4 address or nothing. -/
def endsInNumber (cs : List Char) : Bool :=
  match (dottedParts cs).getLast? with
  | none => false
  | some last => (!last.isEmpty && last.all Char.isDigit) || (ipv4Number? last).isSome

/-- Up to four numbers; the last one fills the octets that are left. -/
def ipv4? (cs : List Char) : Option Nat := do
  let parts := dottedParts cs
  if 4 < parts.length then none
  let numbers ← parts.mapM ipv4Number?
  let last ← numbers.getLast?
  let front := numbers.dropLast
  if front.any (255 < ·) || twoTo (8 * (4 - front.length)) ≤ last then none
  some (front.zipIdx.foldl (fun sum n => sum + n.1 * twoTo (8 * (3 - n.2))) last)

def ipv4Text (n : Nat) : String :=
  ".".intercalate ([n / 16777216, n / 65536 % 256, n / 256 % 256, n % 256].map toString)

def ipv6Piece? (cs : List Char) : Option Nat :=
  if cs.isEmpty || 4 < cs.length then none
  else (cs.mapM hexValue?).map fun vs => vs.foldl (fun n v => 16 * n + v) 0

/-- Four decimal octets without superfluous zeros, as two pieces. -/
def ipv6Tail? (cs : List Char) : Option (List Nat) := do
  let octet (ds : List Char) : Option Nat :=
    if ds.isEmpty || !ds.all Char.isDigit || (1 < ds.length && ds.head? = some '0') then none
    else if Nat.ofDigitChars 10 ds 0 ≤ 255 then some (Nat.ofDigitChars 10 ds 0) else none
  match ← (cs.splitOn '.').mapM octet with
  | [a, b, c, d] => some [256 * a + b, 256 * c + d]
  | _ => none

/-- Pieces between colons; the last may be an IPv4 address. -/
def ipv6Pieces? (cs : List Char) (last : Bool) : Option (List Nat) :=
  if cs.isEmpty then some []
  else
    let parts := cs.splitOn ':'
    match parts.getLast? with
    | none => some []
    | some tail =>
        if last && tail.contains '.' then do
          some ((← parts.dropLast.mapM ipv6Piece?) ++ (← ipv6Tail? tail))
        else parts.mapM ipv6Piece?

/-- The text before and after the first double colon. -/
def splitDouble : List Char → Option (List Char × List Char)
  | ':' :: ':' :: cs => some ([], cs)
  | c :: cs => (splitDouble cs).map fun p => (c :: p.1, p.2)
  | [] => none

/-- Eight pieces, of which a double colon leaves out one or more zeros. -/
def ipv6? (cs : List Char) : Option (List Nat) := do
  match splitDouble cs with
  | none =>
      let pieces ← ipv6Pieces? cs true
      if pieces.length = 8 then some pieces else none
  | some (front, back) =>
      let front ← ipv6Pieces? front false
      let back ← ipv6Pieces? back true
      if front.length + back.length < 8 then
        some (front ++ List.replicate (8 - front.length - back.length) 0 ++ back)
      else none

/-- Start and length of the longest run of at least two zeros, the first of equals. -/
def zeroRun (pieces : List Nat) : Option (Nat × Nat) :=
  let runs := (List.range pieces.length).map fun i => (i, ((pieces.drop i).takeWhile (· = 0)).length)
  runs.foldl (fun best r =>
    if 1 < r.2 && (best.map (·.2)).getD 0 < r.2 then some r else best) none

def ipv6Text (pieces : List Nat) : String :=
  let hex (ps : List Nat) : String :=
    ":".intercalate (ps.map fun p => String.ofList (Nat.toDigits 16 p))
  match zeroRun pieces with
  | none => "[" ++ hex pieces ++ "]"
  | some (start, count) =>
      "[" ++ hex (pieces.take start) ++ "::" ++ hex (pieces.drop (start + count)) ++ "]"

/-- ASCII characters no domain name may hold. -/
def inDomainDeny (c : Char) : Bool :=
  c.toNat ≤ 0x20 || c.toNat = 0x7F || "%#/:<>?@[\\]^|".toList.contains c

/-- A character of a name in its one spelling: lower case, of full width letters the ASCII ones,
of the ideographic full stops the point; joiners and soft hyphens vanish. -/
def domainChar (c : Char) : List Char :=
  let n := c.toNat
  if n = 0xAD || n = 0x200B || n = 0x2060 || n = 0xFEFF || (0xFE00 ≤ n && n ≤ 0xFE0F) then []
  else if n = 0x3002 || n = 0xFF61 then ['.']
  else if 0xFF01 ≤ n && n ≤ 0xFF5E then [Text.lowerChar (Char.ofNat (n - 0xFEE0))]
  else [Text.lowerChar c]

def isAscii (cs : List Char) : Bool := cs.all fun c => c.toNat < 0x80

/-- A label in ASCII. One that claims to be encoded has to decode to more than ASCII. Labels are
not normalized and not checked any further (hyphens, combining marks, directions of writing). -/
def labelAscii? (label : List Char) : Option (List Char) :=
  if isAscii label then
    match label with
    | 'x' :: 'n' :: '-' :: '-' :: rest =>
        match Punycode.decode? rest with
        | some decoded => if isAscii decoded then none else some label
        | none => none
    | _ => some label
  else if label.any fun c =>
      0x80 ≤ c.toNat && (Text.isBlank c || Text.inRanges Text.unprintableRanges c) then none
  else some ("xn--".toList ++ Punycode.encode label)

/-- A domain name in ASCII. Of the mapping that international names go through only `domainChar` is
done, without normal form C, so a name with other characters that are mapped, or with combining
marks, may be refused or spelled in another way by a full reader of such names. -/
def domainAscii? (cs : List Char) : Option (List Char) := do
  let mapped := (← decode? cs).flatMap domainChar
  if mapped.any inDomainDeny then none
  let labels ← (mapped.splitOn '.').mapM labelAscii?
  some (['.'].intercalate labels)

/-- The host of a URL whose scheme belongs to the web. -/
def webHost (cs : List Char) : Except UrlError String :=
  match cs with
  | [] => .error .emptyHost
  | '[' :: rest =>
      if rest.getLast? ≠ some ']' then .error .invalidIpv6
      else match ipv6? rest.dropLast with
        | some pieces => .ok (ipv6Text pieces)
        | none => .error .invalidIpv6
  | _ =>
      match domainAscii? cs with
      | none => .error .invalidDomainName
      | some [] => .error .emptyHost
      | some domain =>
          if endsInNumber domain then
            match ipv4? domain with
            | some n => .ok (ipv4Text n)
            | none => .error .invalidIpv4
          else .ok (String.ofList domain)

/-- The host of any other URL is kept as it is, apart from characters that need encoding. -/
def opaqueHost (cs : List Char) : Except UrlError String :=
  match cs with
  | '[' :: rest =>
      if rest.getLast? ≠ some ']' then .error .invalidIpv6
      else match ipv6? rest.dropLast with
        | some pieces => .ok (ipv6Text pieces)
        | none => .error .invalidIpv6
  | _ =>
      if cs.any fun c => c = '\x00' || " #/:<>?@[\\]^|".toList.contains c then
        .error .invalidHostCharacter
      else .ok (String.ofList (encode inControls cs))

end Url
end DeviceConsole
