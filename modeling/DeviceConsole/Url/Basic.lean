import DeviceConsole.Url.Host

/-! URLs: reading a text into its parts, writing the parts, and requests relative to a base. -/
namespace DeviceConsole

/-- The parts of a URL, each in the form it is written in. Without an authority there is no host,
and a path that does not start with a slash is opaque. -/
structure Url where
  scheme : String
  userinfo : String := ""
  host : Option String := none
  port : Option Nat := none
  path : String
  query : Option String := none
  fragment : Option String := none
deriving DecidableEq, Repr

namespace Url

def defaultPort? (scheme : String) : Option Nat :=
  match scheme with
  | "http" | "ws" => some 80
  | "https" | "wss" => some 443
  | "ftp" => some 21
  | _ => none

def isFile (scheme : String) : Bool := scheme = "file"

/-- The schemes of the web, whose paths are hierarchical and whose backslashes are slashes. -/
def isSpecial (scheme : String) : Bool := (defaultPort? scheme).isSome || isFile scheme

def hasAuthority (u : Url) : Bool := u.host.isSome || isFile u.scheme

def isOpaque (u : Url) : Bool := !u.hasAuthority && u.path.toList.head? ≠ some '/'

def authorityText (u : Url) : String :=
  (if u.userinfo.isEmpty then "" else u.userinfo ++ "@") ++ u.host.getD "" ++
    (match u.port with | some n => s!":{n}" | none => "")

/-- A path of two leading slashes would read as an authority; a dot segment keeps them apart. -/
def text (u : Url) : String :=
  u.scheme ++ ":" ++
    (if u.hasAuthority then "//" ++ u.authorityText
     else if u.path.toList.take 2 = ['/', '/'] then "/." else "") ++
    u.path ++ (match u.query with | some q => "?" ++ q | none => "") ++
    (match u.fragment with | some f => "#" ++ f | none => "")

instance : ToString Url := ⟨text⟩

/-! ### Paths -/

def isSlash (special : Bool) (c : Char) : Bool := c = '/' || (special && c = '\\')

def isDot (segment : List Char) : Bool :=
  segment = ['.'] || segment.map Char.toLower = "%2e".toList

def isDoubleDot (segment : List Char) : Bool :=
  ["..", "%2e.", ".%2e", "%2e%2e"].contains (String.ofList (segment.map Char.toLower))

/-- A letter and a colon. Such a segment is never removed. -/
def isDrive : List Char → Bool
  | [c, d] => c.isAlpha && (d = ':' || d = '|')
  | _ => false

/-- Removes the last segment, given in reverse order. -/
def popSegment : List (List Char) → List (List Char)
  | [] => []
  | s :: rest => if isDrive s then s :: rest else rest

/-- Segments without dots: a single dot adds nothing, a double dot takes the last segment away.
Either one at the end leaves an empty segment. -/
def resolveDots (done : List (List Char)) : List (List Char) → List (List Char)
  | [] => done.reverse
  | [s] =>
      if isDoubleDot s then ([] :: popSegment done).reverse
      else if isDot s then ([] :: done).reverse
      else (encode inPath s :: done).reverse
  | s :: rest =>
      if isDoubleDot s then resolveDots (popSegment done) rest
      else if isDot s then resolveDots done rest
      else resolveDots (encode inPath s :: done) rest

/-- The path of the text after its first slash. -/
def absolutePath (special : Bool) (cs : List Char) : String :=
  let segments := resolveDots [] ((cs.splitOnP (isSlash special)))
  String.ofList ('/' :: ['/'].intercalate segments)

/-- The path that follows an authority; only outside the web may it be empty. -/
def pathAfterAuthority (special : Bool) (cs : List Char) : String :=
  match cs with
  | [] => if special then "/" else ""
  | c :: rest => if isSlash special c then absolutePath special rest else absolutePath special cs

def opaquePath (cs : List Char) : String := String.ofList (encode inControls cs)

/-! ### Reading -/

/-- The part before the fragment, split at the first question mark, and the fragment. -/
def splitTail (cs : List Char) : List Char × Option (List Char) × Option (List Char) :=
  let front := cs.takeWhile (· ≠ '#')
  let fragment := match cs.dropWhile (· ≠ '#') with
    | [] => none
    | _ :: f => some f
  let query := match front.dropWhile (· ≠ '?') with
    | [] => none
    | _ :: q => some q
  (front.takeWhile (· ≠ '?'), query, fragment)

def withTail (special : Bool) (query fragment : Option (List Char)) (u : Url) : Url :=
  { u with
    query := query.map fun q =>
      String.ofList (encode (if special then inSpecialQuery else inQuery) q)
    fragment := fragment.map fun f => String.ofList (encode inFragment f) }

/-- User name and password as they are written. An empty password loses its colon. -/
def userinfoText (cs : List Char) : String :=
  let name := cs.takeWhile (· ≠ ':')
  let password := (cs.dropWhile (· ≠ ':')).drop 1
  String.ofList
    (encode inUserinfo name ++ if password.isEmpty then [] else ':' :: encode inUserinfo password)

/-- The text up to the last at sign, and what follows it. -/
def splitUserinfo (cs : List Char) : Option (List Char) × List Char :=
  if cs.contains '@' then
    let host := (cs.reverse.takeWhile (· ≠ '@')).reverse
    (some (cs.take (cs.length - host.length - 1)), host)
  else (none, cs)

/-- The host up to the first colon outside brackets, and what follows the colon. -/
def splitPort (inside : Bool) : List Char → List Char × Option (List Char)
  | [] => ([], none)
  | c :: cs =>
      if c = ':' && !inside then ([], some cs)
      else
        let rest := splitPort (if c = '[' then true else if c = ']' then false else inside) cs
        (c :: rest.1, rest.2)

/-- No digits and the scheme's own port both mean no port. -/
def readPort (scheme : String) (cs : List Char) : Except UrlError (Option Nat) :=
  if !cs.all Char.isDigit then .error .invalidPort
  else
    let n := Nat.ofDigitChars 10 cs 0
    if 65535 < n then .error .invalidPort
    else .ok (if cs.isEmpty || defaultPort? scheme = some n then none else some n)

/-- Authority and path, the text after the two slashes. -/
def readAuthority (scheme : String) (cs : List Char) : Except UrlError Url := do
  let special := isSpecial scheme
  let ends (c : Char) : Bool := isSlash special c
  let authority := cs.takeWhile fun c => !ends c
  let rest := cs.dropWhile fun c => !ends c
  let (userinfo, hostport) := splitUserinfo authority
  if userinfo.isSome && hostport.isEmpty && (special || !rest.isEmpty) then throw .emptyHost
  let (host, port) := splitPort false hostport
  if host.isEmpty && (special || port.isSome) then throw .emptyHost
  let host ← if special then webHost host else opaqueHost host
  let port ← match port with
    | some digits => readPort scheme (digits.takeWhile (· ≠ '\\'))
    | none => pure none
  if host.isEmpty && userinfo.any (fun u => !(userinfoText u).isEmpty) then throw .emptyHost
  return {
    scheme, host := some host, port
    userinfo := (userinfo.map userinfoText).getD ""
    path := pathAfterAuthority special rest }

/-- File URLs: the host may be empty, and `localhost` means none. -/
def readFile (scheme : String) (cs : List Char) : Except UrlError Url := do
  let slashed := cs.map fun c => if c = '\\' then '/' else c
  match slashed with
  | '/' :: '/' :: rest =>
      let name := rest.takeWhile (· ≠ '/')
      let path := rest.dropWhile (· ≠ '/')
      if isDrive name then return { scheme, path := filePath rest }
      let host ← if name.isEmpty then pure "" else webHost name
      return {
        scheme, host := if host.isEmpty || host = "localhost" then none else some host
        path := filePath (path.drop 1) }
  | '/' :: rest => return { scheme, path := filePath rest }
  | rest => return { scheme, path := filePath rest }
where
  /-- Leading empty segments are dropped. -/
  filePath (cs : List Char) : String :=
    String.ofList ('/' :: ((absolutePath true cs).toList.dropWhile (· = '/')))

/-- The scheme in lower case and the text after its colon. -/
def splitScheme (cs : List Char) : Option (String × List Char) :=
  let isSchemeChar (c : Char) : Bool := c.isAlphanum || c = '+' || c = '-' || c = '.'
  match cs with
  | c :: _ =>
      if c.isAlpha then
        match cs.dropWhile isSchemeChar with
        | ':' :: rest => some (String.ofList ((cs.takeWhile isSchemeChar).map Char.toLower), rest)
        | _ => none
      else none
  | [] => none

/-- Blanks and controls around the text and line breaks and tabs in it are ignored. -/
def cleaned (s : String) : List Char :=
  let isEdge (c : Char) : Bool := c.toNat ≤ 0x20
  (Text.dropEndWhile isEdge (s.toList.dropWhile isEdge)).filter fun c =>
    c ≠ '\t' && c ≠ '\n' && c ≠ '\r'

def parse (s : String) : Except UrlError Url := do
  match splitScheme (cleaned s) with
  | none => throw .relativeWithoutBase
  | some (scheme, rest) =>
      let special := isSpecial scheme
      let (body, query, fragment) := splitTail rest
      let u ←
        if isFile scheme then readFile scheme body
        else if special then readAuthority scheme (body.dropWhile (isSlash true))
        else match body with
          | '/' :: '/' :: rest => readAuthority scheme rest
          | '/' :: rest => pure { scheme, path := absolutePath false rest }
          | _ => pure { scheme, path := opaquePath body }
      return withTail special query fragment u

/-! ### Changing and joining -/

/-- Replaces the path. An opaque path stays one. -/
def setPath (u : Url) (path : String) : Url :=
  if u.isOpaque then
    match path.toList with
    | '/' :: rest => { u with path := "%2F" ++ opaquePath rest }
    | cs => { u with path := opaquePath cs }
  else { u with path := pathAfterAuthority (isSpecial u.scheme) path.toList }

/-- The path without what follows its last slash. -/
def directory (path : List Char) : List Char := Text.dropEndWhile (· ≠ '/') path

/-- A reference in the directory of the base, without query. -/
def join (base : Url) (reference : String) : Except UrlError Url :=
  if base.isOpaque then .error .relativeToOpaque
  else
    .ok
      { base with
        path := absolutePath (isSpecial base.scheme)
          ((directory base.path.toList).drop 1 ++ reference.toList)
        query := none
        fragment := none }

end Url
end DeviceConsole
