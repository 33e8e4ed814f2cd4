import DeviceConsole.Text.Blank

/-! Certificate files: blocks between markers, each with a text in base 64. Text outside of the
blocks is ignored. -/
namespace DeviceConsole.Certificate

def isBase64 (line : String) : Bool :=
  line.toList.all fun c => c.isAlphanum || c = '+' || c = '/' || c = '='

/-- The encoded form of a certificate starts with an `M`. -/
def startsRight (line : String) : Bool := line.toList.head? = some 'M'

/-- Where in a file a line stands. -/
inductive Place where
  | outside | opened | inside
deriving DecidableEq, Repr

/-- Every block that is opened has a text and is closed. -/
def check (place : Place) : List String → Bool
  | [] => place = .outside
  | line :: lines =>
      if line = "-----BEGIN CERTIFICATE-----" then check .opened lines
      else if line = "-----END CERTIFICATE-----" then place ≠ .opened && check .outside lines
      else match place with
        | .outside => check .outside lines
        | .opened =>
            if line.isEmpty then check .opened lines
            else isBase64 line && startsRight line && check .inside lines
        | .inside => isBase64 line && check .inside lines

def isValid (text : String) : Bool :=
  check .outside ((text.toList.splitOn '\n').map fun l => String.ofList (Text.trimChars l))

end DeviceConsole.Certificate
