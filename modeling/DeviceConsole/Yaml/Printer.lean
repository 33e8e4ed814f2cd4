import DeviceConsole.Binary64.Text
import DeviceConsole.Json.Basic
import DeviceConsole.Yaml.Scalar

/-! YAML documents in block style: a field or an item a line, what belongs to it indented by two.
The items of a field stand as deep as the field. -/
namespace DeviceConsole.Yaml

/-- A value that starts on a line begun before it. -/
def inline (indent : String) : Json → String
  | .null => "null"
  | .bool b => if b then "true" else "false"
  | .int i => toString i
  | .float x => x.text
  | .str s => scalar false indent s
  | .arr _ => "[]"
  | .obj _ => "\x7b\x7d"

def hasLines : Json → Bool
  | .arr items => !items.isEmpty
  | .obj fields => !fields.isEmpty
  | _ => false

mutual

/-- The lines of a value with items or fields; the first of them starts with `lead`. -/
def valueLines (lead indent : String) : Json → List String
  | .arr items => itemLines lead indent items
  | .obj fields => fieldLines lead indent fields
  | leaf => [lead ++ inline (indent ++ "  ") leaf]

def itemLines (lead indent : String) : List Json → List String
  | [] => []
  | item :: items =>
      (if hasLines item then valueLines (lead ++ "- ") (indent ++ "  ") item
        else [lead ++ "- " ++ inline (indent ++ "  ") item]) ++
        itemLines indent indent items

def fieldLines (lead indent : String) : List (String × Json) → List String
  | [] => []
  | (key, value) :: fields =>
      let start := lead ++ scalar true indent key ++ ":"
      let deeper := match value with
        | .arr _ => indent
        | _ => indent ++ "  "
      (if hasLines value then start :: valueLines deeper deeper value
        else [start ++ " " ++ inline (indent ++ "  ") value]) ++
        fieldLines indent indent fields

end

/-- A document ends in a newline. -/
def render (j : Json) : String :=
  String.join ((if hasLines j then valueLines "" "" j else [inline "" j]).map (· ++ "\n"))

end DeviceConsole.Yaml
