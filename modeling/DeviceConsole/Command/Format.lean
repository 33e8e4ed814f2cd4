import DeviceConsole.Json.Printer
import DeviceConsole.Text.Table
import DeviceConsole.Yaml.Printer

/-! The formats a command can show its result in. -/
namespace DeviceConsole

inductive OutputFormat where
  | table | json | jsonCompact | yaml | plain
deriving DecidableEq, Repr, Inhabited

namespace OutputFormat

def all : List OutputFormat := [table, json, jsonCompact, yaml, plain]

def name : OutputFormat → String
  | table => "table"
  | json => "json"
  | jsonCompact => "json-compact"
  | yaml => "yaml"
  | plain => "plain"

def ofName? (s : String) : Option OutputFormat := all.find? fun f => f.name = s

end OutputFormat

/-- Something to show: its data, how an operator reads it, and its identifiers for scripts. -/
structure View where
  data : Json
  readable : String
  identifiers : List String

namespace View

def render (v : View) : OutputFormat → String
  | .table => v.readable
  | .json => v.data.pretty
  | .jsonCompact => v.data.compact
  | .yaml => Yaml.render v.data
  | .plain => "\n".intercalate v.identifiers

/-- A list is read as a table with a row for each item. -/
def ofList {α : Type} (data : α → Json) (header : List String) (row : α → List String)
    (identifier : α → String) (items : List α) : View :=
  { data := .arr (items.map data), readable := Text.Table.render header (items.map row)
    identifiers := items.map identifier }

end View
end DeviceConsole
