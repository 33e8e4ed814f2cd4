import DeviceConsole.Json.Basic

/-! TOML documents: the statements of a text in order, and the tree they build. A table is opened
by its own header once; what headers and dotted keys may add to it depends on how it came about. -/
namespace DeviceConsole.Toml

inductive Statement where
  | assign (path : List String) (key : String) (value : Json)
  | openTable (path : List String) (key : String)
  | openItem (path : List String) (key : String)
deriving Repr

/-- A table has a header of its own, or stands on the way to one, or on the way of a dotted key. -/
inductive Origin where
  | header
  | headerPath
  | dottedKey
deriving DecidableEq, Repr

/-- The items of an array of tables are held last first. -/
inductive Node where
  | value (j : Json)
  | table (origin : Origin) (entries : List (String × Node))
  | items (tables : List (List (String × Node)))
deriving Inhabited, Repr

abbrev Entries := List (String × Node)

/-- Replaces the entry of a key, which is `none` where there is none yet. -/
def alter? (key : String) (change : Option Node → Option Node) : Entries → Option Entries
  | [] => (change none).map fun n => [(key, n)]
  | (k, n) :: rest =>
      if k = key then (change (some n)).map fun n => (key, n) :: rest
      else (alter? key change rest).map ((k, n) :: ·)

/-- Changes the table at the end of a path, making the tables that are missing on the way. Of an
array of tables the last item is meant. A dotted key may not enter a table with a header. -/
def descend? (origin : Origin) (change : Origin → Entries → Option Entries) :
    List String → Origin → Entries → Option Entries
  | [], here, entries => change here entries
  | key :: path, _, entries =>
      alter? key
        (fun
          | none => (descend? origin change path origin []).map (.table origin)
          | some (.value _) => none
          | some (.table o inner) =>
              if origin = .dottedKey && o = .header then none
              else (descend? origin change path o inner).map (.table o)
          | some (.items []) => none
          | some (.items (last :: earlier)) =>
              (descend? origin change path .header last).map fun last => .items (last :: earlier))
        entries

/-- A key is assigned once. -/
def insertNew? (key : String) (node : Node) : Entries → Option Entries :=
  alter? key fun
    | none => some node
    | some _ => none

/-- Assigns within a table. A dotted key adds only to tables that dotted keys made. -/
def assign? (path : List String) (key : String) (value : Json) : Entries → Option Entries :=
  descend? .dottedKey
    (fun here entries =>
      if path.isEmpty || here = .dottedKey then insertNew? key (.value value) entries else none)
    path .header

/-- A header may name a table that only stands on the way to others. -/
def openTable? (path : List String) (key : String) : Entries → Option Entries :=
  descend? .headerPath
    (fun _ => alter? key fun
      | none => some (.table .header [])
      | some (.table .headerPath inner) => some (.table .header inner)
      | some _ => none)
    path .header

def openItem? (path : List String) (key : String) : Entries → Option Entries :=
  descend? .headerPath
    (fun _ => alter? key fun
      | none => some (.items [[]])
      | some (.items tables) => some (.items ([] :: tables))
      | some _ => none)
    path .header

/-- The tree so far and the path of the table that assignments go to. -/
def add? (state : List String × Entries) : Statement → Option (List String × Entries)
  | .assign path key value =>
      (descend? .headerPath (fun _ => assign? path key value) state.1 .header state.2).map
        (state.1, ·)
  | .openTable path key => (openTable? path key state.2).map (path ++ [key], ·)
  | .openItem path key => (openItem? path key state.2).map (path ++ [key], ·)

def ofStatements? (statements : List Statement) : Option Entries :=
  (statements.foldlM add? ([], [])).map (·.2)

/-- The value of a tree, fields in order of their keys. -/
def Node.toJson : Node → Json
  | value j => j
  | table _ entries => .obj (Json.sortFields (ofEntries entries))
  | items tables => .arr (ofTables tables).reverse
where
  ofEntries : List (String × Node) → List (String × Json)
    | [] => []
    | (key, node) :: rest => (key, node.toJson) :: ofEntries rest
  ofTables : List (List (String × Node)) → List Json
    | [] => []
    | entries :: rest => .obj (Json.sortFields (ofEntries entries)) :: ofTables rest

def toJson (entries : Entries) : Json := (Node.table .header entries).toJson

def inlineTable? (fields : List (List String × String × Json)) : Option Json :=
  (fields.foldlM (fun entries (path, key, value) => assign? path key value entries) []).map toJson

end DeviceConsole.Toml
