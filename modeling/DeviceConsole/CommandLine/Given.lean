import DeviceConsole.CommandLine.Opt

/-! What was given on a command line: options with their values, and operands. -/
namespace DeviceConsole.CommandLine

structure Given where
  environment : List (String × String)
  /-- The latest first. -/
  values : List (Opt × String) := []
  operands : List String := []

namespace Given

/-- The value of an option: the latest on the command line, else that of its variable. -/
def value? (g : Given) (o : Opt) : Option String :=
  (g.values.lookup o).or (o.environment?.bind fun name => g.environment.lookup name)

def values? (g : Given) (o : Opt) : List String :=
  (g.values.filter fun e => e.1 = o).reverse.map (·.2)

def has (g : Given) (o : Opt) : Bool := (g.value? o >>= Text.bool?) = some true

/-- A value that has to be there. -/
def required? {α : Type} (g : Given) (o : Opt) (read : String → Option α) : Option α :=
  g.value? o >>= read

def optional? {α : Type} (g : Given) (o : Opt) (read : String → Option α) :
    Option (Option α) :=
  match g.value? o with
  | none => some none
  | some s => (read s).map some

def withDefault? {α : Type} (g : Given) (o : Opt) (default : α) (read : String → Option α) :
    Option α :=
  (g.optional? o read).map fun a => a.getD default

end Given
end DeviceConsole.CommandLine
