import DeviceConsole.Command.Settings

/-! Resolving targets without a backend. -/
namespace DeviceConsole.TargetsCommand

def ceilingIn (c : TargetsCommand) (w : Surroundings) (g : GlobalOptions) : UInt64 :=
  c.ceiling.getD (g.expansionCeiling w.settings)

/-- A block is described as such unless its addresses are asked for. -/
def view (c : TargetsCommand) (w : Surroundings) (g : GlobalOptions) :
    Except ConsoleError View := do
  match ← (TargetSpec.ofInput c.mode c.text).resolve, c.expand with
  | .block b, false => return .block b
  | targets, _ => return .addresses (← targets.expand (c.ceilingIn w g).toNat).elems

def run (c : TargetsCommand) (w : Surroundings) (g : GlobalOptions) : Report :=
  .ofExcept (((c.view w g).map g.display).mapError .ofConsole)

end DeviceConsole.TargetsCommand
