import DeviceConsole.Proofs.Json.Field
import DeviceConsole.Proofs.Settings.Set

/-! What is saved is kept: settings whose numbers fit the file load from it as they were, but for the
name of a default profile that has none. Where nothing can be written the file is left alone; a disk
that breaks off while it is written leaves a beginning of the new text. -/
namespace DeviceConsole

/-! ### Numbers that fit -/

/-- The number is one of the file's integers, which have 64 bits with a sign. -/
def FitsFile (n : UInt64) : Prop := n.toNat ≤ 9223372036854775807

instance (n : UInt64) : Decidable (FitsFile n) := inferInstanceAs (Decidable (_ ≤ _))

structure Defaults.FitsFile (d : Defaults) : Prop where
  timeout : DeviceConsole.FitsFile d.timeout
  expansionCeiling : DeviceConsole.FitsFile d.expansionCeiling

instance (d : Defaults) : Decidable d.FitsFile :=
  decidable_of_iff (DeviceConsole.FitsFile d.timeout ∧ DeviceConsole.FitsFile d.expansionCeiling)
    ⟨fun h => ⟨h.1, h.2⟩, fun h => ⟨h.timeout, h.expansionCeiling⟩⟩

structure Profile.FitsFile (p : Profile) : Prop where
  timeout : ∀ n ∈ p.timeout, DeviceConsole.FitsFile n
  expansionCeiling : ∀ n ∈ p.expansionCeiling, DeviceConsole.FitsFile n

instance (p : Profile) : Decidable p.FitsFile :=
  let fits (n : UInt64) : Bool := decide (DeviceConsole.FitsFile n)
  decidable_of_iff (p.timeout.all fits = true ∧ p.expansionCeiling.all fits = true) <| by
    simp only [fits, Option.all_eq_true, decide_eq_true_eq]
    exact ⟨fun h => ⟨h.1, h.2⟩, fun h => ⟨h.timeout, h.expansionCeiling⟩⟩

structure Settings.FitsFile (s : Settings) : Prop where
  defaults : s.defaults.FitsFile
  profiles : ∀ e ∈ s.profiles.entries, e.2.FitsFile

instance (s : Settings) : Decidable s.FitsFile :=
  decidable_of_iff (s.defaults.FitsFile ∧
      (s.profiles.entries.all fun e => decide e.2.FitsFile) = true) <| by
    simp only [List.all_eq_true, decide_eq_true_eq]
    exact ⟨fun h => ⟨h.1, h.2⟩, fun h => ⟨h.defaults, h.profiles⟩⟩

namespace Settings

/-- The settings with the name of a default profile that stands for none. -/
def named (s : Settings) : Settings :=
  { s with defaultProfile := some (s.defaultProfile.getD "default") }

namespace Saving

def failure : Saving → Option SettingsError
  | refused e | cutOff _ e => some e
  | done _ => none

/-- What a file holds afterwards that was there before or not. -/
def fileAfter (old : Option String) : Saving → Option String
  | refused _ => old
  | cutOff rest _ => some rest
  | done text => some text

end Saving

end Settings
end DeviceConsole
