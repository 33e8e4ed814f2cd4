import DeviceConsole.Command.Respond
import DeviceConsole.Proofs.Settings.Connection

/-! A profile that is asked for by its name and is not stored. Without a server this is an error that
lists what is stored. With one the name is passed over: an empty profile takes the place of the one
asked for, and nothing that follows depends on the name. -/
namespace DeviceConsole

namespace Dictionary

variable {α : Type}

theorem mem_keys_iff {d : Dictionary α} {key : String} :
    key ∈ d.keys ↔ ∃ value, d.get? key = some value := by
  simp only [keys, get?, lookup_eq_some_iff_mem d.nodup_keys, List.mem_map]
  constructor
  · rintro ⟨e, he, rfl⟩
    exact ⟨e.2, he⟩
  · rintro ⟨value, h⟩
    exact ⟨_, h, rfl⟩

theorem keys_ascending (d : Dictionary α) : d.keys.Pairwise (· < ·) :=
  List.pairwise_map.mpr d.ascending

theorem isEmpty_iff {d : Dictionary α} : d.isEmpty = true ↔ d.keys = [] := by
  simp [isEmpty, keys]

end Dictionary

/-- The names of the stored profiles, in ascending order. -/
structure Settings.ListsNames (s : Settings) (names : List String) : Prop where
  ascending : names.Pairwise (· < ·)
  stored : ∀ name, name ∈ names ↔ ∃ p, s.profiles.get? name = some p

/-- Names as an error tells them. -/
def toldNames (names : List String) : String :=
  if names = [] then "(none)" else ", ".intercalate names

theorem Settings.exists_listsNames (s : Settings) :
    ∃ names, s.ListsNames names ∧ s.available = toldNames names := by
  refine ⟨s.profiles.keys, ⟨s.profiles.keys_ascending, fun _ => Dictionary.mem_keys_iff⟩, ?_⟩
  simp only [available, toldNames, Dictionary.isEmpty_iff]

namespace GlobalOptions

variable {g : GlobalOptions} {s : Settings} {name : String}

theorem activeProfile_of_requested (h : g.profile = some name) : g.activeProfile s = name := by
  rw [activeProfile, Settings.activeProfile, h]
  rfl

/-- The profile that is made of the command line alone. -/
def ownProfile (g : GlobalOptions) (server : String) : Profile where
  server := server
  timeout := g.timeout
  insecure := if g.insecure then some true else none

theorem effectiveProfile_of_server {server : String} (hserver : g.server = some server)
    (hmissing : s.profiles.get? (g.activeProfile s) = none) (settingsPath : String) :
    g.effectiveProfile s settingsPath = .ok (g.ownProfile server) := by
  simp [effectiveProfile, hmissing, hserver, override, ownProfile]

theorem effectiveProfile_of_no_server (hprofile : g.profile = some name) (hserver : g.server = none)
    (hmissing : s.profiles.get? name = none) (settingsPath : String) :
    g.effectiveProfile s settingsPath = .error (.profileNotFound name s.available) := by
  have hname := activeProfile_of_requested (s := s) hprofile
  simp [effectiveProfile, hname, hmissing, hserver, hprofile]

end GlobalOptions

namespace BackendCommand

variable {g : GlobalOptions} {w : Surroundings} {name : String}

theorem run_of_effectiveProfile_error {e : CommandError} (command : BackendCommand)
    (h : g.effectiveProfile w.settings w.settingsPath = .error e) :
    (Invocation.mk g (.backend command)).run w = .done (.failed e) := by
  have hconsole : console w g = .error e := by
    rw [console, GlobalOptions.consoleConfig, h]
    rfl
  simp only [Invocation.run, report, hconsole]

/-- No command looks at the name of the profile once it is connected. -/
theorem run_requesting (command : BackendCommand) (c : Console) (g : GlobalOptions) (name : String)
    (now : Int64) : command.run c { g with profile := some name } now = command.run c g now := by
  cases command <;> rfl

/-- Where the server is given, one name of no profile is as good as another. -/
theorem run_requesting_missing (command : BackendCommand) {other server : String}
    (hprofile : g.profile = some name) (hserver : g.server = some server)
    (hmissing : w.settings.profiles.get? name = none)
    (hother : w.settings.profiles.get? other = none) :
    (Invocation.mk { g with profile := some other } (.backend command)).run w =
      (Invocation.mk g (.backend command)).run w := by
  let g' : GlobalOptions := { g with profile := some other }
  have heffective : g'.effectiveProfile w.settings w.settingsPath =
      g.effectiveProfile w.settings w.settingsPath := by
    have hname := GlobalOptions.activeProfile_of_requested (s := w.settings) hprofile
    rw [GlobalOptions.effectiveProfile_of_server (g := g') hserver hother,
      GlobalOptions.effectiveProfile_of_server hserver (hname ▸ hmissing)]
    rfl
  have hconsole : console w { g with profile := some other } = console w g := by
    rw [console, console, GlobalOptions.consoleConfig, GlobalOptions.consoleConfig, heffective]
  simp only [Invocation.run, report, hconsole]
  cases console w g with
  | error e => rfl
  | ok c =>
    simp only [run_requesting]

end BackendCommand

/-- A profile is asked for that is not stored. Where no server is given there is no profile to work
with, the error has the name and those of the stored profiles in ascending order, and a command that
needs a backend ends with this error and sends nothing. But where a server is given, whatever the
other options, the profile is made of the command line alone, and all names that are not stored lead
to the same run. -/
theorem GlobalOptions.effectiveProfile_requested {g : GlobalOptions} {s : Settings} {name : String}
    (hprofile : g.profile = some name) (hmissing : s.profiles.get? name = none)
    (settingsPath : String) :
    (g.server = none → ∃ names, s.ListsNames names ∧
      g.effectiveProfile s settingsPath = .error (.profileNotFound name (toldNames names)) ∧
      ∀ (w : Surroundings) (command : BackendCommand), w.settings = s →
        (Invocation.mk g (.backend command)).run w =
          .done (.failed (.profileNotFound name (toldNames names)))) ∧
    ∀ server, g.server = some server →
      g.effectiveProfile s settingsPath = .ok (g.ownProfile server) ∧
      ∀ (w : Surroundings) (command : BackendCommand) (other : String), w.settings = s →
        s.profiles.get? other = none →
          (Invocation.mk { g with profile := some other } (.backend command)).run w =
            (Invocation.mk g (.backend command)).run w := by
  constructor
  · intro hserver
    obtain ⟨names, hnames, havailable⟩ := s.exists_listsNames
    have herror (path : String) : g.effectiveProfile s path =
        .error (.profileNotFound name (toldNames names)) := by
      rw [effectiveProfile_of_no_server hprofile hserver hmissing, havailable]
    refine ⟨names, hnames, herror settingsPath, fun w command hw => ?_⟩
    exact BackendCommand.run_of_effectiveProfile_error command (hw ▸ herror w.settingsPath)
  · intro server hserver
    have hname := activeProfile_of_requested (s := s) hprofile
    refine ⟨effectiveProfile_of_server hserver (hname ▸ hmissing) settingsPath, ?_⟩
    rintro w command other rfl hother
    exact BackendCommand.run_requesting_missing command hprofile hserver hmissing hother

/-- Two profiles, stored in another order than that of their names. -/
def GlobalOptions.twoLabs : Settings where
  profiles := .ofList [("lab2", { server := "http://10.0.0.2" }), ("lab10", { server := "" })]

/-- A name that is close to both. With a server it might as well be any other. -/
theorem GlobalOptions.effectiveProfile_requested_lab :
    ({ profile := some "lab", timeout := some 9 } : GlobalOptions).effectiveProfile twoLabs "" =
        .error (.profileNotFound "lab" "lab10, lab2") ∧
      ({ profile := some "lab", server := some "http://h", timeout := some 9 } :
          GlobalOptions).effectiveProfile twoLabs "" =
        .ok { server := "http://h", timeout := some 9 } := by
  have hmissing : twoLabs.profiles.get? "lab" = none := by decide +kernel
  obtain ⟨hmissed, -⟩ := effectiveProfile_requested
    (g := { profile := some "lab", timeout := some 9 }) rfl hmissing ""
  obtain ⟨-, hpassed⟩ := effectiveProfile_requested
    (g := { profile := some "lab", server := some "http://h", timeout := some 9 }) rfl hmissing ""
  obtain ⟨names, hnames, herror, -⟩ := hmissed rfl
  have htold : toldNames names = "lab10, lab2" := by
    have hlist : names = ["lab10", "lab2"] := by
      refine List.Perm.eq_of_pairwise (fun _ _ _ _ hab hba => absurd hba (String.lt_asymm hab))
        hnames.ascending (by decide +kernel) ?_
      refine (List.perm_ext_iff_of_nodup ?_ (by decide)).mpr fun n => ?_
      · exact hnames.ascending.imp fun hlt => String.ne_of_lt hlt
      · rw [hnames.stored, ← Dictionary.mem_keys_iff]
        exact iff_of_eq (congrArg (n ∈ ·) (by decide +kernel))
    rw [hlist]
    rfl
  exact ⟨htold ▸ herror, (hpassed _ rfl).1⟩

/-- The profile asked for is not stored, and the command line makes up another. -/
theorem GlobalOptions.effectiveProfile_made_up :
    let g : GlobalOptions := { profile := some "prod", server := some "http://backend" }
    checkedLab.profiles.get? "prod" = none ∧
      g.effectiveProfile checkedLab "" = .ok { server := "http://backend" } ∧
      ∀ available, g.effectiveProfile checkedLab "" ≠ .error (.profileNotFound "prod" available) := by
  intro g
  have hok : g.effectiveProfile checkedLab "" = .ok { server := "http://backend" } := by
    decide +kernel
  refine ⟨by decide +kernel, hok, fun available herror => ?_⟩
  rw [hok] at herror
  cases herror

end DeviceConsole
