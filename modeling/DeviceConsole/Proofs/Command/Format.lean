import DeviceConsole.Command.Respond
import DeviceConsole.Proofs.Backend.Run
import DeviceConsole.Proofs.CommandLine.Format
import Mathlib.Data.List.Basic

/-! The format of what a command shows. It comes from the command line, from its variable, or is the
table; the one in the settings is not read. The format decides how a result is rendered and nothing
else. -/
namespace DeviceConsole

/-! ### Commands that show something -/

/-- The command prints a list or a single item. -/
def Command.shows : Command → Bool
  | .settings .show | .settings .profiles | .targets _ => true
  | .backend .listDevices | .backend .listCredentials | .backend .listDiscovery => true
  | .backend (.getDiscovery _ _) | .backend (.showTelemetry _ _ _) => true
  | _ => false

/-- What such a command ends with: something to show, with a failure of its own where only a part
is missing, or a failure alone. -/
abbrev Showing := Except CommandError (View × Option CommandError)

def Showing.report (r : Showing) (quiet : Bool) (f : OutputFormat) : Report :=
  match r with
  | .ok (v, failure) => { GlobalOptions.display { quiet, output := f } v with failure }
  | .error e => .failed e

def GlobalOptions.inFormat (g : GlobalOptions) (f : OutputFormat) : GlobalOptions :=
  { g with output := f }

variable {w : Surroundings} {g : GlobalOptions}

/-- What is printed for a text tells the text. -/
theorem printed_inj {text text' : String} :
    (if text.isEmpty then "" else text ++ "\n") = (if text'.isEmpty then "" else text' ++ "\n") ↔
      text = text' := by
  have hne (s : String) : s ++ "\n" ≠ "" := by simp
  simp only [String.isEmpty_iff]
  by_cases h : text = "" <;> by_cases h' : text' = ""
  · simp [h, h']
  · rw [if_pos h, if_neg h', h]
    exact iff_of_false (hne text').symm (Ne.symm h')
  · rw [if_neg h, if_pos h', h']
    exact iff_of_false (hne text) h
  · rw [if_neg h, if_neg h', ← String.toList_inj, ← String.toList_inj, String.toList_append,
      String.toList_append, List.append_cancel_right_eq]

/-- Two formats make the same of a result where it fails, is not printed, or reads the same. -/
theorem Showing.report_eq_iff {r : Showing} {quiet : Bool} {f f' : OutputFormat} :
    r.report quiet f = r.report quiet f' ↔
      ∀ v failure, r = .ok (v, failure) → quiet = true ∨ v.render f = v.render f' := by
  cases r with
  | error e => simp [report]
  | ok p =>
    obtain ⟨v, failure⟩ := p
    cases quiet with
    | true => simp [report, GlobalOptions.display, GlobalOptions.print]
    | false =>
      simp only [report, GlobalOptions.display, GlobalOptions.print, Bool.false_or,
        Report.mk.injEq, printed_inj, and_true, Bool.false_eq_true, false_or, Except.ok.injEq,
        Prod.mk.injEq, and_imp]
      constructor
      · rintro h _ _ rfl -
        exact h
      · exact fun h => h v failure rfl rfl

/-- A call that shows what it ends with. -/
theorem BackendCommand.exists_showing {c : BackendCommand} (h : (Command.backend c).shows = true)
    (console : Console) (g : GlobalOptions) (now : Int64) :
    ∃ y : Call CommandError (View × Option CommandError), ∀ f,
      c.run console (g.inFormat f) now = (fun p =>
        { (g.inFormat f).display p.1 with failure := p.2 }) <$> y := by
  cases c with
  | listDevices =>
    refine ⟨do return (View.devices (← ask console.listDevices), none), fun f => ?_⟩
    simp only [run, map_bind, map_pure]
    rfl
  | listCredentials =>
    refine ⟨do return (View.credentials (← ask console.listCredentials), none), fun f => ?_⟩
    simp only [run, map_bind, map_pure]
    rfl
  | listDiscovery =>
    refine ⟨do return (View.summaries ((← ask console.listDiscovery).map DiscoveryProfile.summary),
      none), fun f => ?_⟩
    simp only [run, map_bind, map_pure]
    rfl
  | getDiscovery id expand =>
    refine ⟨do
      let p ← findProfile console id
      let addresses ←
        if expand then (fun set => some set.elems) <$> require (console.expandTargets p.targets)
        else pure none
      return (View.discovery p.summary addresses, none), fun f => ?_⟩
    cases expand with
    | true =>
      simp only [run, map_bind, map_pure, ↓reduceIte]
      rfl
    | false =>
      simp only [run, map_bind, map_pure, Bool.false_eq_true, ↓reduceIte]
      rfl
  | showTelemetry device duration aggregation =>
    refine ⟨do
      let address ← require (Address.parse device)
      let t ← ask (console.deviceTelemetryAt address duration.seconds aggregation now)
      return (View.telemetry console.config t, telemetryFailure? t), fun f => ?_⟩
    simp only [run, map_bind, map_pure]
  | _ => cases h

/-- What a command shows is the same in every format, and so are its requests. -/
theorem Invocation.exists_showing {i : Invocation} (h : i.command.shows = true) (w : Surroundings) :
    ∃ x : Exchange Showing, ∀ f, Invocation.run { i with options := i.options.inFormat f } w =
      (fun r => r.report i.options.quiet f) <$> x := by
  obtain ⟨g, command⟩ := i
  cases command with
  | settings c =>
    cases c with
    | «show» => exact ⟨.done (.ok (View.settings w.settings, none)), fun f => rfl⟩
    | profiles => exact ⟨.done (.ok (View.profiles w.settings, none)), fun f => rfl⟩
    | _ => cases h
  | targets c =>
    refine ⟨.done (((c.view w g).map fun v => (v, none)).mapError .ofConsole), fun f => ?_⟩
    have hview : c.view w (g.inFormat f) = c.view w g := rfl
    rw [Exchange.map_done]
    simp only [Invocation.run, TargetsCommand.run, hview]
    cases c.view w g <;> rfl
  | backend c =>
    cases hconsole : BackendCommand.console w g with
    | error e =>
      refine ⟨.done (.error e), fun f => ?_⟩
      have hconsole' : BackendCommand.console w (g.inFormat f) = .error e := hconsole
      simp only [Invocation.run, BackendCommand.report, hconsole']
      rfl
    | ok console =>
      obtain ⟨y, hy⟩ := BackendCommand.exists_showing h console g w.now
      refine ⟨y.run, fun f => ?_⟩
      have hconsole' : BackendCommand.console w (g.inFormat f) = .ok console := hconsole
      simp only [Invocation.run, BackendCommand.report, hconsole', hy, ExceptT.run_map, ← comp_map]
      refine congrArg (fun k => k <$> y.run) (funext fun r => ?_)
      cases r <;> rfl

/-! ### The format in the settings -/

/-- The surroundings differ at most in the format that the settings name. -/
structure Surroundings.SameButFormat (w w' : Surroundings) : Prop where
  settings : ∃ output, w'.settings =
    { w.settings with defaults := { w.settings.defaults with output } }
  environment : ∀ (o : CommandLine.Opt) name, o.environment? = some name →
    w'.environment.lookup name = w.environment.lookup name
  settingsPath : w'.settingsPath = w.settingsPath
  files : w'.files = w.files
  now : w'.now = w.now

/-- Only a command that shows the settings themselves shows the format in them. -/
theorem Invocation.run_sameButFormat {i : Invocation} {w w' : Surroundings}
    (h : i.command.shows = true) (hshow : i.command ≠ .settings .show) (hw : w.SameButFormat w') :
    i.run w' = i.run w := by
  obtain ⟨output, hsettings⟩ := hw.settings
  obtain ⟨g, command⟩ := i
  cases command with
  | settings c =>
    cases c with
    | «show» => exact absurd rfl hshow
    | profiles =>
      simp only [Invocation.run, SettingsCommand.run, hsettings]
      rfl
    | _ => cases h
  | targets c =>
    have hceiling : c.ceilingIn w' g = c.ceilingIn w g := by
      rw [TargetsCommand.ceilingIn, hsettings]
      rfl
    simp only [Invocation.run, TargetsCommand.run, TargetsCommand.view, hceiling]
  | backend c =>
    have hconsole : BackendCommand.console w' g = BackendCommand.console w g := by
      rw [BackendCommand.console, hsettings, hw.settingsPath, hw.files]
      rfl
    simp only [Invocation.run, BackendCommand.report, hconsole, hw.now]

namespace CommandLine

variable {words : List String} {i : Invocation}

theorem respond_eq (h : read w.environment words = .ok i) :
    respond w words = some <$> i.run w := by
  rw [respond, h]

/-- A command that shows something ends with one result, whatever the format. It is rendered in the
format that is given, and where none is given as a table, while a format in front of the words is
followed; so a format that the settings name is followed exactly where the result fails, is not
printed, or reads the same as the table. That format changes neither how the words are read nor
anything that comes of them, unless the settings themselves are shown. -/
theorem respond_format (h : read w.environment words = .ok i) (hshows : i.command.shows = true) :
    ∃ x : Exchange Showing,
      respond w words = (fun r => some (r.report i.options.quiet i.options.output)) <$> x ∧
      (∀ name, formatGiven? w.environment words = some name →
        OutputFormat.ofName? name = some i.options.output) ∧
      (formatGiven? w.environment words = none → i.options.output = .table ∧
        ∀ f : OutputFormat,
          respond w ("--output" :: f.name :: words) =
            (fun r => some (r.report i.options.quiet f)) <$> x ∧
          ∀ (σ : Type) (serve : Request → σ → Outcome × σ) (s : σ),
            (respond w words).run serve s =
                (respond w ("--output" :: f.name :: words)).run serve s ↔
              ∀ v failure, (x.run serve s).value = .ok (v, failure) →
                i.options.quiet = true ∨ v.readable = v.render f) ∧
      ∀ w', w.SameButFormat w' → read w'.environment words = .ok i ∧
        (i.command ≠ .settings .show → respond w' words = respond w words) := by
  obtain ⟨x, hx⟩ := i.exists_showing hshows w
  have hrespond : respond w words =
      (fun r => some (r.report i.options.quiet i.options.output)) <$> x := by
    rw [respond_eq h, show i.run w = _ from hx i.options.output, ← comp_map]
    rfl
  refine ⟨x, hrespond, fun name hname => format_of_read h hname, fun hnone => ?_,
    fun w' hw => ?_⟩
  · obtain ⟨htable, hread⟩ := read_format_of_none h hnone
    refine ⟨htable, fun f => ?_⟩
    have hformat : respond w ("--output" :: f.name :: words) =
        (fun r => some (r.report i.options.quiet f)) <$> x := by
      have hrun := hx f
      rw [GlobalOptions.inFormat] at hrun
      rw [respond_eq (hread f), hrun, ← comp_map]
      rfl
    refine ⟨hformat, fun _ serve s => ?_⟩
    rw [hrespond, hformat, htable, Exchange.run_map, Exchange.run_map, Exchange.Run.mk.injEq,
      Option.some.injEq, Showing.report_eq_iff]
    simp only [and_true]
    rfl
  · have hread := read_congr h hw.environment
    refine ⟨hread, fun hshow => ?_⟩
    rw [respond_eq hread, respond_eq h, Invocation.run_sameButFormat hshows hshow hw]

/-- Nothing around the command but a settings file that names this format. -/
def configured (f : OutputFormat) : Surroundings where
  environment := []
  settingsPath := "config.toml"
  settingsFile := some ("[defaults]\noutput = \"" ++ f.name ++ "\"\n")
  files := .error
  now := 0

def resolveOne : List String := ["targets", "resolve", "10.0.0.1"]

def resolveOneCommand : Invocation where
  options := {}
  command := .targets { mode := .list, text := "10.0.0.1", expand := false, ceiling := none }

theorem read_resolveOne : read [] resolveOne = .ok resolveOneCommand := by
  decide +kernel

theorem settings_configured : Settings.load (configured .json).settingsFile [] =
    .ok { defaults := { output := "json" } } := by
  decide +kernel

/-- A list that the settings want as JSON is shown as a table, as it is where they want a table.
Asked for on the command line, the JSON comes. -/
theorem respond_format_json :
    ∃ x : Exchange Showing,
      respond (configured .json) resolveOne = (fun r => some (r.report false .table)) <$> x ∧
      respond (configured .json) ("--output" :: "json" :: resolveOne) =
        (fun r => some (r.report false .json)) <$> x ∧
      respond (configured .table) resolveOne = respond (configured .json) resolveOne := by
  have hnone : formatGiven? (configured .json).environment resolveOne = none := by decide +kernel
  obtain ⟨x, htable, -, hasked, hsame⟩ :=
    respond_format (w := configured .json) read_resolveOne rfl
  have hload : (configured .table).settings =
      { (configured .json).settings with
        defaults := { (configured .json).settings.defaults with output := "table" } } := by
    decide +kernel
  have hfree : (configured .json).SameButFormat (configured .table) :=
    ⟨⟨_, hload⟩, fun _ _ _ => rfl, rfl, rfl, rfl⟩
  exact ⟨x, htable, ((hasked hnone).2 .json).1, (hsame _ hfree).2 (by decide)⟩

/-- The settings alone ask for JSON, and what is shown is not what it is with JSON asked for on the
command line. -/
theorem respond_configured_json :
    let w := configured .json
    Settings.load w.settingsFile w.environment = .ok w.settings ∧
    w.settings.defaults.output = OutputFormat.json.name ∧
    formatGiven? w.environment resolveOne = none ∧
    (∃ i, read w.environment resolveOne = .ok i ∧ i.command.shows = true) ∧
    respond w resolveOne ≠ respond w ("--output" :: w.settings.defaults.output :: resolveOne) := by
  intro w
  have hsettings : w.settings = { defaults := { output := "json" } } := by decide +kernel
  refine ⟨?_, ?_, by decide +kernel, ⟨_, read_resolveOne, rfl⟩, fun h => ?_⟩
  · rw [hsettings]
    exact settings_configured
  · rw [hsettings]
    rfl
  · rw [hsettings] at h
    let report (x : Exchange (Option Report)) : Option Report :=
      (x.run (fun _ s => (.refused, s)) ()).value
    have hreports : report (respond w resolveOne) =
        report (respond w ("--output" :: "json" :: resolveOne)) := congrArg report h
    exact absurd hreports (by decide +kernel)

end CommandLine
end DeviceConsole
