import DeviceConsole.Proofs.Settings.Set

/-! Changing settings while variables are set. What is changed and written is the settings as the
variables leave them, so the file keeps what a variable set, and two runs write the same file just
where their variables agree on all that is not changed. -/
namespace DeviceConsole

/-! ### Changes of settings -/

/-- The settings agree on everything but one value of one profile. A profile that is missing counts
as an empty one. -/
structure Settings.AgreesBut (s t : Settings) (name : String) (k : SettingKey) : Prop where
  defaultProfile : s.defaultProfile = t.defaultProfile
  defaults : s.defaults = t.defaults
  others : ∀ other ≠ name, s.profiles.get? other = t.profiles.get? other
  profile : ∀ other ≠ k, ((s.profiles.get? name).getD {}).value? other =
    ((t.profiles.get? name).getD {}).value? other

namespace Settings.Changes

variable {s t s' t' : Settings} {name : String} {k : SettingKey} {j : Json}

/-- What a change makes of settings is determined. -/
theorem unique (h : s.Changes s' name k j) (h' : s.Changes t' name k j) : s' = t' := by
  obtain ⟨p, hp, hvalue, hothers⟩ := h.profile
  obtain ⟨p', hp', hvalue', hothers'⟩ := h'.profile
  have hsame : p = p' := Profile.eq_of_value? fun other => by
    by_cases hk : other = k
    · rw [hk, hvalue, hvalue']
    · rw [hothers other hk, hothers' other hk]
  have hprofiles : s'.profiles = t'.profiles := Dictionary.ext_get? fun other => by
    by_cases hn : other = name
    · rw [hn, hp, hp', hsame]
    · rw [h.others other hn, h'.others other hn]
  cases s'
  cases t'
  simp only [Settings.mk.injEq]
  exact ⟨h.defaultProfile.trans h'.defaultProfile.symm, h.defaults.trans h'.defaults.symm,
    hprofiles⟩

/-- The same change leads there from other settings just where they agree on the rest. -/
theorem iff_agreesBut (h : s.Changes s' name k j) :
    t.Changes s' name k j ↔ s.AgreesBut t name k := by
  obtain ⟨p, hp, hvalue, hothers⟩ := h.profile
  constructor
  · intro h'
    obtain ⟨p', hp', -, hothers'⟩ := h'.profile
    obtain rfl : p = p' := Option.some.inj (hp.symm.trans hp')
    exact ⟨h.defaultProfile.symm.trans h'.defaultProfile, h.defaults.symm.trans h'.defaults,
      fun other ho => (h.others other ho).symm.trans (h'.others other ho),
      fun other ho => (hothers other ho).symm.trans (hothers' other ho)⟩
  · intro hagree
    exact ⟨h.defaultProfile.trans hagree.defaultProfile, h.defaults.trans hagree.defaults,
      fun other ho => (h.others other ho).trans (hagree.others other ho), p, hp, hvalue,
      fun other ho => (hothers other ho).trans (hagree.profile other ho)⟩

end Settings.Changes

/-- The commands that write the settings file. -/
inductive Edit where
  | set (key value : String)
  | use (name : String)
deriving DecidableEq, Repr

namespace Edit

def command : Edit → SettingsCommand
  | set key value => .set key value
  | use name => .use name

/-- What the edit has to make of settings with this active profile: one value changes, or the name
of the default profile. -/
inductive Makes (active : String) (s s' : Settings) : Edit → Prop
  | set {key value : String} {k : SettingKey} {j : Json} (isKey : SettingKey.ofName? key = some k)
      (isValue : k.read? value = some j) (changes : s.Changes s' active k j) :
      Makes active s s' (set key value)
  | use {name : String} (changes : s' = { s with defaultProfile := some name }) :
      Makes active s s' (use name)

/-- The settings agree on all that the edit leaves as it is. -/
inductive Agrees (active : String) (s t : Settings) : Edit → Prop
  | set {key value : String} {k : SettingKey} (isKey : SettingKey.ofName? key = some k)
      (agrees : s.AgreesBut t active k) : Agrees active s t (set key value)
  | use {name : String} (defaults : s.defaults = t.defaults) (profiles : s.profiles = t.profiles) :
      Agrees active s t (use name)

variable {e : Edit} {active : String} {s t s' t' : Settings}

theorem Makes.unique (h : e.Makes active s s') (h' : e.Makes active s t') : s' = t' := by
  cases h with
  | set isKey isValue changes =>
    cases h' with
    | set isKey' isValue' changes' =>
      obtain rfl := Option.some.inj (isKey.symm.trans isKey')
      obtain rfl := Option.some.inj (isValue.symm.trans isValue')
      exact changes.unique changes'
  | use changes =>
    cases h' with
    | use changes' => exact changes.trans changes'.symm

theorem Makes.iff_agrees (h : e.Makes active s s') :
    e.Makes active t s' ↔ e.Agrees active s t := by
  cases h with
  | set isKey isValue changes =>
    constructor
    · rintro ⟨isKey', isValue', changes'⟩
      obtain rfl := Option.some.inj (isKey.symm.trans isKey')
      obtain rfl := Option.some.inj (isValue.symm.trans isValue')
      exact .set isKey (changes.iff_agreesBut.mp changes')
    · rintro ⟨isKey', agrees⟩
      obtain rfl := Option.some.inj (isKey.symm.trans isKey')
      exact .set isKey isValue (changes.iff_agreesBut.mpr agrees)
  | use changes =>
    subst changes
    constructor
    · intro h'
      cases h' with
      | use same =>
        obtain ⟨-, hdefaults, hprofiles⟩ := Settings.mk.inj same
        exact .use hdefaults hprofiles
    · intro hagree
      cases hagree with
      | use defaults profiles =>
        rw [defaults, profiles]
        exact .use rfl

end Edit

/-! ### Runs -/

namespace SettingsCommand

open Edit

theorem makeDefault_eq_ok {w : Surroundings} {g : GlobalOptions} {name : String} {r : Report}
    (h : makeDefault w g name = .ok r) : ∃ told,
      r = report g told (Settings.save { w.settings with defaultProfile := some name } w.disk) := by
  unfold makeDefault at h
  split at h
  · cases h
  · exact ⟨_, (Except.ok.inj h).symm⟩

/-- A report of saving that is no failure comes with the text that was stored. -/
theorem report_fileAfter {w : Surroundings} {g : GlobalOptions} {told : String} {s : Settings}
    (hdone : (report g told (s.save w.disk)).failure = none) : ∃ text, s.store = .ok text ∧
      (report g told (s.save w.disk)).fileAfter w = some text := by
  obtain ⟨text, hsave⟩ := report_failure_eq_none_iff.mp hdone
  obtain ⟨-, htext⟩ := Settings.save_eq_done.mp hsave
  exact ⟨text, htext, by rw [hsave]; rfl⟩

/-- An edit that succeeds stores what it makes of the settings as they were loaded, and without
variables the file loads to that. -/
theorem run_edit_stores {w : Surroundings} {g : GlobalOptions} {e : Edit} {s : Settings}
    (hs : Settings.load w.settingsFile w.environment = .ok s)
    (hdone : (run w g e.command).failure = none) : ∃ s' text,
      e.Makes (g.activeProfile s) s s' ∧ s'.store = .ok text ∧
      Settings.load (some text) [] = .ok s' ∧ (run w g e.command).fileAfter w = some text := by
  have hstart : w.settings = s := (Surroundings.StartsFrom.loaded hs).settings_eq
  obtain ⟨stored, hstored⟩ := Settings.exists_defaultProfile hs
  cases e with
  | set key value =>
    have hrun : run w g (command (.set key value)) =
      .ofExcept ((change w g key value).mapError .ofSettings) := rfl
    rw [hrun] at hdone ⊢
    cases hchange : change w g key value with
    | error e =>
      rw [hchange] at hdone
      cases hdone
    | ok r =>
      rw [hchange] at hdone
      obtain ⟨s', told, hset, rfl⟩ := change_eq_ok hchange
      obtain ⟨text, htext, hafter⟩ := report_fileAfter hdone
      rw [hstart] at hset
      obtain ⟨k, j, hk, hj, hchanges⟩ := Settings.set_eq_ok hset
      have hname : s'.defaultProfile = some stored := hchanges.defaultProfile.trans hstored
      exact ⟨s', text, .set hk hj hchanges, htext, Settings.load_store hname htext (by simp),
        hafter⟩
  | use name =>
    have hrun : run w g (command (.use name)) = .ofExcept (makeDefault w g name) := rfl
    rw [hrun] at hdone ⊢
    cases hmake : makeDefault w g name with
    | error e =>
      rw [hmake] at hdone
      cases hdone
    | ok r =>
      rw [hmake] at hdone
      obtain ⟨told, rfl⟩ := makeDefault_eq_ok hmake
      obtain ⟨text, htext, hafter⟩ := report_fileAfter hdone
      rw [hstart] at htext
      exact ⟨_, text, .use rfl, htext, Settings.load_store rfl htext (by simp), hafter⟩

/-- An edit under variables. The file it writes holds, for a reader without variables, what the edit
makes of the settings under the variables; where the active profile is the same, this is what it
would make of the file's own settings just where the variables change nothing but the edited value.
Two runs with the same active profile write the same file just where their settings agree on all the
edit leaves alone. -/
theorem run_edit_overridden (e : Edit) (w : Surroundings) (g : GlobalOptions) {s : Settings}
    (hs : Settings.load w.settingsFile w.environment = .ok s)
    (hdone : (run w g e.command).failure = none) :
    (∃ s', Settings.load ((run w g e.command).fileAfter w) [] = .ok s' ∧
      e.Makes (g.activeProfile s) s s' ∧
      ∀ s₀, Settings.load w.settingsFile [] = .ok s₀ → g.activeProfile s₀ = g.activeProfile s →
        (e.Makes (g.activeProfile s₀) s₀ s' ↔ e.Agrees (g.activeProfile s₀) s s₀)) ∧
    ∀ (w' : Surroundings) (g' : GlobalOptions) (t : Settings),
      Settings.load w'.settingsFile w'.environment = .ok t →
      g'.activeProfile t = g.activeProfile s → (run w' g' e.command).failure = none →
      ((run w g e.command).fileAfter w = (run w' g' e.command).fileAfter w' ↔
        e.Agrees (g.activeProfile s) s t) := by
  obtain ⟨s', text, hmakes, htext, hload, hafter⟩ := run_edit_stores hs hdone
  rw [hafter]
  refine ⟨⟨s', hload, hmakes, fun s₀ _ hactive => ?_⟩, fun w' g' t ht hsame hdone' => ?_⟩
  · rw [hactive]
    exact hmakes.iff_agrees
  · obtain ⟨t', text', hmakes', htext', hload', hafter'⟩ := run_edit_stores ht hdone'
    rw [hsame] at hmakes'
    rw [hafter', ← hmakes.iff_agrees]
    constructor
    · intro hsametext
      obtain rfl := Option.some.inj hsametext
      rw [Except.ok.inj (hload.symm.trans hload')]
      exact hmakes'
    · intro hmakes
      rw [hmakes.unique hmakes', htext'] at htext
      rw [Except.ok.inj htext]

/-! ### A variable for the timeout -/

/-- A file with one profile. -/
def labText : String :=
  "default_profile = \"lab\"\n[defaults]\ntimeout = 30\n" ++
    "[profiles.lab]\nserver = \"http://10.0.0.2:8080\"\n"

def labSettings (timeout : UInt64) : Settings where
  defaultProfile := some "lab"
  defaults := { timeout }
  profiles := .ofList [("lab", { server := "http://10.0.0.2:8080" })]

/-- The file where a variable sets the timeout. -/
def timed (seconds : String) : Surroundings :=
  { ofFile labText with environment := [("NMSOPS_DEFAULTS__TIMEOUT", seconds)] }

/-- The edit that gives the profile another server. -/
def moveLab : Edit := .set "server" "http://nms.lab:8080"

theorem labText_loaded : Settings.load (some labText) [] = .ok (labSettings 30) := by
  decide +kernel

theorem run_moveLab_failure : (run (ofFile labText) {} moveLab.command).failure = none :=
  run_set_done (.loaded labText_loaded) rfl (by decide +kernel)

/-- A variable that repeats what the file says leaves no trace. -/
theorem run_edit_overridden_repeated :
    let w := timed "30"
    let after := (run w {} moveLab.command).fileAfter w
    (∃ s', Settings.load after [] = .ok s' ∧ moveLab.Makes "lab" (labSettings 30) s') ∧
      after = (run (ofFile labText) {} moveLab.command).fileAfter (ofFile labText) := by
  intro w after
  have hload : Settings.load w.settingsFile w.environment = .ok (labSettings 30) := by
    decide +kernel
  have hdone : (run w {} moveLab.command).failure = none :=
    run_set_done (.loaded hload) rfl (by decide +kernel)
  obtain ⟨⟨s', hloads, hmakes, -⟩, hruns⟩ := run_edit_overridden moveLab w {} hload hdone
  refine ⟨⟨s', hloads, hmakes⟩, ?_⟩
  refine (hruns (ofFile labText) {} _ labText_loaded rfl run_moveLab_failure).mpr ?_
  exact .set (show SettingKey.ofName? "server" = some .server from by decide)
    ⟨rfl, rfl, fun _ _ => rfl, fun _ _ => rfl⟩

/-- Moving the profile while a variable sets another timeout puts that timeout in the file. -/
theorem run_set_keeps_variable :
    let w := timed "5"
    let g : GlobalOptions := {}
    let after := (run w g moveLab.command).fileAfter w
    Settings.load w.settingsFile [] = .ok (labSettings 30) ∧
    Settings.load w.settingsFile w.environment = .ok (labSettings 5) ∧
    g.activeProfile (labSettings 5) = g.activeProfile (labSettings 30) ∧
    (run w g moveLab.command).failure = none ∧
    (∃ s', Settings.load after [] = .ok s' ∧ s'.defaults.timeout = 5 ∧
      ¬ moveLab.Makes "lab" (labSettings 30) s') ∧
    after ≠ (run (ofFile labText) g moveLab.command).fileAfter (ofFile labText) := by
  intro w g after
  have hload : Settings.load w.settingsFile w.environment = .ok (labSettings 5) := by
    decide +kernel
  have hdone : (run w g moveLab.command).failure = none :=
    run_set_done (.loaded hload) rfl (by decide +kernel)
  -- an edit of a value leaves the timeout as it was loaded
  have htimeout {active : String} {s s' : Settings} (h : moveLab.Makes active s s') :
      s'.defaults.timeout = s.defaults.timeout := by
    cases h with
    | set isKey isValue changes => rw [changes.defaults]
  obtain ⟨s', text, hmakes, -, hkept, hafter⟩ := run_edit_stores hload hdone
  obtain ⟨t', text', hmakes', -, hkept', hafter'⟩ :=
    run_edit_stores (w := ofFile labText) labText_loaded run_moveLab_failure
  refine ⟨labText_loaded, hload, rfl, hdone, ⟨s', ?_, htimeout hmakes, fun h => ?_⟩, fun h => ?_⟩
  · rw [show after = _ from hafter]
    exact hkept
  · exact absurd ((htimeout hmakes).symm.trans (htimeout h)) (by decide)
  · obtain rfl : text = text' := Option.some.inj (hafter.symm.trans (h.trans hafter'))
    obtain rfl : s' = t' := Except.ok.inj (hkept.symm.trans hkept')
    exact absurd ((htimeout hmakes).symm.trans (htimeout hmakes')) (by decide)

end SettingsCommand
end DeviceConsole
