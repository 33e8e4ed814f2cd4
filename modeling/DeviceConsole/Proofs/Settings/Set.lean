import DeviceConsole.Command.Settings
import DeviceConsole.Proofs.Settings.Roundtrip

/-! Setting one value: what the file holds afterwards differs from what was loaded in that value
alone. -/
namespace DeviceConsole

open Layer.overlay

/-- The stored form of a value that is typed for a key. -/
def SettingKey.read? (value : String) : SettingKey → Option Json
  | server | caCert => some (.str value)
  | timeout | expansionCeiling =>
      (Decimal.readUInt64? value.toList).map fun n => .ofNat n.toNat
  | insecure => (Text.bool? value).map .bool
  | diskCounter | cpuCounter => (Decimal.readUInt16? value.toList).map fun n => .ofNat n.toNat

namespace Profile

/-- Profiles are told apart by what is set in them. -/
theorem eq_of_value? {p p' : Profile} (h : ∀ k, p.value? k = p'.value? k) : p = p' := by
  have hvalues : p.values = p'.values := List.map_congr_left fun k _ => h k
  have hentries : p.entries = p'.entries := by
    rw [entries_eq_present, entries_eq_present, hvalues]
  have hload := ofJson?_sortFields p
  rw [hentries, ofJson?_sortFields p'] at hload
  exact (Option.some.inj hload).symm

/-- A value that is replaced is read, and no other value changes. -/
theorem replace?_eq_some {p p' : Profile} {k : SettingKey} {value : String}
    (h : p.replace? k value = some p') : k.read? value = p'.value? k ∧ (p'.value? k).isSome ∧
      ∀ other ≠ k, p'.value? other = p.value? other := by
  cases k
  case server | caCert =>
    cases h
    refine ⟨rfl, rfl, fun other ho => ?_⟩
    cases other <;> first | rfl | exact absurd rfl ho
  case timeout | expansionCeiling | insecure | diskCounter | cpuCounter =>
    obtain ⟨v, hv, rfl⟩ := Option.map_eq_some_iff.mp h
    refine ⟨congrArg (Option.map _) hv, rfl, fun other ho => ?_⟩
    cases other <;> first | rfl | exact absurd rfl ho

end Profile

/-- One value of one profile changes and nothing else. A profile that is missing counts as an
empty one. -/
structure Settings.Changes (s s' : Settings) (name : String) (k : SettingKey) (value : Json) :
    Prop where
  defaultProfile : s'.defaultProfile = s.defaultProfile
  defaults : s'.defaults = s.defaults
  others : ∀ other ≠ name, s'.profiles.get? other = s.profiles.get? other
  profile : ∃ p, s'.profiles.get? name = some p ∧ p.value? k = some value ∧
    ∀ other ≠ k, p.value? other = ((s.profiles.get? name).getD {}).value? other

theorem Settings.set_eq_ok {s s' : Settings} {name key value : String}
    (h : s.set name key value = .ok s') : ∃ k j, SettingKey.ofName? key = some k ∧
      k.read? value = some j ∧ s.Changes s' name k j := by
  unfold Settings.set at h
  cases hp : ((s.profiles.get? name).getD {}).set key value with
  | error e =>
    rw [hp] at h
    cases h
  | ok p =>
    rw [hp] at h
    obtain rfl := Except.ok.inj h
    unfold Profile.set at hp
    split at hp
    · cases hp
    · rename_i k hk
      split at hp
      · rename_i p' hreplace
        obtain rfl := Except.ok.inj hp
        obtain ⟨hread, hsome, hothers⟩ := Profile.replace?_eq_some hreplace
        obtain ⟨j, hj⟩ := Option.isSome_iff_exists.mp hsome
        refine ⟨k, j, hk, hread.trans hj, rfl, rfl, fun other ho => ?_, p', ?_, hj, hothers⟩
        · rw [Dictionary.get?_insert, if_neg ho]
        · rw [Dictionary.get?_insert, if_pos rfl]
      · cases hp

/-- What a command works with: the settings that load, else those of no file. -/
inductive Surroundings.StartsFrom (w : Surroundings) : Settings → Prop
  | loaded {s : Settings} (h : Settings.load w.settingsFile w.environment = .ok s) :
      StartsFrom w s
  | unloadable {e : SettingsError} (h : Settings.load w.settingsFile w.environment = .error e) :
      StartsFrom w {}

theorem Surroundings.StartsFrom.settings_eq {w : Surroundings} {s : Settings}
    (h : w.StartsFrom s) : w.settings = s := by
  cases h with
  | loaded h => rw [Surroundings.settings, Settings.loadOrDefault, h]
  | unloadable h => rw [Surroundings.settings, Settings.loadOrDefault, h]

theorem Surroundings.StartsFrom.exists_defaultProfile {w : Surroundings} {s : Settings}
    (h : w.StartsFrom s) : ∃ name, s.defaultProfile = some name := by
  cases h with
  | loaded h => exact Settings.exists_defaultProfile h
  | unloadable h => exact ⟨"default", rfl⟩

def Report.fileAfter (r : Report) (w : Surroundings) : Option String :=
  r.settingsFile.or w.settingsFile

namespace Settings

/-- As much of the front of a text as so many bytes hold: the next character is too much. -/
structure IsBeginning (bytes : Nat) (text rest : String) : Prop where
  within : rest.utf8ByteSize ≤ bytes
  exists_tail : ∃ tail, text.toList = rest.toList ++ tail ∧
    ∀ c ∈ tail.head?, bytes < rest.utf8ByteSize + c.utf8Size

theorem isBeginning_firstBytes (bytes : Nat) (cs : List Char) :
    IsBeginning bytes (String.ofList cs) (String.ofList (firstBytes bytes cs)) := by
  induction cs generalizing bytes with
  | nil => exact ⟨Nat.zero_le _, [], rfl, by simp⟩
  | cons c cs ih =>
    rw [firstBytes]
    split
    · next hfits =>
      obtain ⟨hwithin, tail, htail, hnext⟩ := ih (bytes - c.utf8Size)
      have hsize (ds : List Char) : (String.ofList (c :: ds)).utf8ByteSize =
          c.utf8Size + (String.ofList ds).utf8ByteSize := by
        rw [String.ofList_cons, String.utf8ByteSize_append, String.utf8ByteSize_singleton]
      rw [String.toList_ofList, String.toList_ofList] at htail
      refine ⟨?_, tail, ?_, fun d hd => ?_⟩
      · rw [hsize]
        omega
      · rw [String.toList_ofList, String.toList_ofList, List.cons_append, ← htail]
      · have := hnext d hd
        rw [hsize]
        omega
    · next hbig =>
      exact ⟨Nat.zero_le _, c :: cs, String.toList_ofList, by simpa using hbig⟩

variable {s : Settings} {disk : Disk}

/-- Only a sound disk takes the text. -/
theorem save_eq_done {text : String} :
    s.save disk = .done text ↔ disk = .sound ∧ s.store = .ok text := by
  cases disk <;> cases hstore : s.store <;> simp [save, hstore]

theorem save_cutOff {text : String} (h : s.store = .ok text) (bytes : Nat) (reason : String) :
    ∃ rest, s.save (.cutOff bytes reason) = .cutOff rest (.file reason) ∧
      IsBeginning bytes text rest := by
  have hrest := isBeginning_firstBytes bytes text.toList
  rw [String.ofList_toList] at hrest
  exact ⟨_, by simp only [save, h], hrest⟩

/-- Only a disk that breaks off leaves less than the text behind. -/
theorem save_eq_cutOff {rest : String} {e : SettingsError} (h : s.save disk = .cutOff rest e) :
    ∃ bytes reason text, disk = .cutOff bytes reason ∧ s.store = .ok text ∧
      IsBeginning bytes text rest ∧ e = .file reason := by
  cases hstore : s.store with
  | error e => cases disk <;> simp [save, hstore] at h
  | ok text =>
    cases disk with
    | cutOff bytes reason =>
      obtain ⟨rest', hsave, hrest⟩ := save_cutOff hstore bytes reason
      obtain ⟨rfl, rfl⟩ := Saving.cutOff.inj (hsave.symm.trans h)
      exact ⟨bytes, reason, text, rfl, rfl, hrest, rfl⟩
    | sound | noFolder | unopened => simp [save, hstore] at h

end Settings

namespace SettingsCommand

/-- Only what was saved whole is no failure. -/
theorem report_failure_eq_none_iff {g : GlobalOptions} {told : String}
    {saving : Settings.Saving} :
    (report g told saving).failure = none ↔ ∃ text, saving = .done text := by
  cases saving with
  | refused e => simp [report, Report.failed]
  | cutOff rest e => simp [report, Report.failed]
  | done text => exact ⟨fun _ => ⟨text, rfl⟩, fun _ => rfl⟩

theorem change_eq_ok {w : Surroundings} {g : GlobalOptions} {key value : String} {r : Report}
    (h : change w g key value = .ok r) : ∃ s told,
      w.settings.set (g.activeProfile w.settings) key value = .ok s ∧
      r = report g told (s.save w.disk) := by
  cases hs : w.settings.set (g.activeProfile w.settings) key value with
  | error e =>
    simp only [change, hs] at h
    cases h
  | ok s =>
    simp only [change, hs] at h
    exact ⟨s, _, rfl, (Except.ok.inj h).symm⟩

/-- Where the disk is sound, whether a value can be set does not depend on where the settings came
from. -/
theorem run_set_done {w : Surroundings} {g : GlobalOptions} {key value : String} {s : Settings}
    (hs : w.StartsFrom s) (hdisk : w.disk = .sound)
    (h : ((s.set (g.activeProfile s) key value).bind Settings.store).isOk = true) :
    (run w g (.set key value)).failure = none := by
  have hrun : run w g (.set key value) =
    .ofExcept ((change w g key value).mapError .ofSettings) := rfl
  obtain rfl := hs.settings_eq
  cases hset : w.settings.set (g.activeProfile w.settings) key value with
  | error e =>
    rw [hset] at h
    cases h
  | ok s' =>
    cases htext : s'.store with
    | error e =>
      rw [hset, Except.bind, htext] at h
      cases h
    | ok text =>
      simp only [hrun, change, hset]
      exact report_failure_eq_none_iff.mpr ⟨text, Settings.save_eq_done.mpr ⟨hdisk, htext⟩⟩

/-- Setting a value fails and leaves the file alone, or the file loads to what was there before
with that value of the active profile changed. A disk that breaks off while the file is written is
the one other failure: the file holds a beginning of what would have loaded to that. -/
theorem run_set (w : Surroundings) (g : GlobalOptions) (key value : String)
    (henv : ∀ e ∈ w.environment, Variable.place? e.1 = none) {s : Settings}
    (hs : w.StartsFrom s) :
    ((run w g (.set key value)).failure.isSome ∧
      (run w g (.set key value)).fileAfter w = w.settingsFile) ∨
    ((run w g (.set key value)).failure = none ∧ ∃ k j s',
      SettingKey.ofName? key = some k ∧ k.read? value = some j ∧
      Settings.load ((run w g (.set key value)).fileAfter w) w.environment = .ok s' ∧
      s.Changes s' (g.activeProfile s) k j) ∨
    ∃ bytes reason, w.disk = .cutOff bytes reason ∧
      (run w g (.set key value)).failure = some (.system reason) ∧ ∃ k j s' text rest,
        SettingKey.ofName? key = some k ∧ k.read? value = some j ∧
        Settings.load (some text) w.environment = .ok s' ∧ s.Changes s' (g.activeProfile s) k j ∧
        (run w g (.set key value)).fileAfter w = some rest ∧
        Settings.IsBeginning bytes text rest := by
  obtain ⟨stored, hstored⟩ := hs.exists_defaultProfile
  obtain rfl := hs.settings_eq
  have hrun : run w g (.set key value) =
    .ofExcept ((change w g key value).mapError .ofSettings) := rfl
  cases hchange : change w g key value with
  | error e =>
    rw [hrun, hchange]
    exact .inl ⟨rfl, rfl⟩
  | ok r =>
    obtain ⟨s', told, hset, rfl⟩ := change_eq_ok hchange
    obtain ⟨k, j, hk, hj, hchanges⟩ := Settings.set_eq_ok hset
    -- the default profile has a name, so what is stored loads as it is
    have hload {text : String} (htext : s'.store = .ok text) :
        Settings.load (some text) w.environment = .ok s' :=
      Settings.load_store (hchanges.defaultProfile.trans hstored) htext henv
    rw [hrun, hchange]
    cases hsave : s'.save w.disk with
    | refused e => exact .inl ⟨rfl, rfl⟩
    | done text =>
      obtain ⟨-, htext⟩ := Settings.save_eq_done.mp hsave
      exact .inr (.inl ⟨rfl, k, j, s', hk, hj, hload htext, hchanges⟩)
    | cutOff rest e =>
      obtain ⟨bytes, reason, text, hdisk, htext, hrest, rfl⟩ := Settings.save_eq_cutOff hsave
      exact .inr (.inr ⟨bytes, reason, hdisk, rfl, k, j, s', text, rest, hk, hj, hload htext,
        hchanges, rfl, hrest⟩)

/-- A file and nothing else. -/
def ofFile (text : String) : Surroundings where
  environment := []
  settingsPath := "config.toml"
  settingsFile := some text
  files := .error
  now := 0

def twoProfilesText : String :=
  "default_profile = \"lab\"\n[profiles.lab]\nserver = \"a\"\n[profiles.prod]\nserver = \"b\"\n"

def twoProfiles : Settings where
  defaultProfile := some "lab"
  profiles := .ofList [("lab", { server := "a" }), ("prod", { server := "b" })]

theorem twoProfiles_loaded : Settings.load (some twoProfilesText) [] = .ok twoProfiles := by
  decide +kernel

theorem run_set_lab :
    ∃ s', Settings.load ((run (ofFile twoProfilesText) {} (.set "timeout" "9")).fileAfter
        (ofFile twoProfilesText)) [] = .ok s' ∧
      twoProfiles.Changes s' "lab" .timeout (.ofNat 9) := by
  have hdone : (run (ofFile twoProfilesText) {} (.set "timeout" "9")).failure = none :=
    run_set_done (.loaded twoProfiles_loaded) rfl (by decide +kernel)
  rcases run_set (ofFile twoProfilesText) {} "timeout" "9" (by simp [ofFile])
    (.loaded twoProfiles_loaded) with
    ⟨hfailed, -⟩ | ⟨-, k, j, s', hk, hj, hload, hchanges⟩ | ⟨_, _, hdisk, -⟩
  · rw [hdone] at hfailed
    cases hfailed
  · have hkey : SettingKey.ofName? "timeout" = some .timeout := by decide +kernel
    obtain rfl : SettingKey.timeout = k := Option.some.inj (hkey.symm.trans hk)
    have hvalue : SettingKey.timeout.read? "9" = some (.ofNat 9) := by rfl
    obtain rfl : Json.ofNat 9 = j := Option.some.inj (hvalue.symm.trans hj)
    exact ⟨s', hload, hchanges⟩
  · cases hdisk

/-- A file that does not load, since its timeout is no number. -/
def brokenText : String :=
  "default_profile = \"lab\"\n[profiles.lab]\nserver = \"a\"\ntimeout = \"soon\"\n"

theorem brokenText_unloadable : Settings.load (some brokenText) [] = .error .unreadable := by
  decide +kernel

/-- A file that does not load is overwritten, and its profiles are gone. -/
theorem run_set_unloadable :
    Settings.load (some brokenText) [] = .error .unreadable ∧
    (run (ofFile brokenText) {} (.set "server" "http://x")).failure = none ∧
    ∃ s, Settings.load ((run (ofFile brokenText) {} (.set "server" "http://x")).fileAfter
        (ofFile brokenText)) [] = .ok s ∧
      s.defaultProfile = some "default" ∧ s.profiles.get? "lab" = none := by
  have hstart : (ofFile brokenText).StartsFrom {} := .unloadable brokenText_unloadable
  have hempty : (ofFile brokenText).settings = {} := hstart.settings_eq
  have hdone : (run (ofFile brokenText) {} (.set "server" "http://x")).failure = none :=
    run_set_done hstart rfl (by decide +kernel)
  have hrun : run (ofFile brokenText) {} (.set "server" "http://x") =
    .ofExcept ((change (ofFile brokenText) {} "server" "http://x").mapError .ofSettings) := rfl
  refine ⟨brokenText_unloadable, hdone, ?_⟩
  rw [hrun] at hdone ⊢
  cases hchange : change (ofFile brokenText) {} "server" "http://x" with
  | error e =>
    rw [hchange] at hdone
    cases hdone
  | ok r =>
    rw [hchange] at hdone
    obtain ⟨s, told, hset, rfl⟩ := change_eq_ok hchange
    obtain ⟨text, hsave⟩ := report_failure_eq_none_iff.mp hdone
    obtain ⟨-, htext⟩ := Settings.save_eq_done.mp hsave
    rw [hempty] at hset
    obtain ⟨k, j, -, -, hchanges⟩ := Settings.set_eq_ok hset
    have hload : Settings.load (some text) [] = .ok s :=
      Settings.load_store hchanges.defaultProfile htext (by simp)
    rw [hsave]
    refine ⟨s, hload, hchanges.defaultProfile, ?_⟩
    rw [hchanges.others "lab" (by decide)]
    rfl

end SettingsCommand
end DeviceConsole
