import DeviceConsole.Command.Settings
import DeviceConsole.Proofs.Dictionary

/-! How a backend is reached: the command line goes over the stored profile, the profile over the
defaults, one setting at a time. -/
namespace DeviceConsole

/-- The value of the highest layer that has one, the highest layer first. -/
def highest? {α : Type} (layers : List (Option α)) : Option α := layers.findSome? id

@[simp] theorem highest?_nil {α : Type} : highest? ([] : List (Option α)) = none := rfl

@[simp] theorem highest?_cons {α : Type} (layer : Option α) (rest : List (Option α)) :
    highest? (layer :: rest) = layer.or (highest? rest) := by
  cases layer <;> rfl

/-- A profile with its server, and the defaults for what it leaves open. -/
def Profile.reaching (p : Profile) (d : Defaults) (server : Url) : ConsoleConfig where
  server := server
  tls := p.tls d
  timeout := p.timeout.getD d.timeout
  expansionCeiling := p.expansionCeiling.getD d.expansionCeiling
  diskCounter := p.diskCounter.getD DeviceConsole.diskCounter
  cpuCounter := p.cpuCounter.getD DeviceConsole.cpuCounter

theorem Profile.toConsoleConfig_eq_ok_iff {p : Profile} {d : Defaults} {c : ConsoleConfig} :
    p.toConsoleConfig d = .ok c ↔ ∃ server, Url.parse p.server = .ok server ∧
      (server.scheme = "http" ∨ server.scheme = "https") ∧ p.reaching d server = c := by
  unfold Profile.toConsoleConfig
  cases Url.parse p.server with
  | error e => simp
  | ok server =>
    by_cases hweb : server.scheme = "http" ∨ server.scheme = "https"
    · simp [hweb, reaching]
    · have hnone : (decide (server.scheme = "http") || decide (server.scheme = "https")) = false := by
        simpa using hweb
      simp [hweb, hnone]

namespace GlobalOptions

variable {g : GlobalOptions} {s : Settings} {settingsPath : String}

def storedProfile? (g : GlobalOptions) (s : Settings) : Option Profile :=
  s.profiles.get? (g.activeProfile s)

/-- An empty profile stands in for one that is not stored, if a server is given. -/
theorem effectiveProfile_eq_ok_iff {p : Profile} :
    g.effectiveProfile s settingsPath = .ok p ↔
      (g.server.isSome ∨ (g.storedProfile? s).isSome) ∧
        g.override ((g.storedProfile? s).getD {}) = p := by
  cases hstored : g.storedProfile? s with
  | some stored => simp [effectiveProfile, show s.profiles.get? _ = _ from hstored]
  | none =>
    cases hserver : g.server with
    | some server =>
      have hover : g.override { server } = g.override {} := by simp [override, hserver]
      simp [effectiveProfile, show s.profiles.get? _ = _ from hstored, hserver, hover]
    | none =>
      by_cases hprofile : g.profile.isSome <;>
        simp [effectiveProfile, show s.profiles.get? _ = _ from hstored, hserver, hprofile]

/-- Every setting of a connection and the layers it may come from: what is given on the command
line, the stored profile, and the defaults or what is built in. -/
structure Resolves (g : GlobalOptions) (s : Settings) (c : ConsoleConfig) : Prop where
  server : ∃ text, highest? [g.server, (g.storedProfile? s).map Profile.server] = some text ∧
    Url.parse text = .ok c.server
  web : c.server.scheme = "http" ∨ c.server.scheme = "https"
  timeout : highest? [g.timeout, (g.storedProfile? s).bind Profile.timeout,
    some s.defaults.timeout] = some c.timeout
  unchecked : c.tls = .acceptInvalid ↔ g.insecure = true ∨
    highest? [(g.storedProfile? s).bind Profile.insecure, some s.defaults.insecure] = some true
  checked : c.tls ≠ .acceptInvalid →
    highest? [((g.storedProfile? s).bind Profile.caCert).map TlsVerification.customCa,
      some .systemDefaults] = some c.tls
  expansionCeiling : highest? [(g.storedProfile? s).bind Profile.expansionCeiling,
    some s.defaults.expansionCeiling] = some c.expansionCeiling
  diskCounter : highest? [(g.storedProfile? s).bind Profile.diskCounter,
    some DeviceConsole.diskCounter] = some c.diskCounter
  cpuCounter : highest? [(g.storedProfile? s).bind Profile.cpuCounter,
    some DeviceConsole.cpuCounter] = some c.cpuCounter

/-- The layers leave no choice. -/
theorem Resolves.unique {c c' : ConsoleConfig} (h : g.Resolves s c) (h' : g.Resolves s c') :
    c = c' := by
  obtain ⟨text, htext, hparse⟩ := h.server
  obtain ⟨text', htext', hparse'⟩ := h'.server
  obtain rfl := Option.some.inj (htext.symm.trans htext')
  have hserver : c.server = c'.server := Except.ok.inj (hparse.symm.trans hparse')
  have htls : c.tls = c'.tls := by
    by_cases hc : c.tls = .acceptInvalid
    · exact hc.trans (h'.unchecked.mpr (h.unchecked.mp hc)).symm
    · have hc' : c'.tls ≠ .acceptInvalid := fun he => hc (h.unchecked.mpr (h'.unchecked.mp he))
      exact Option.some.inj ((h.checked hc).symm.trans (h'.checked hc'))
  have htimeout := Option.some.inj (h.timeout.symm.trans h'.timeout)
  have hceiling := Option.some.inj (h.expansionCeiling.symm.trans h'.expansionCeiling)
  have hdisk := Option.some.inj (h.diskCounter.symm.trans h'.diskCounter)
  have hcpu := Option.some.inj (h.cpuCounter.symm.trans h'.cpuCounter)
  cases c
  cases c'
  simp_all only

theorem override_unchecked (g : GlobalOptions) (p : Profile) (d : Defaults) :
    (g.override p).tls d = .acceptInvalid ↔
      g.insecure = true ∨ highest? [p.insecure, some d.insecure] = some true := by
  have hlayers : highest? [p.insecure, some d.insecure] = some (p.insecure.getD d.insecure) := by
    cases hp : p.insecure <;> simp
  have hover : (g.override p).insecure.getD d.insecure = true ↔
      g.insecure = true ∨ p.insecure.getD d.insecure = true := by
    cases hg : g.insecure <;> simp [override, hg]
  rw [hlayers, Option.some.injEq, ← hover, Profile.tls]
  split
  · rename_i h
    simp [h]
  · rename_i h
    refine iff_of_false (fun hcert => ?_) h
    split at hcert <;> cases hcert

theorem override_checked (g : GlobalOptions) (p : Profile) (d : Defaults)
    (h : (g.override p).tls d ≠ .acceptInvalid) :
    highest? [p.caCert.map TlsVerification.customCa, some .systemDefaults] =
      some ((g.override p).tls d) := by
  have hcert : (g.override p).caCert = p.caCert := rfl
  unfold Profile.tls at h ⊢
  split at h
  · exact absurd rfl h
  · rename_i hchecked
    rw [if_neg hchecked, hcert]
    cases p.caCert <;> simp

/-- A server is given or stored, and what is given goes over what is stored. -/
theorem override_server {text : String} :
    highest? [g.server, (g.storedProfile? s).map Profile.server] = some text ↔
      (g.server.isSome ∨ (g.storedProfile? s).isSome) ∧
        (g.override ((g.storedProfile? s).getD {})).server = text := by
  cases hg : g.server with
  | some server => simp [override, hg]
  | none => cases hs : g.storedProfile? s <;> simp [override, hg]

theorem consoleConfig_eq_ok_iff_override {c : ConsoleConfig} :
    g.consoleConfig s settingsPath = .ok c ↔
      (g.server.isSome ∨ (g.storedProfile? s).isSome) ∧
        (g.override ((g.storedProfile? s).getD {})).toConsoleConfig s.defaults = .ok c := by
  cases hp : g.effectiveProfile s settingsPath with
  | error e =>
    have hnone : ¬ (g.server.isSome ∨ (g.storedProfile? s).isSome) := by
      intro h
      rw [effectiveProfile_eq_ok_iff.mpr ⟨h, rfl⟩] at hp
      cases hp
    simp only [consoleConfig, hp, hnone, false_and, iff_false]
    intro h
    cases h
  | ok p =>
    obtain ⟨hsome, rfl⟩ := effectiveProfile_eq_ok_iff.mp hp
    simp only [consoleConfig, hp, hsome, true_and]
    change Except.mapError _ _ = _ ↔ _
    cases (g.override ((g.storedProfile? s).getD {})).toConsoleConfig s.defaults <;>
      simp [Except.mapError]

theorem resolves_of_consoleConfig {c : ConsoleConfig}
    (h : g.consoleConfig s settingsPath = .ok c) : g.Resolves s c := by
  obtain ⟨hsome, hconfig⟩ := consoleConfig_eq_ok_iff_override.mp h
  obtain ⟨server, hparse, hweb, rfl⟩ := Profile.toConsoleConfig_eq_ok_iff.mp hconfig
  have hbind {α : Type} (field : Profile → Option α) (hempty : field {} = none) :
      (g.storedProfile? s).bind field = field ((g.storedProfile? s).getD {}) := by
    cases g.storedProfile? s with
    | none => exact hempty.symm
    | some stored => rfl
  constructor
  case server => exact ⟨_, override_server.mpr ⟨hsome, rfl⟩, hparse⟩
  case web => exact hweb
  case unchecked =>
    rw [hbind _ rfl]
    exact override_unchecked _ _ _
  case checked =>
    rw [hbind _ rfl]
    exact override_checked _ _ _
  case timeout | expansionCeiling | diskCounter | cpuCounter =>
    rw [hbind _ rfl]
    simp [Profile.reaching, override, Option.getD_or]

theorem consoleConfig_eq_ok_iff {c : ConsoleConfig} :
    g.consoleConfig s settingsPath = .ok c ↔ g.Resolves s c := by
  refine ⟨resolves_of_consoleConfig, fun h => ?_⟩
  obtain ⟨text, htext, hparse⟩ := h.server
  obtain ⟨hsome, rfl⟩ := override_server.mp htext
  have hok : g.consoleConfig s settingsPath = .ok _ := consoleConfig_eq_ok_iff_override.mpr
    ⟨hsome, Profile.toConsoleConfig_eq_ok_iff.mpr ⟨_, hparse, h.web, rfl⟩⟩
  rw [h.unique (resolves_of_consoleConfig hok)]
  exact hok

theorem expansionCeiling_eq (g : GlobalOptions) (s : Settings) :
    highest? [(g.storedProfile? s).bind Profile.expansionCeiling,
      some s.defaults.expansionCeiling] = some (g.expansionCeiling s) := by
  simp [expansionCeiling, storedProfile?]

/-- The settings with an empty profile under the active name. -/
def standIn (g : GlobalOptions) (s : Settings) : Settings :=
  { s with profiles := s.profiles.insert (g.activeProfile s) {} }

theorem storedProfile?_standIn (g : GlobalOptions) (s : Settings) :
    g.storedProfile? (g.standIn s) = some {} := by
  have hname : g.activeProfile (g.standIn s) = g.activeProfile s := rfl
  rw [storedProfile?, hname, standIn, Dictionary.get?_insert, if_pos rfl]

/-- Where a server is given, no stored profile is as good as an empty one. -/
theorem consoleConfig_standIn {c : ConsoleConfig} (hstored : g.storedProfile? s = none)
    (hserver : g.server.isSome) :
    g.consoleConfig (g.standIn s) settingsPath = .ok c ↔
      g.consoleConfig s settingsPath = .ok c := by
  rw [consoleConfig_eq_ok_iff_override, consoleConfig_eq_ok_iff_override, storedProfile?_standIn,
    hstored]
  simp [hserver, standIn]

/-- A connection takes each setting from the highest layer that has it, and its ceiling is the one
that holds without a backend. Where no profile is stored, a server is given and an empty profile
stands in. -/
theorem consoleConfig_layered {c : ConsoleConfig}
    (h : g.consoleConfig s settingsPath = .ok c) :
    g.Resolves s c ∧ g.expansionCeiling s = c.expansionCeiling ∧
      (g.storedProfile? s = none →
        g.server.isSome ∧ g.consoleConfig (g.standIn s) settingsPath = .ok c) := by
  have hlayers : g.Resolves s c := consoleConfig_eq_ok_iff.mp h
  have hceiling : g.expansionCeiling s = c.expansionCeiling :=
    Option.some.inj ((expansionCeiling_eq g s).symm.trans hlayers.expansionCeiling)
  refine ⟨hlayers, hceiling, fun hnone => ?_⟩
  obtain ⟨hsome, -⟩ := consoleConfig_eq_ok_iff_override.mp h
  have hserver : g.server.isSome := by simpa [hnone] using hsome
  exact ⟨hserver, (consoleConfig_standIn hnone hserver).mpr h⟩

/-- A profile that checks certificates although the defaults do not. -/
def checkedLab : Settings where
  defaultProfile := some "lab"
  defaults := { timeout := 60, insecure := true }
  profiles := .ofList [("lab",
    { server := "http://10.0.0.2:8080", timeout := some 5, insecure := some false
      caCert := some "/etc/lab.pem", diskCounter := some 7 })]

/-- Nothing is stored under the name asked for, and certificates are not to be checked. -/
def elsewhere : GlobalOptions where
  profile := some "test"
  server := some "https://nms.test"
  insecure := true

theorem consoleConfig_layered_lab :
    (∃ c, ({ timeout := some 9 } : GlobalOptions).consoleConfig checkedLab "" = .ok c ∧
      ({ timeout := some 9 } : GlobalOptions).Resolves checkedLab c ∧
      c.tls = .customCa "/etc/lab.pem" ∧ c.timeout = 9) ∧
    ∃ c, elsewhere.consoleConfig checkedLab "" = .ok c ∧ elsewhere.Resolves checkedLab c ∧
      elsewhere.consoleConfig (elsewhere.standIn checkedLab) "" = .ok c ∧
      c.tls = .acceptInvalid ∧ c.timeout = 60 ∧ elsewhere.expansionCeiling checkedLab = 4096 := by
  have hlab : ({ timeout := some 9 } : GlobalOptions).consoleConfig checkedLab "" =
      .ok
        { server := { scheme := "http", host := some "10.0.0.2", port := some 8080, path := "/" }
          tls := .customCa "/etc/lab.pem", timeout := 9, diskCounter := 7 } := by
    decide +kernel
  have helsewhere : elsewhere.consoleConfig checkedLab "" =
      .ok
        { server := { scheme := "https", host := some "nms.test", path := "/" }
          tls := .acceptInvalid, timeout := 60 } := by
    decide +kernel
  obtain ⟨hlayers, -, -⟩ := consoleConfig_layered hlab
  obtain ⟨hlayers', hceiling, hstandIn⟩ := consoleConfig_layered helsewhere
  exact ⟨⟨_, hlab, hlayers, rfl, rfl⟩,
    ⟨_, helsewhere, hlayers', (hstandIn (by decide +kernel)).2, rfl, rfl, hceiling⟩⟩

end GlobalOptions
end DeviceConsole
