import DeviceConsole.Client.Error
import DeviceConsole.Command.Error
import DeviceConsole.Credential
import DeviceConsole.Proofs.Cidr
import DeviceConsole.Proofs.Discovery.Submit
import DeviceConsole.Proofs.Target.Block
import DeviceConsole.Proofs.Telemetry.Plan
import DeviceConsole.Selection

/-! Exit codes. What an operator gives wrong is told as such, with the field it is in; a failure of
a request never is, unless the server has no valid URL. -/
namespace DeviceConsole

open CommandError (ofConsole)

/-! ### Mistakes of the operator -/

namespace ConsoleError

/-- Told as a wrong value of one of these fields. -/
def Blames (e : ConsoleError) (fields : List String) : Prop :=
  ∃ field ∈ fields, ofConsole e = .invalidValue field e.message

/-- Every mistake of the operator is told as a wrong value with its own message, and nothing else
is. -/
theorem isValidation_iff {e : ConsoleError} :
    e.isValidation = true ↔ ∃ field, ofConsole e = .invalidValue field e.message := by
  cases e with
  | invalidAddresses | invalidCidr | tooManyTargets | noCredentials | repeatedCredential
  | invalidPort | invalidInput | invalidWindow | nothingSelected =>
    exact iff_of_true rfl ⟨_, rfl⟩
  | misconfigured m =>
    -- told as a wrong server, but without the words in front
    refine iff_of_false Bool.false_ne_true ?_
    rintro ⟨field, h⟩
    have hmessage : m = "Configuration error: " ++ m := (CommandError.invalidValue.inj h).2
    have hlength := congrArg String.length hmessage
    rw [String.length_append] at hlength
    exact absurd hlength (Nat.ne_of_lt (Nat.lt_add_of_pos_left (by decide)))
  | malformedTelemetry | unreachable | timedOut | notFound | refused | internal =>
    refine iff_of_false Bool.false_ne_true ?_
    rintro ⟨field, h⟩
    cases h

theorem Blames.exitCode {e : ConsoleError} {fields : List String} (h : e.Blames fields) :
    (ofConsole e).exitCode = 2 := by
  obtain ⟨field, -, htold⟩ := h
  rw [htold]
  rfl

theorem Blames.mono {e : ConsoleError} {fields others : List String} (h : e.Blames fields)
    (hsub : fields ⊆ others) : e.Blames others :=
  h.imp fun _ hfield => ⟨hsub hfield.1, hfield.2⟩

theorem blames_invalidInput (m : String) : (invalidInput m).Blames ["input"] :=
  ⟨_, List.mem_cons_self, rfl⟩

end ConsoleError

variable {e : ConsoleError}

theorem Cidr.parse_error {text : String} (h : Cidr.parse text = .error e) :
    e.Blames ["targets"] := by
  obtain rfl := parse_eq_error h
  exact ⟨_, List.mem_cons_self, rfl⟩

theorem Cidr.expand_error {b : Cidr} {ceiling : Nat} (h : b.expand ceiling = .error e) :
    e.Blames ["targets"] := by
  obtain ⟨-, rfl⟩ := expand_eq_error_iff.mp h
  exact ⟨_, List.mem_cons_self, rfl⟩

theorem TargetSpec.resolve_error {spec : TargetSpec} (h : spec.resolve = .error e) :
    e.Blames ["targets"] := by
  cases spec with
  | list tokens =>
    simp only [resolve] at h
    split at h
    · cases h
    · cases h
      exact ⟨_, List.mem_cons_self, rfl⟩
  | block text =>
    cases hparse : Cidr.parse text with
    | error e' =>
      rw [resolve, hparse] at h
      cases h
      exact Cidr.parse_error hparse
    | ok b =>
      rw [resolve, hparse] at h
      cases h

theorem Targets.expand_error {targets : Targets} {ceiling : Nat}
    (h : targets.expand ceiling = .error e) : e.Blames ["targets"] := by
  cases targets with
  | addresses set => cases h
  | block b =>
    cases hexpand : b.expand ceiling with
    | error e' =>
      rw [expand, hexpand] at h
      cases h
      exact Cidr.expand_error hexpand
    | ok addresses =>
      rw [expand, hexpand] at h
      cases h

theorem DiscoveryDraft.submit_error {d : DiscoveryDraft} (h : d.submit = .error e) :
    e.Blames ["credentials", "targets", "input"] := by
  cases submit_eq_error_iff.mp h with
  | noCredentials | repeatedCredential => exact ⟨_, List.mem_cons_self, rfl⟩
  | targets _ _ hresolve => exact (TargetSpec.resolve_error hresolve).mono (by simp)
  | noTargets => exact (ConsoleError.blames_invalidInput _).mono (by simp)

theorem Selection.request_error {s : Selection} (h : s.request = .error e) :
    e.Blames ["devices"] := by
  unfold request at h
  split at h
  · cases h
    exact ⟨_, List.mem_cons_self, rfl⟩
  · cases h

theorem QueryPlan.build_error {plan : QueryPlan} {now : Int64} (h : plan.build now = .error e) :
    e.Blames ["duration", "input"] := by
  cases build_eq_error_iff.mp h with
  | noDevice => exact (ConsoleError.blames_invalidInput _).mono (by simp)
  | noCounter => exact (ConsoleError.blames_invalidInput _).mono (by simp)
  | noWindow => exact ⟨_, List.mem_cons_self, rfl⟩

theorem parsePort_error {text : String} (h : parsePort text = .error e) : e.Blames ["port"] := by
  have hport : e = .invalidPort text := by
    unfold parsePort at h
    split at h
    · split at h <;> cases h
      rfl
    · cases h
      rfl
  rw [hport]
  exact ⟨_, List.mem_cons_self, rfl⟩

theorem CredentialDraft.ofForm_error {hostname password port : String}
    (h : ofForm hostname password port = .error e) : e.Blames ["port", "input"] := by
  simp only [ofForm] at h
  split at h
  · cases h
    exact (ConsoleError.blames_invalidInput _).mono (by simp)
  · split at h
    · cases h
      exact (ConsoleError.blames_invalidInput _).mono (by simp)
    · cases hparse : parsePort port with
      | error e' =>
        rw [hparse] at h
        cases h
        exact (parsePort_error hparse).mono (by simp)
      | ok n =>
        rw [hparse] at h
        cases h

/-- An operation refuses what it is given. The fields are those it may name. -/
inductive Refuses : List String → ConsoleError → Prop
  | targets {spec : TargetSpec} {e : ConsoleError} (h : spec.resolve = .error e) :
      Refuses ["targets"] e
  | expansion {targets : Targets} {ceiling : Nat} {e : ConsoleError}
      (h : targets.expand ceiling = .error e) : Refuses ["targets"] e
  | blockExpansion {b : Cidr} {ceiling : Nat} {e : ConsoleError}
      (h : b.expand ceiling = .error e) : Refuses ["targets"] e
  | draft {d : DiscoveryDraft} {e : ConsoleError} (h : d.submit = .error e) :
      Refuses ["credentials", "targets", "input"] e
  | selection {s : Selection} {e : ConsoleError} (h : s.request = .error e) :
      Refuses ["devices"] e
  | query {plan : QueryPlan} {now : Int64} {e : ConsoleError} (h : plan.build now = .error e) :
      Refuses ["duration", "input"] e
  | credential {hostname password port : String} {e : ConsoleError}
      (h : CredentialDraft.ofForm hostname password port = .error e) :
      Refuses ["port", "input"] e

theorem Refuses.blames {fields : List String} (h : Refuses fields e) : e.Blames fields := by
  cases h with
  | targets h => exact TargetSpec.resolve_error h
  | expansion h => exact Targets.expand_error h
  | blockExpansion h => exact Cidr.expand_error h
  | draft h => exact DiscoveryDraft.submit_error h
  | selection h => exact Selection.request_error h
  | query h => exact QueryPlan.build_error h
  | credential h => exact CredentialDraft.ofForm_error h

/-! ### Failures of a request -/

namespace RequestError

/-- The exit code that goes with a failure. A fault of the connection that tells neither of time
nor of a refusal counts by its status. -/
inductive ExitsWith : RequestError → UInt8 → Prop
  | timedOut {fault : ConnectionFault} {url : Option Url} (h : fault.timedOut = true) :
      ExitsWith (.connection fault url) 8
  | unreached {fault : ConnectionFault} {url : Option Url} (ht : fault.timedOut = false)
      (hr : fault.refused = true) : ExitsWith (.connection fault url) 7
  | tls (m : String) : ExitsWith (.tls m) 7
  | missing (m : String) : ExitsWith (.status 404 m) 4
  | faultMissing {fault : ConnectionFault} {url : Option Url} (ht : fault.timedOut = false)
      (hr : fault.refused = false) (hs : fault.status = some 404) :
      ExitsWith (.connection fault url) 4
  | refused {code : Nat} (m : String) (h : code ≠ 404) : ExitsWith (.status code m) 1
  | fault {fault : ConnectionFault} {url : Option Url} (ht : fault.timedOut = false)
      (hr : fault.refused = false) (hs : fault.status ≠ some 404) :
      ExitsWith (.connection fault url) 1
  | undecodable (m body : String) : ExitsWith (.undecodable m body) 1
  | invalidUrl (error : UrlError) : ExitsWith (.invalidUrl error) 2

variable {e : RequestError}

theorem ExitsWith.exitCode {code : UInt8} (h : e.ExitsWith code) :
    (ofConsole e.toConsoleError).exitCode = code := by
  cases h with
  | timedOut h => simp [toConsoleError, h, ofConsole, CommandError.exitCode]
  | unreached ht hr => simp [toConsoleError, ht, hr, ofConsole, CommandError.exitCode]
  | faultMissing ht hr hs | fault ht hr hs =>
    simp [toConsoleError, ht, hr, hs, ofConsole, CommandError.exitCode]
  | refused m h => simp [toConsoleError, h, ofConsole, CommandError.exitCode]
  | tls | missing | undecodable | invalidUrl => rfl

theorem exists_exitsWith (e : RequestError) : ∃ code, e.ExitsWith code := by
  cases e with
  | connection fault url =>
    cases ht : fault.timedOut with
    | true => exact ⟨8, .timedOut ht⟩
    | false =>
      cases hr : fault.refused with
      | true => exact ⟨7, .unreached ht hr⟩
      | false =>
        by_cases hs : fault.status = some 404
        · exact ⟨4, .faultMissing ht hr hs⟩
        · exact ⟨1, .fault ht hr hs⟩
  | status code m =>
    by_cases h : code = 404
    · subst h
      exact ⟨4, .missing m⟩
    · exact ⟨1, .refused m h⟩
  | invalidUrl error => exact ⟨2, .invalidUrl error⟩
  | tls m => exact ⟨7, .tls m⟩
  | undecodable m body => exact ⟨1, .undecodable m body⟩

theorem exitsWith_iff {code : UInt8} :
    e.ExitsWith code ↔ (ofConsole e.toConsoleError).exitCode = code := by
  refine ⟨ExitsWith.exitCode, ?_⟩
  rintro rfl
  obtain ⟨code, h⟩ := exists_exitsWith e
  rwa [h.exitCode]

theorem toConsoleError_isValidation (e : RequestError) :
    e.toConsoleError.isValidation = false := by
  cases e with
  | connection fault url =>
    simp only [toConsoleError]
    split_ifs <;> rfl
  | status code m =>
    simp only [toConsoleError]
    split_ifs <;> rfl
  | _ => rfl

end RequestError

/-- Whatever an operation refuses is a mistake of the operator, told with a field it may name, and
exits with 2. No failure of a request is a mistake, its exit code is that of its kind, and only a
server without a valid URL shares the 2. -/
theorem exitCode_apart :
    (∀ fields e, Refuses fields e → e.isValidation = true ∧
      (∃ field ∈ fields, ofConsole e = .invalidValue field e.message) ∧
      (ofConsole e).exitCode = 2) ∧
    ∀ e : RequestError, e.toConsoleError.isValidation = false ∧
      (∀ code, (ofConsole e.toConsoleError).exitCode = code ↔ e.ExitsWith code) ∧
      ((ofConsole e.toConsoleError).exitCode = 2 ↔ ∃ error, e = .invalidUrl error) := by
  constructor
  · intro fields e h
    obtain ⟨field, hfield, htold⟩ := h.blames
    exact ⟨ConsoleError.isValidation_iff.mpr ⟨field, htold⟩, h.blames, h.blames.exitCode⟩
  · intro e
    refine ⟨e.toConsoleError_isValidation, fun code => RequestError.exitsWith_iff.symm, ?_⟩
    rw [← RequestError.exitsWith_iff]
    constructor
    · intro h
      cases h with
      | invalidUrl error => exact ⟨error, rfl⟩
    · rintro ⟨error, rfl⟩
      exact .invalidUrl error

/-- A block that is too large and a blank form are told to the operator; a page that is missing and
a server that cannot be read keep their codes. -/
theorem exitCode_apart_block :
    let b : Cidr := ⟨⟨0x0A000000⟩, 16, by decide⟩
    b.expand 4096 = .error (.tooManyTargets 65536 4096) ∧
      (∃ field ∈ ["targets"], ofConsole (.tooManyTargets 65536 4096) =
        .invalidValue field (ConsoleError.tooManyTargets 65536 4096).message) ∧
      (∃ e, CredentialDraft.ofForm " " "" "" = .error e ∧ (ofConsole e).exitCode = 2) ∧
      (ofConsole (RequestError.status 404 "gone").toConsoleError).exitCode = 4 ∧
      (ofConsole (RequestError.invalidUrl .emptyHost).toConsoleError).exitCode = 2 := by
  intro b
  obtain ⟨hmistakes, hfailures⟩ := exitCode_apart
  have hexpand : b.expand 4096 = .error (.tooManyTargets 65536 4096) := by decide
  have hform : CredentialDraft.ofForm " " "" "" =
      .error (.invalidInput "hostname must not be empty") := by decide
  obtain ⟨-, htold, -⟩ := hmistakes _ _ (.blockExpansion hexpand)
  obtain ⟨-, -, hexit⟩ := hmistakes _ _ (.credential hform)
  obtain ⟨-, hcode, -⟩ := hfailures (.status 404 "gone")
  obtain ⟨-, -, hserver⟩ := hfailures (.invalidUrl .emptyHost)
  exact ⟨hexpand, htold, ⟨_, hform, hexit⟩, (hcode 4).mpr (.missing "gone"),
    hserver.mpr ⟨_, rfl⟩⟩

end DeviceConsole
