import DeviceConsole.Proofs.Address.Quad
import DeviceConsole.Proofs.Client.Resource
import DeviceConsole.Proofs.Discovery.Request
import DeviceConsole.Proofs.Json.Roundtrip

/-! The form of a credential profile. Which texts it takes, what a draft holds of them and what is
sent for it, and which field is blamed otherwise. -/
namespace DeviceConsole

/-! ### Port -/

/-- Digits with white space around them, whose value sixteen bits hold. Any number of zeros may
stand in front. -/
structure IsPortText (text : String) : Prop where
  ne_nil : Text.trimChars text.toList ≠ []
  digits : ∀ c ∈ Text.trimChars text.toList, c.isDigit = true
  value_le : Nat.ofDigitChars 10 (Text.trimChars text.toList) 0 ≤ 65535

/-- The text is the port, with white space around it and any number of zeros in front. -/
def SpellsPort (text : String) (port : UInt16) : Prop :=
  Padded port.toNat (Text.trimChars text.toList)

theorem parsePort_eq_ok_iff {text : String} {port : UInt16} :
    parsePort text = .ok port ↔ SpellsPort text port := by
  have hle : port.toNat ≤ 65535 := Nat.le_of_lt_succ port.toNat_lt
  constructor
  · intro h
    unfold parsePort at h
    split at h
    · rename_i n hread
      obtain ⟨hdigits, hvalue⟩ := Decimal.readDigits?_eq_some_iff.mp hread
      obtain ⟨hne, hall⟩ := Decimal.isDigits_iff.mp hdigits
      split at h
      · rename_i hn
        cases h
        rw [SpellsPort, UInt16.toNat_ofNat_of_lt' (show n < 65536 by omega), ← hvalue]
        exact .of_isDigit hne hall
      · cases h
    · cases h
  · intro h
    simp [parsePort, Padded.readDigits? h, hle]

theorem parsePort_eq_error {text : String} {e : ConsoleError} (h : parsePort text = .error e) :
    e = .invalidPort text := by
  unfold parsePort at h
  split at h
  · split at h <;> cases h
    rfl
  · cases h
    rfl

theorem isPortText_iff {text : String} : IsPortText text ↔ ∃ port, SpellsPort text port := by
  constructor
  · rintro ⟨hne, hdigits, hle⟩
    refine ⟨UInt16.ofNat (Nat.ofDigitChars 10 (Text.trimChars text.toList) 0), ?_⟩
    rw [SpellsPort, UInt16.toNat_ofNat_of_lt' (Nat.lt_succ_of_le hle)]
    exact .of_isDigit hne hdigits
  · rintro ⟨port, h⟩
    obtain ⟨hdigits, hvalue⟩ := Decimal.readDigits?_eq_some_iff.mp (Padded.readDigits? h)
    obtain ⟨hne, hall⟩ := Decimal.isDigits_iff.mp hdigits
    exact ⟨hne, hall, hvalue ▸ Nat.le_of_lt_succ port.toNat_lt⟩

/-! ### Fields -/

namespace CredentialDraft

variable {hostname password port : String} {d : CredentialDraft} {e : ConsoleError}

/-- The draft holds the three fields of the form, none of which is at fault. -/
structure Holds (d : CredentialDraft) (hostname password port : String) : Prop where
  hostname_eq : d.hostname = Text.trim hostname
  hostname_ne : Text.trim hostname ≠ ""
  password_eq : d.password = password
  password_ne : password ≠ ""
  port_spelled : SpellsPort port d.port

/-- What is reported for the first field at fault. -/
inductive FirstFault (hostname password port : String) : ConsoleError → Prop
  | hostname (hhostname : Text.trim hostname = "") :
      FirstFault hostname password port (.invalidInput "hostname must not be empty")
  | password (hhostname : Text.trim hostname ≠ "") (hpassword : password = "") :
      FirstFault hostname password port (.invalidInput "password must not be empty")
  | port (hhostname : Text.trim hostname ≠ "") (hpassword : password ≠ "")
      (hport : ¬ IsPortText port) : FirstFault hostname password port (.invalidPort port)

theorem ofForm_of_ne (hhostname : Text.trim hostname ≠ "") (hpassword : password ≠ "") :
    ofForm hostname password port =
      (parsePort port).map fun port => { hostname := Text.trim hostname, password, port } := by
  simp [ofForm, hhostname, hpassword]

theorem Holds.ofForm (h : d.Holds hostname password port) :
    ofForm hostname password port = .ok d := by
  obtain ⟨hhostname, hne, rfl, hpassword, hport⟩ := h
  rw [ofForm_of_ne hne hpassword, parsePort_eq_ok_iff.mpr hport, ← hhostname]
  rfl

theorem FirstFault.ofForm (h : FirstFault hostname password port e) :
    ofForm hostname password port = .error e := by
  cases h with
  | hostname hhostname => simp [CredentialDraft.ofForm, hhostname]
  | password hhostname hpassword => simp [CredentialDraft.ofForm, hhostname, hpassword]
  | port hhostname hpassword hport =>
    rw [ofForm_of_ne hhostname hpassword]
    cases hparse : parsePort port with
    | ok n => exact absurd (isPortText_iff.mpr ⟨n, parsePort_eq_ok_iff.mp hparse⟩) hport
    | error e => rw [parsePort_eq_error hparse]; rfl

/-- A form makes a draft or has a first fault. -/
theorem holds_or_firstFault (hostname password port : String) :
    (∃ d, Holds d hostname password port) ∨ ∃ e, FirstFault hostname password port e := by
  by_cases hhostname : Text.trim hostname = ""
  · exact .inr ⟨_, .hostname hhostname⟩
  by_cases hpassword : password = ""
  · exact .inr ⟨_, .password hhostname hpassword⟩
  by_cases hport : IsPortText port
  · obtain ⟨n, hn⟩ := isPortText_iff.mp hport
    exact .inl ⟨⟨_, _, n⟩, rfl, hhostname, rfl, hpassword, hn⟩
  · exact .inr ⟨_, .port hhostname hpassword hport⟩

theorem ofForm_eq_ok_iff :
    ofForm hostname password port = .ok d ↔ d.Holds hostname password port := by
  refine ⟨fun h => ?_, Holds.ofForm⟩
  obtain ⟨b, hb⟩ | ⟨e, he⟩ := holds_or_firstFault hostname password port
  · cases h.symm.trans hb.ofForm
    exact hb
  · cases h.symm.trans he.ofForm

theorem ofForm_eq_error_iff :
    ofForm hostname password port = .error e ↔ FirstFault hostname password port e := by
  refine ⟨fun h => ?_, FirstFault.ofForm⟩
  obtain ⟨b, hb⟩ | ⟨f, hf⟩ := holds_or_firstFault hostname password port
  · cases h.symm.trans hb.ofForm
  · cases h.symm.trans hf.ofForm
    exact hf

/-! ### Body -/

/-- What is sent, read as JSON, is a record of these three values. -/
structure Carries (body : Json) (hostname password : String) (port : UInt16) : Prop where
  read_eq : Json.read .all body.compact = .ok body
  record_eq : body.record? ["hostname", "password", "port"] =
    some [some (.str hostname), some (.str password), some (.int port.toNat)]

theorem carries_toJson (d : CredentialDraft) : Carries d.toJson d.hostname d.password d.port where
  read_eq := by
    have hport : d.port.toNat ≤ Json.significandLimit :=
      Nat.le_trans (Nat.le_of_lt d.port.toNat_lt) (by decide)
    refine Json.read_compact ?_
    simp [toJson, Json.ofNat, Json.Fits, Json.FitsFields, Json.Want.isNothing, Json.Want.ofField,
      Json.depthLimit, hport]
  record_eq := Json.record?_obj (by simp) rfl

end CredentialDraft

namespace Console

/-- A new profile, or another one under the id of a stored one. -/
def storeCredential (c : Console) (d : CredentialDraft) : Option Int64 → Call ConsoleError Unit
  | none => c.createCredential d
  | some id => c.updateCredential id d

def storeEndpoint : Option Int64 → String
  | none => "credential-profiles"
  | some id => s!"credential-profiles/{id}"

def storeRequest (c : Console) (d : CredentialDraft) (id : Option Int64) : Request :=
  { method := saveMethod id, url := c.client.endpoint (storeEndpoint id), body := some d.toJson }

theorem storeCredential_eq (c : Console) (d : CredentialDraft) (id : Option Int64) :
    c.storeCredential d id = lift (c.client.call Client.ignoreBody (saveMethod id)
      (storeEndpoint id) (some d.toJson)) := by
  cases id <;> rfl

theorem storeRequest_asksFor (c : Console) (d : CredentialDraft) (id : Option Int64) :
    c.client.AsksFor (c.storeRequest d id) (saveMethod id) (storeEndpoint id) := by
  cases id with
  | none => exact c.client.asksFor_resource .post .credentials _
  | some id => exact c.client.asksFor_resource .put (.credential id) _

/-- One request goes out for a draft, or none where the client's base allows no request. -/
theorem storeCredential_requests {σ : Type} (c : Console) (d : CredentialDraft)
    (id : Option Int64) (serve : Request → σ → Outcome × σ) (s : σ) :
    ((c.storeCredential d id).run.run serve s).requests =
      if c.client.base.isOpaque then [] else [c.storeRequest d id] := by
  rw [storeCredential_eq]
  cases hbase : c.client.base.isOpaque with
  | true => rw [lift_run_done (Client.call_run_opaque hbase _ _ _ _)]; rfl
  | false => rw [lift_run (Client.call_run hbase _ _ _ _)]; rfl

end Console

/-- The form is taken just where the trimmed hostname and the password are not empty and the port is
the text of one; blanks make a password. A draft holds the trimmed hostname, the password as it is
and the port, and however the backend behaves, what is sent for it, in one request that adds a
profile or replaces one, is a record of the three. Otherwise the first field at fault is reported,
a port as it was typed. -/
theorem CredentialDraft.ofForm_sent (hostname password port : String) :
    ((∃ d, ofForm hostname password port = .ok d) ↔
      Text.trim hostname ≠ "" ∧ password ≠ "" ∧ IsPortText port) ∧
    (∀ d, ofForm hostname password port = .ok d →
      d.hostname = Text.trim hostname ∧ d.password = password ∧ SpellsPort port d.port ∧
      ∀ {σ : Type} (c : Console) (id : Option Int64) (serve : Request → σ → Outcome × σ) (s : σ),
        let r := (c.storeCredential d id).run.run serve s
        (c.client.base.isOpaque = false → r.requests.length = 1) ∧
        ∀ q ∈ r.requests,
          c.client.AsksFor q (Console.saveMethod id) (Console.storeEndpoint id) ∧
          ∃ body, q.body = some body ∧ Carries body (Text.trim hostname) password d.port) ∧
    ∀ e, ofForm hostname password port = .error e ↔ FirstFault hostname password port e := by
  refine ⟨?_, fun d h => ?_, fun e => ofForm_eq_error_iff⟩
  · simp only [ofForm_eq_ok_iff]
    constructor
    · rintro ⟨d, h⟩
      exact ⟨h.hostname_ne, h.password_ne, isPortText_iff.mpr ⟨_, h.port_spelled⟩⟩
    · rintro ⟨hhostname, hpassword, hport⟩
      obtain ⟨n, hn⟩ := isPortText_iff.mp hport
      exact ⟨⟨_, _, n⟩, rfl, hhostname, rfl, hpassword, hn⟩
  · obtain ⟨hhostname, -, hpassword, -, hport⟩ := ofForm_eq_ok_iff.mp h
    refine ⟨hhostname, hpassword, hport, fun c id serve s => ?_⟩
    intro r
    have hrequests := c.storeCredential_requests d id serve s
    refine ⟨fun hbase => ?_, fun q hq => ?_⟩
    · rw [hrequests, hbase]
      rfl
    · rw [hrequests] at hq
      split at hq
      · cases hq
      · obtain rfl := List.mem_singleton.mp hq
        exact ⟨c.storeRequest_asksFor d id, _, rfl, hhostname ▸ hpassword ▸ carries_toJson d⟩

/-- The largest port behind zeros and between white space with a password of blanks, replacing a
profile; and a port above it, with a sign or in other digits, blamed as typed. -/
theorem CredentialDraft.ofForm_sent_padded :
    let d : CredentialDraft := { hostname := "nms lab", password := "  ", port := 65535 }
    let serve : Request → Nat → Outcome × Nat := fun _ n => (.refused, n + 1)
    ofForm "\u3000nms lab\n" "  " "\t0000065535 " = .ok d ∧
      (∃ q body,
        ((Console.ofBackend.storeCredential d (some (-4))).run.run serve 0).requests = [q] ∧
        Console.ofBackend.client.AsksFor q .put s!"credential-profiles/{(-4 : Int64)}" ∧
        q.body = some body ∧ Carries body "nms lab" "  " 65535) ∧
      ∀ port ∈ [" 65536", "+22", "\u0662\u0662", " "],
        ofForm "h" "p" port = .error (.invalidPort port) ∧ ¬ IsPortText port := by
  intro d serve
  have hform : ofForm "\u3000nms lab\n" "  " "\t0000065535 " = .ok d := by decide +kernel
  obtain ⟨-, hsent, -⟩ := ofForm_sent "\u3000nms lab\n" "  " "\t0000065535 "
  obtain ⟨-, -, -, hsent⟩ := hsent d hform
  obtain ⟨hone, hall⟩ := hsent Console.ofBackend (some (-4)) serve 0
  obtain ⟨q, hq⟩ := List.length_eq_one_iff.mp (hone rfl)
  obtain ⟨hasks, body, hbody, hcarries⟩ := hall q (hq ▸ List.mem_singleton_self q)
  have htrim : Text.trim "\u3000nms lab\n" = "nms lab" := by decide +kernel
  have herror : ∀ port ∈ [" 65536", "+22", "\u0662\u0662", " "],
      ofForm "h" "p" port = .error (.invalidPort port) := by decide +kernel
  refine ⟨hform, ⟨q, body, hq, hasks, hbody, htrim ▸ hcarries⟩, fun port hport => ?_⟩
  obtain ⟨-, -, hfault⟩ := ofForm_sent "h" "p" port
  cases (hfault _).mp (herror port hport) with
  | port _ _ hno => exact ⟨herror port hport, hno⟩

end DeviceConsole
