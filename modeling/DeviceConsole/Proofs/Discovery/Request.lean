import DeviceConsole.Proofs.Discovery.Draft
import DeviceConsole.Proofs.Json.Record
import DeviceConsole.Proofs.Provisioning.Serve

/-! What leaves the client when a draft is submitted: nothing for a draft with a fault, else one
request, whose body carries the draft's credentials and the targets its text denotes. -/
namespace DeviceConsole

/-! ### Bodies -/

namespace DiscoveryBody

theorem ofJson?_toJson (b : DiscoveryBody) : ofJson? b.toJson = some b := by
  have hid (id : Int64) : Json.toInt64? (.int id.toInt) = some id := Decimal.int64?_toInt id
  have hids : Json.toList? Json.toInt64? (Json.ofIds b.credentialIds) = some b.credentialIds :=
    Json.mapM_decode hid b.credentialIds
  have hips : DeviceIps.ofJson? b.ips.toJson = some b.ips := by
    cases b.ips with
    | cidr text => rfl
    | addresses ns =>
      have hns : Json.toList? Json.toUInt32? (.arr (ns.map fun n => .ofNat n.toNat)) = some ns :=
        Json.mapM_decode Json.toUInt32?_ofNat ns
      simp [DeviceIps.toJson, DeviceIps.ofJson?, hns]
  simp [toJson, ofJson?, Json.record?, Json.single?, Json.required?, hids, hips, Json.toBool?]

/-- The body stands for the draft: its credentials in order, and either the non-empty ascending
list of the addresses its text names, or the block its text denotes, in canonical form. -/
structure Describes (b : DiscoveryBody) (d : DiscoveryDraft) : Prop where
  credentials_eq : b.credentialIds = d.credentialIds
  credentials_ne_nil : b.credentialIds ≠ []
  credentials_nodup : b.credentialIds.Nodup
  targets :
    (d.targets.mode = .list ∧ b.isCidr = false ∧ ∃ ns, b.ips = .addresses ns ∧ ns ≠ [] ∧
      ns.Pairwise (· < ·) ∧ ∀ n, n ∈ ns ↔ TargetSpec.Names d.targets.text ⟨n⟩) ∨
    (d.targets.mode = .cidr ∧ b.isCidr = true ∧ ∃ text block, b.ips = .cidr text ∧
      Cidr.parse text = .ok block ∧ block.text = text ∧
      Cidr.parse (Text.trim d.targets.text) = .ok block)

theorem ofSubmission_describes {d : DiscoveryDraft} {s : DiscoverySubmission}
    (h : d.submit = .ok s) : (ofSubmission s).Describes d := by
  obtain ⟨hne, hd, hresolve, hempty, -, hids⟩ := DiscoveryDraft.submit_eq_ok_iff.mp h
  have hcredentials : (ofSubmission s).credentialIds = d.credentialIds := hids
  refine ⟨hcredentials, hcredentials ▸ hne, hcredentials ▸ hd, ?_⟩
  have hspec : (TargetSpec.ofInput d.targets.mode d.targets.text).resolve = .ok s.targets :=
    hresolve
  cases hm : d.targets.mode with
  | list =>
    rw [hm] at hspec
    obtain ⟨set, hset, hnames⟩ := TargetSpec.resolve_list_names hspec
    refine .inl ⟨rfl, by simp [ofSubmission, hset, Targets.isCidr], set.elems.map (·.packed),
      by simp [ofSubmission, hset, DeviceIps.ofTargets], fun hnil => ?_, ?_, fun n => ?_⟩
    · apply hempty
      rw [hset]
      exact Targets.size_eq_zero_iff.mp (by
        simpa [Targets.size, AddressSet.size] using congrArg List.length hnil)
    · exact List.pairwise_map.mpr set.ascending
    · rw [AddressSet.mem_packed, hnames]
  | cidr =>
    rw [hm] at hspec
    obtain ⟨block, hblock, hparse⟩ := TargetSpec.resolve_cidr_eq_ok hspec
    exact .inr ⟨rfl, by simp [ofSubmission, hblock, Targets.isCidr], block.text, block,
      by simp [ofSubmission, hblock, DeviceIps.ofTargets], block.parse_text, rfl, hparse⟩

end DiscoveryBody

namespace Console

/-! ### The conversation -/

def saveMethod : Option Int64 → Method
  | some _ => .put
  | none => .post

def saveEndpoint : Option Int64 → String
  | some id => s!"discovery-profiles/{id}"
  | none => "discovery-profiles"

/-- What is sent for a submission: a stored profile is replaced under its id, a new one is added. -/
def saveRequest (c : Console) (s : DiscoverySubmission) : Request :=
  { method := saveMethod s.id, url := c.client.endpoint (saveEndpoint s.id)
    body := some (DiscoveryBody.ofSubmission s).toJson }

/-- Whether an outcome of it is a success. -/
def saved (c : Console) (s : DiscoverySubmission) (o : Outcome) : Except ConsoleError Unit :=
  (Client.interpret Client.ignoreBody (c.saveRequest s) o).mapError RequestError.toConsoleError

def save (c : Console) (s : DiscoverySubmission) : Call RequestError Unit :=
  c.client.call Client.ignoreBody (saveMethod s.id) (saveEndpoint s.id)
    (some (DiscoveryBody.ofSubmission s).toJson)

theorem submitDiscovery_error {c : Console} {d : DiscoveryDraft} {e : ConsoleError}
    (h : d.submit = .error e) : (c.submitDiscovery d).run = .done (.error e) := by
  rw [submitDiscovery, h]
  rfl

theorem submitDiscovery_ok {c : Console} {d : DiscoveryDraft} {s : DiscoverySubmission}
    (h : d.submit = .ok s) : c.submitDiscovery d = (fun _ => s) <$> lift (c.save s) := by
  rw [submitDiscovery, h]
  obtain ⟨id, targets, ids⟩ := s
  cases id <;> rfl

/-- A draft without fault goes out in one request. -/
theorem submitDiscovery_run {c : Console} (hbase : c.client.base.isOpaque = false)
    {d : DiscoveryDraft} {s : DiscoverySubmission} (h : d.submit = .ok s) :
    (c.submitDiscovery d).run =
      .ask (c.saveRequest s) fun o => .done ((c.saved s o).map fun _ => s) := by
  have hlift : (lift (c.save s)).run = _ := lift_run (Client.call_run hbase _ _ _ _)
  rw [submitDiscovery_ok h, ExceptT.run_map, hlift]
  rfl

theorem submitDiscovery_opaque {c : Console} (hbase : c.client.base.isOpaque = true)
    {d : DiscoveryDraft} {s : DiscoverySubmission} (h : d.submit = .ok s) :
    (c.submitDiscovery d).run =
      .done (.error (RequestError.toConsoleError (.invalidUrl .relativeToOpaque))) := by
  have hlift : (lift (c.save s)).run = _ := lift_run_done (Client.call_run_opaque hbase _ _ _ _)
  rw [submitDiscovery_ok h, ExceptT.run_map, hlift]
  rfl

theorem saveRequest_asksFor (c : Console) (s : DiscoverySubmission) :
    c.client.AsksFor (c.saveRequest s) (saveMethod s.id) (saveEndpoint s.id) := by
  rw [saveRequest]
  cases s.id with
  | some id => exact c.client.asksFor_resource .put (.discovery id) _
  | none => exact c.client.asksFor_resource .post .discoveries _

/-- Whatever was done to a draft and however the backend behaves: a draft with a fault sends
nothing and reports the fault, one without sends one request, as long as the client's base allows
any, and what is sent replaces the profile the draft began with or adds a new one, with a body that
stands for the draft. -/
theorem submitDiscovery_requests {σ : Type} (c : Console) (s : DiscoveryDraft.Start)
    (as : List DiscoveryDraft.Action) (serve : Request → σ → Outcome × σ) (t : σ) :
    let d := DiscoveryDraft.run s as
    let r := (c.submitDiscovery d).run.run serve t
    d.editing = s.editing ∧
      (∀ e, d.submit = .error e → r.requests = [] ∧ r.value = .error e) ∧
      (c.client.base.isOpaque = false → ∀ sub, d.submit = .ok sub → r.requests.length = 1) ∧
      ∀ q ∈ r.requests,
        (match d.editing with
          | some id => c.client.AsksFor q .put s!"discovery-profiles/{id}"
          | none => c.client.AsksFor q .post "discovery-profiles") ∧
        ∃ b : DiscoveryBody, q.body = some b.toJson ∧ DiscoveryBody.ofJson? b.toJson = some b ∧
          b.Describes d := by
  intro d r
  refine ⟨DiscoveryDraft.run_editing s as, fun e h => ?_, fun hbase sub h => ?_, fun q hq => ?_⟩
  · simp only [r, submitDiscovery_error h]
    exact ⟨rfl, rfl⟩
  · simp only [r, submitDiscovery_run hbase h]
    rfl
  · cases h : d.submit with
    | error e =>
      simp only [r, submitDiscovery_error h] at hq
      cases hq
    | ok sub =>
      cases hbase : c.client.base.isOpaque with
      | true =>
        simp only [r, submitDiscovery_opaque hbase h] at hq
        cases hq
      | false =>
        simp only [r, submitDiscovery_run hbase h] at hq
        obtain rfl : q = c.saveRequest sub := List.mem_singleton.mp hq
        obtain ⟨-, -, -, -, hid, -⟩ := DiscoveryDraft.submit_eq_ok_iff.mp h
        refine ⟨?_, _, rfl, DiscoveryBody.ofJson?_toJson _,
          DiscoveryBody.ofSubmission_describes h⟩
        have hasks := c.saveRequest_asksFor sub
        rw [hid] at hasks
        cases hedit : d.editing with
        | some id => rw [hedit] at hasks; exact hasks
        | none => rw [hedit] at hasks; exact hasks

/-- A list reopened as a block, against a backend that refuses; a blank draft goes nowhere. -/
theorem submitDiscovery_requests_stored :
    let p : DiscoveryProfile :=
      { id := 9, targets := .addresses .empty, credentialIds := [2], isCidr := false }
    let d := DiscoveryDraft.run (.stored p)
      [.setMode .cidr, .editTargets " 10.0.0.7/08 ", .toggleCredential 4]
    let serve : Request → Nat → Outcome × Nat := fun _ n => (.refused, n + 1)
    let r := (ofBackend.submitDiscovery d).run.run serve 0
    (∃ q, r.requests = [q] ∧ ofBackend.client.AsksFor q .put s!"discovery-profiles/{p.id}" ∧
      ∃ b : DiscoveryBody, q.body = some b.toJson ∧ b.Describes d) ∧
      ((ofBackend.submitDiscovery .new).run.run serve 0).requests = [] := by
  intro p d serve r
  obtain ⟨-, -, hone, hall⟩ := submitDiscovery_requests ofBackend (.stored p)
    [.setMode .cidr, .editTargets " 10.0.0.7/08 ", .toggleCredential 4] serve 0
  let block : Cidr := ⟨⟨0x0A000007⟩, 8, by decide⟩
  have hsub : d.submit =
      .ok { id := some 9, targets := .block block, credentialIds := [2, 4] } := by
    decide
  obtain ⟨q, hq⟩ := List.length_eq_one_iff.mp (hone rfl _ hsub)
  obtain ⟨hasks, b, hbody, -, hdescribes⟩ := hall q (hq ▸ List.mem_singleton_self q)
  obtain ⟨-, hfault, -⟩ := submitDiscovery_requests ofBackend .blank [] serve 0
  exact ⟨⟨q, hq, hasks, b, hbody, hdescribes⟩, (hfault _ rfl).1⟩

end Console
end DeviceConsole
