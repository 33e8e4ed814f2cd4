import DeviceConsole.Command.Backend
import DeviceConsole.Proofs.Console.Listing
import DeviceConsole.Proofs.Discovery.Request
import DeviceConsole.Proofs.Wire.Codec

/-! Changing a stored profile: it is looked up in the listing, and goes back under its id with what
the operator named and the rest as it was listed. Only the form the targets were entered in is not
kept, since a listing spells every block out. -/
namespace DeviceConsole

/-! ### The stored profile -/

/-- A row whose profile can be submitted again as it stands. -/
structure DiscoveryRow.IsInOrder (row : DiscoveryRow) : Prop where
  located : ∀ w ∈ row.ips, ∃ a, w.resolve = .ok a
  targets : row.ips ≠ []
  credentials : row.credentialIds ≠ []
  distinct : row.credentialIds.Nodup

/-- A body that changes of a row only what is named: credentials unless there are none, and targets
where there are any. Targets that are kept go out as a list of their addresses. -/
structure DiscoveryBody.Revises (b : DiscoveryBody) (row : DiscoveryRow)
    (targets : Option (TargetMode × String)) (ids : List Int64) : Prop where
  credentials : b.credentialIds = if ids = [] then row.credentialIds else ids
  kept : targets = none → b.isCidr = false ∧ ∃ ns, b.ips = .addresses ns ∧ ns.Pairwise (· < ·) ∧
    ∀ n, n ∈ ns ↔ ∃ w ∈ row.ips, w.resolve = .ok ⟨n⟩
  named : ∀ mode text, targets = some (mode, text) →
    b.Describes { targets := .withText mode text, credentialIds := b.credentialIds }

/-- What is named can be submitted: no credential twice, and targets that denote an address. -/
structure BackendCommand.Submittable (targets : Option (TargetMode × String)) (ids : List Int64) :
    Prop where
  distinct : ids.Nodup
  denoted : ∀ mode text, targets = some (mode, text) →
    ∃ t, (TargetSpec.ofInput mode text).resolve = .ok t ∧ t ≠ .addresses .empty

namespace Console

variable {c : Console} {id : Int64} {rows : List DiscoveryRow} {row : DiscoveryRow}

/-- The rows an outcome of the listing stands for. -/
def profileRows (c : Console) (o : Outcome) : Except ConsoleError (List DiscoveryRow) :=
  Client.rowsOf c.profilesRequest "profiles" DiscoveryRow.fields DiscoveryRow.ofJson? o

/-- A body that is JSON stands for the rows it lists, however they are written. -/
theorem profileRows_answer {code : Nat} {body : String} {v : Json}
    (hcode : 200 ≤ code ∧ code < 300) (hread : Json.read .all body = .ok v)
    (hrows : Client.ListsRows "profiles" DiscoveryRow.Written v rows) :
    c.profileRows (.answer code body) = .ok rows := by
  have hlisted := (Client.listed?_eq_some_iff DiscoveryRow.ofJson?_eq_some_iff).mpr hrows
  rw [profileRows, Client.rowsOf_answer hcode hread profileRow_congr, hlisted]

/-- The first profile with an id is the first that is made of a row with it. -/
theorem find?_profilesOf (rows : List DiscoveryRow) (id : Int64) :
    (profilesOf rows).find? (fun p => p.id = id) =
      (rows.filter fun r => r.id = id).findSome? fun r => r.toProfile.toOption := by
  induction rows with
  | nil => rfl
  | cons r rows ih =>
    rw [List.filter_cons]
    cases hprofile : r.toProfile with
    | error e =>
      have hcons : profilesOf (r :: rows) = profilesOf rows :=
        List.filterMap_cons_none (by rw [hprofile]; rfl)
      rw [hcons, ih]
      by_cases hid : r.id = id
      · simp [hid, hprofile, Except.toOption]
      · simp [hid]
    | ok p =>
      have hp : p.id = r.id := by rw [(DiscoveryRow.toProfile_eq_ok_iff.mp hprofile).2]
      have hcons : profilesOf (r :: rows) = p :: profilesOf rows :=
        List.filterMap_cons_some (by rw [hprofile]; rfl)
      rw [hcons]
      by_cases hid : r.id = id
      · simp [hid, hp, hprofile, Except.toOption]
      · simp [hid, hp, ih]

/-- The profile that an outcome of the listing has under an id, for a command. -/
def found (c : Console) (id : Int64) (o : Outcome) : Except CommandError DiscoveryProfile :=
  match c.profilesListed o with
  | .error e => .error (.ofConsole e)
  | .ok profiles =>
      match profiles.find? fun p => p.id = id with
      | some p => .ok p
      | none => .error (.notFound "discovery profile" (toString id) "discovery list")

theorem found_id {o : Outcome} {p : DiscoveryProfile} (h : c.found id o = .ok p) : p.id = id := by
  unfold found at h
  split at h
  · cases h
  · split at h
    · rename_i hfind
      cases h
      simpa using List.find?_some hfind
    · cases h

theorem found_of_rows {o : Outcome} (h : c.profileRows o = .ok rows) :
    c.found id o = match (rows.filter fun r => r.id = id).findSome? (·.toProfile.toOption) with
      | some p => .ok p
      | none => .error (.notFound "discovery profile" (toString id) "discovery list") := by
  have hlisted : c.profilesListed o = .ok (profilesOf rows) := by
    change (c.profileRows o).map profilesOf = _
    rw [h]
    rfl
  rw [found, hlisted, ← find?_profilesOf]

theorem findProfile_run (h : c.client.base.isOpaque = false) (id : Int64) :
    (BackendCommand.findProfile c id).run =
      .ask c.profilesRequest fun o => .done (c.found id o) := by
  rw [BackendCommand.findProfile, ExceptT.run_bind]
  change (Except.mapError _ <$> c.listDiscovery.run >>= _) = _
  rw [listDiscovery_run h]
  change Exchange.ask _ _ = _
  congr
  funext o
  change Exchange.done (Except.mapError _ (c.profilesListed o)) >>= _ = _
  rw [Exchange.done_bind, found]
  cases c.profilesListed o with
  | error e => rfl
  | ok profiles =>
    simp only [Except.mapError]
    cases profiles.find? fun p => p.id = id <;> rfl

/-! ### The draft -/

theorem revised_eq (p : DiscoveryProfile) (targets : Option (TargetMode × String))
    (ids : List Int64) :
    BackendCommand.revised p targets ids =
      { editing := some p.id
        targets := targets.elim (DiscoveryDraft.ofProfile p).targets fun t => .withText t.1 t.2
        credentialIds := if ids = [] then p.credentialIds else ids } := by
  have hmode (f : TargetField) (mode : TargetMode) : (f.setMode mode).mode = mode := by
    by_cases h : mode = f.mode
    · rw [h, TargetField.setMode_mode_self]
    · rw [TargetField.setMode_of_ne h]
      rfl
  have htext (f : TargetField) (mode : TargetMode) (text : String) :
      (f.setMode mode).edit text = .withText mode text := by
    rw [TargetField.edit_eq_withText, hmode]
  obtain _ | ⟨mode, text⟩ := targets
  · cases ids <;> rfl
  · have hfield := htext (DiscoveryDraft.ofProfile p).targets mode text
    cases ids <;> exact congrArg (fun f => DiscoveryDraft.mk (some p.id) f _) hfield

/-- The profile a row in order makes. -/
structure IsProfileOf (row : DiscoveryRow) (p : DiscoveryProfile) : Prop where
  makes : row.toProfile = .ok p
  inOrder : row.IsInOrder

namespace IsProfileOf

variable {p : DiscoveryProfile} {targets : Option (TargetMode × String)} {ids : List Int64}
  {s : DiscoverySubmission}

theorem id_eq (h : IsProfileOf row p) : p.id = row.id := by
  rw [(DiscoveryRow.toProfile_eq_ok_iff.mp h.makes).2]

theorem credentialIds_eq (h : IsProfileOf row p) : p.credentialIds = row.credentialIds := by
  rw [(DiscoveryRow.toProfile_eq_ok_iff.mp h.makes).2]

/-- Its targets are the addresses the row lists. -/
theorem targets_eq (h : IsProfileOf row p) :
    ∃ set, p.targets = .addresses set ∧ ∀ a, a ∈ set ↔ ∃ w ∈ row.ips, w.resolve = .ok a := by
  rw [(DiscoveryRow.toProfile_eq_ok_iff.mp h.makes).2]
  refine ⟨_, rfl, fun a => ?_⟩
  simp only [AddressSet.mem_ofList, List.mem_filterMap, toOption_eq_some_iff]

theorem targets_ne (h : IsProfileOf row p) : p.targets ≠ .addresses .empty := by
  obtain ⟨set, hset, hmem⟩ := h.targets_eq
  obtain ⟨w, hw⟩ := List.exists_mem_of_ne_nil row.ips h.inOrder.targets
  obtain ⟨a, ha⟩ := h.inOrder.located w hw
  have hne : a ∈ set := (hmem a).mpr ⟨w, hw, ha⟩
  rw [hset]
  rintro ⟨⟩
  cases hne

theorem credentials (h : IsProfileOf row p) (hids : ids.Nodup) :
    (BackendCommand.revised p targets ids).credentialIds ≠ [] ∧
      (BackendCommand.revised p targets ids).credentialIds.Nodup := by
  rw [revised_eq]
  dsimp only
  split
  · exact h.credentialIds_eq ▸ ⟨h.inOrder.credentials, h.inOrder.distinct⟩
  · rename_i hne
    exact ⟨hne, hids⟩

/-- The draft is submitted where what is named can be. -/
theorem submit_iff (h : IsProfileOf row p) :
    (∃ s, (BackendCommand.revised p targets ids).submit = .ok s) ↔
      BackendCommand.Submittable targets ids := by
  constructor
  · rintro ⟨s, hs⟩
    obtain ⟨-, hd, hresolve, hempty, -⟩ := DiscoveryDraft.submit_eq_ok_iff.mp hs
    rw [revised_eq] at hd hresolve
    refine ⟨?_, fun mode text ht => ?_⟩
    · by_cases hids : ids = []
      · exact hids ▸ List.nodup_nil
      · simpa [hids] using hd
    · subst ht
      exact ⟨s.targets, hresolve, hempty⟩
  · intro hsub
    have hlisted : (BackendCommand.revised p targets ids).credentialIds ≠ [] ∧
        (BackendCommand.revised p targets ids).credentialIds.Nodup := h.credentials hsub.distinct
    obtain ⟨hne, hd⟩ := hlisted
    have hresolve : ∃ t, (BackendCommand.revised p targets ids).targets.resolve = .ok t ∧
        t ≠ .addresses .empty := by
      rw [revised_eq]
      match targets with
      | none => exact ⟨p.targets, DiscoveryDraft.ofProfile_resolve p, h.targets_ne⟩
      | some (mode, text) => exact hsub.denoted mode text rfl
    obtain ⟨t, ht, hempty⟩ := hresolve
    exact ⟨⟨_, t, _⟩, DiscoveryDraft.submit_eq_ok_iff.mpr ⟨hne, hd, ht, hempty, rfl, rfl⟩⟩

/-- What is submitted changes only what is named. -/
theorem revises (h : IsProfileOf row p)
    (hs : (BackendCommand.revised p targets ids).submit = .ok s) :
    (DiscoveryBody.ofSubmission s).Revises row targets ids := by
  obtain ⟨-, -, hresolve, -, -, hids⟩ := DiscoveryDraft.submit_eq_ok_iff.mp hs
  have hdescribes := DiscoveryBody.ofSubmission_describes hs
  rw [revised_eq] at hresolve hids hdescribes
  refine ⟨?_, ?_, ?_⟩
  · rw [← h.credentialIds_eq]
    exact hids
  · rintro rfl
    obtain ⟨set, hset, hmem⟩ := h.targets_eq
    have htargets : s.targets = .addresses set := by
      rw [← hset]
      exact Except.ok.inj (hresolve.symm.trans (DiscoveryDraft.ofProfile_resolve p))
    refine ⟨by simp [DiscoveryBody.ofSubmission, htargets, Targets.isCidr],
      set.elems.map (·.packed), by simp [DiscoveryBody.ofSubmission, htargets, DeviceIps.ofTargets],
      List.pairwise_map.mpr set.ascending, fun n => ?_⟩
    rw [AddressSet.mem_packed, hmem]
  · rintro mode text rfl
    obtain ⟨hcredentials, hne, hd, htargets⟩ := hdescribes
    exact ⟨rfl, hne, hd, htargets⟩

end IsProfileOf

/-! ### The conversation -/

/-- What the command tells of a draft that went out. -/
def submitted (c : Console) (g : GlobalOptions) (s : DiscoverySubmission) (o : Outcome) :
    Except CommandError Report :=
  match c.saved s o with
  | .error e => .error (.ofConsole e)
  | .ok () => .ok (g.note ("Discovery profile updated: " ++ s.targets.text ++ " (" ++
      toString s.targets.size ++ " target(s))"))

/-- How the command goes on with a draft. -/
def sendDraft (c : Console) (g : GlobalOptions) (d : DiscoveryDraft) :
    Exchange (Except CommandError Report) :=
  match d.submit with
  | .error e => .done (.error (.ofConsole e))
  | .ok s => .ask (c.saveRequest s) fun o => .done (c.submitted g s o)

theorem submitUpdate_run (h : c.client.base.isOpaque = false) (g : GlobalOptions)
    (d : DiscoveryDraft) : (BackendCommand.submit c g "updated" d).run = c.sendDraft g d := by
  rw [BackendCommand.submit, ExceptT.run_bind]
  change (Except.mapError _ <$> (c.submitDiscovery d).run >>= _) = _
  unfold sendDraft
  cases hd : d.submit with
  | error e =>
    rw [submitDiscovery_error hd]
    rfl
  | ok s =>
    rw [submitDiscovery_run h hd]
    change Exchange.ask _ _ = _
    congr
    funext o
    change Exchange.done (Except.mapError _ ((c.saved s o).map fun _ => s)) >>= _ = _
    rw [Exchange.done_bind, submitted]
    cases c.saved s o <;> rfl

/-- How the command goes on once the listing is answered. -/
def heardProfiles (c : Console) (g : GlobalOptions) (id : Int64)
    (targets : Option (TargetMode × String)) (ids : List Int64) (o : Outcome) :
    Exchange (Except CommandError Report) :=
  match c.found id o with
  | .error e => .done (.error e)
  | .ok p => c.sendDraft g (BackendCommand.revised p targets ids)

theorem updateDiscovery_run (h : c.client.base.isOpaque = false) (g : GlobalOptions) (now : Int64)
    (id : Int64) (targets : Option (TargetMode × String)) (ids : List Int64) :
    (BackendCommand.run c g now (.updateDiscovery id targets ids)).run =
      .ask c.profilesRequest (c.heardProfiles g id targets ids) := by
  rw [BackendCommand.run, ExceptT.run_bind, findProfile_run h, Exchange.ask_bind]
  congr
  funext o
  rw [Exchange.done_bind, heardProfiles]
  cases c.found id o with
  | error e => rfl
  | ok p => exact submitUpdate_run h g _

section Heard

variable {p : DiscoveryProfile} {targets : Option (TargetMode × String)} {ids : List Int64}
  {o : Outcome}

theorem heardProfiles_missing {e : CommandError} (h : c.found id o = .error e)
    (g : GlobalOptions) : c.heardProfiles g id targets ids o = .done (.error e) := by
  rw [heardProfiles, h]

theorem heardProfiles_fault {e : ConsoleError} (h : c.found id o = .ok p)
    (hsub : (BackendCommand.revised p targets ids).submit = .error e) (g : GlobalOptions) :
    c.heardProfiles g id targets ids o = .done (.error (.ofConsole e)) := by
  rw [heardProfiles, h]
  dsimp only
  rw [sendDraft, hsub]

/-- A draft that can be submitted goes out in one request. -/
theorem heardProfiles_sent {s : DiscoverySubmission} (h : c.found id o = .ok p)
    (hsub : (BackendCommand.revised p targets ids).submit = .ok s) (g : GlobalOptions) :
    c.heardProfiles g id targets ids o =
      .ask (c.saveRequest s) fun o => .done (c.submitted g s o) := by
  rw [heardProfiles, h]
  dsimp only
  rw [sendDraft, hsub]

end Heard

/-- The profile of the one row in order that has the id is what the command finds. -/
theorem found_of_row {o : Outcome} (hrows : c.profileRows o = .ok rows)
    (hone : rows.filter (fun r => r.id = id) = [row]) (h : row.IsInOrder) :
    ∃ p, c.found id o = .ok p ∧ IsProfileOf row p := by
  have hp := DiscoveryRow.toProfile_eq_ok_iff.mpr ⟨h.located, rfl⟩
  refine ⟨_, ?_, hp, h⟩
  rw [found_of_rows hrows, hone, List.findSome?_singleton, hp]
  rfl

/-- Without a row that has the id and can be read there is nothing to find. -/
theorem found_of_no_row {o : Outcome} (hrows : c.profileRows o = .ok rows)
    (hnone : ∀ r ∈ rows, r.id = id → ∃ w ∈ r.ips, ∀ a, w.resolve ≠ .ok a) :
    c.found id o = .error (.notFound "discovery profile" (toString id) "discovery list") := by
  have hfind :
      (rows.filter fun r => r.id = id).findSome? (fun r => r.toProfile.toOption) = none := by
    refine List.findSome?_eq_none_iff.mpr fun r hr => ?_
    obtain ⟨hmem, hid⟩ := List.mem_filter.mp hr
    obtain ⟨w, hw, hbad⟩ := hnone r hmem (of_decide_eq_true hid)
    refine Option.eq_none_iff_forall_ne_some.mpr fun p hp => ?_
    obtain ⟨hlocated, -⟩ := DiscoveryRow.toProfile_eq_ok_iff.mp (toOption_eq_some_iff.mp hp)
    obtain ⟨a, ha⟩ := hlocated w hw
    exact hbad a ha
  rw [found_of_rows hrows, hfind]

theorem revised_asksFor {p : DiscoveryProfile} {targets : Option (TargetMode × String)}
    {ids : List Int64} {s : DiscoverySubmission}
    (h : (BackendCommand.revised p targets ids).submit = .ok s) :
    c.client.AsksFor (c.saveRequest s) .put s!"discovery-profiles/{p.id}" := by
  obtain ⟨-, -, -, -, hid, -⟩ := DiscoveryDraft.submit_eq_ok_iff.mp h
  have hasks := c.saveRequest_asksFor s
  rw [hid, revised_eq] at hasks
  exact hasks

/-- However the backend behaves, a change of a profile looks at the listing and then sends one
request at most, which replaces the profile with that id. Where one row of the listing has the id
and is in order, the request is sent if what the operator named can be submitted, and it changes
nothing but that; otherwise the command fails. It also fails, for want of such a profile, where no
row that can be read has the id. -/
theorem updateDiscovery_frame {σ : Type} (hbase : c.client.base.isOpaque = false)
    (g : GlobalOptions) (now : Int64) (id : Int64) (targets : Option (TargetMode × String))
    (ids : List Int64) (serve : Request → σ → Outcome × σ) (t : σ) :
    let r := (BackendCommand.run c g now (.updateDiscovery id targets ids)).run.run serve t
    (r.requests = [c.profilesRequest] ∨ ∃ q, r.requests = [c.profilesRequest, q] ∧
      c.client.AsksFor q .put s!"discovery-profiles/{id}") ∧
    ∀ rows, c.profileRows (serve c.profilesRequest t).1 = .ok rows →
      (∀ row, rows.filter (fun r => r.id = id) = [row] → row.IsInOrder →
        (BackendCommand.Submittable targets ids → ∃ q b, r.requests = [c.profilesRequest, q] ∧
          q.body = some (DiscoveryBody.toJson b) ∧ b.Revises row targets ids) ∧
        (¬ BackendCommand.Submittable targets ids →
          r.requests = [c.profilesRequest] ∧ ∃ e, r.value = .error e)) ∧
      ((∀ row ∈ rows, row.id = id → ∃ w ∈ row.ips, ∀ a, w.resolve ≠ .ok a) →
        r.requests = [c.profilesRequest] ∧
          r.value = .error (.notFound "discovery profile" (toString id) "discovery list")) := by
  intro r
  have hr : r = _ :=
    congrArg (fun x => x.run serve t) (updateDiscovery_run hbase g now id targets ids)
  rw [Exchange.run_ask] at hr
  generalize (serve c.profilesRequest t).1 = o at hr ⊢
  generalize (serve c.profilesRequest t).2 = t' at hr
  refine ⟨?_, fun rows hrows => ⟨fun row hone horder => ?_, fun hnone => ?_⟩⟩
  · cases hfound : c.found id o with
    | error e =>
      rw [hr, heardProfiles_missing hfound]
      exact .inl rfl
    | ok p =>
      cases hsub : (BackendCommand.revised p targets ids).submit with
      | error e =>
        rw [hr, heardProfiles_fault hfound hsub]
        exact .inl rfl
      | ok s =>
        rw [hr, heardProfiles_sent hfound hsub]
        exact .inr ⟨_, rfl, found_id hfound ▸ revised_asksFor hsub⟩
  · obtain ⟨p, hfound, hp⟩ := found_of_row hrows hone horder
    rw [← hp.submit_iff]
    constructor
    · rintro ⟨s, hsub⟩
      rw [hr, heardProfiles_sent hfound hsub]
      exact ⟨_, _, rfl, rfl, hp.revises hsub⟩
    · intro hfault
      cases hsub : (BackendCommand.revised p targets ids).submit with
      | ok s => exact absurd ⟨s, hsub⟩ hfault
      | error e =>
        rw [hr, heardProfiles_fault hfound hsub]
        exact ⟨rfl, _, rfl⟩
  · rw [hr, heardProfiles_missing (found_of_no_row hrows hnone)]
    exact ⟨rfl, rfl⟩

/-! ### Two profiles -/

def profileList (rows : List DiscoveryRow) : Json :=
  .obj [("profiles", .arr (rows.map DiscoveryRow.toJson))]

/-- Rows that are sent are the rows that are listed. -/
theorem profileRows_sent (c : Console) (rows : List DiscoveryRow) :
    c.profileRows (.answer 200 (profileList rows).compact) = .ok rows := by
  have hfits : Json.Fits Json.depthLimit .all (profileList rows) := by
    refine Json.fits_obj (by decide) fun f hf => ?_
    rw [List.mem_singleton.mp hf]
    exact Json.fits_list (by decide) (fun r => r.fits (by decide)) rows
  have hrows : List.Forall₂ DiscoveryRow.Written (rows.map DiscoveryRow.toJson) rows := by
    rw [List.forall₂_map_left_iff, List.forall₂_same]
    exact fun r _ => (DiscoveryRow.ofJson?_eq_some_iff _ r).mp r.ofJson?_toJson
  have hlist : Json.HasAtMost [("profiles", .arr (rows.map DiscoveryRow.toJson))] "profiles"
      (some (.arr (rows.map DiscoveryRow.toJson))) := rfl
  exact profileRows_answer (by decide) (Json.read_compact hfits) (.record hlist (.rows hrows))

/-- A profile entered as a list, and one entered as a block. -/
def twoProfiles : List DiscoveryRow :=
  [{ id := 7, ips := [.text " 10.0.0.2", .packed 0x0A000001], credentialIds := [1]
     isCidr := false },
    { id := 8, ips := [.packed 0x0A000000, .packed 0x0A000001], credentialIds := [1, 2]
      isCidr := true }]

theorem twoProfiles_inOrder : ∀ row ∈ twoProfiles, row.IsInOrder := by
  have hpadded : (WireAddress.text " 10.0.0.2").resolve = .ok ⟨0x0A000002⟩ := by decide
  simp only [twoProfiles, List.forall_mem_cons]
  refine ⟨⟨?_, by decide, by decide, by decide⟩, ⟨?_, by decide, by decide, by decide⟩, by simp⟩
  · simp only [List.forall_mem_cons]
    exact ⟨⟨_, hpadded⟩, ⟨_, rfl⟩, by simp⟩
  · simp only [List.forall_mem_cons]
    exact ⟨⟨_, rfl⟩, ⟨_, rfl⟩, by simp⟩

/-- A backend that lists the two profiles and takes every change. -/
def keeper (q : Request) (u : Unit) : Outcome × Unit :=
  (if q.method = .get then .answer 200 (profileList twoProfiles).compact else .answer 200 "", u)

/-- New credentials leave the targets, a credential named twice leaves everything, and of a profile
that is not listed nothing is sent. -/
theorem updateDiscovery_frame_list :
    let update (id : Int64) (ids : List Int64) :=
      (BackendCommand.run ofBackend {} 0 (.updateDiscovery id none ids)).run.run keeper ()
    (∃ q b, (update 7 [3]).requests = [ofBackend.profilesRequest, q] ∧
      q.body = some (DiscoveryBody.toJson b) ∧ b.credentialIds = [3] ∧ b.isCidr = false ∧
      ∃ ns, b.ips = .addresses ns ∧ 0x0A000002 ∈ ns) ∧
    (update 7 [3, 3]).requests = [ofBackend.profilesRequest] ∧
    (update 9 []).value = .error (.notFound "discovery profile" "9" "discovery list") := by
  intro update
  have hrows := ofBackend.profileRows_sent twoProfiles
  have horder := twoProfiles_inOrder _ List.mem_cons_self
  have htargets (ids : List Int64) (h : ids.Nodup) : BackendCommand.Submittable none ids :=
    ⟨h, fun _ _ h => by cases h⟩
  obtain ⟨-, hkept⟩ := updateDiscovery_frame (c := ofBackend) rfl {} 0 7 none [3] keeper ()
  obtain ⟨-, hrepeated⟩ := updateDiscovery_frame (c := ofBackend) rfl {} 0 7 none [3, 3] keeper ()
  obtain ⟨-, hmissing⟩ := updateDiscovery_frame (c := ofBackend) rfl {} 0 9 none [] keeper ()
  obtain ⟨q, b, hq, hbody, hb⟩ := ((hkept _ hrows).1 _ rfl horder).1 (htargets _ (by decide))
  obtain ⟨hcidr, ns, hips, -, hns⟩ := hb.kept rfl
  refine ⟨⟨q, b, hq, hbody, hb.credentials, hcidr, ns, hips, ?_⟩, ?_, ?_⟩
  · exact (hns _).mpr ⟨.text " 10.0.0.2", by decide, by decide⟩
  · exact (((hrepeated _ hrows).1 _ rfl horder).2 fun h => absurd h.distinct (by decide)).1
  · exact ((hmissing _ hrows).2 fun row hrow hid => absurd hid (by revert row; decide)).2

/-- The profile that was entered as a block goes out as a list, which changes its flag. -/
theorem updateDiscovery_block_flag :
    let r := (BackendCommand.run ofBackend {} 0 (.updateDiscovery 8 none [3])).run.run keeper ()
    ∃ row q b, twoProfiles.filter (fun r => r.id = 8) = [row] ∧ row.IsInOrder ∧
      ofBackend.profileRows (keeper ofBackend.profilesRequest ()).1 = .ok twoProfiles ∧
      r.requests = [ofBackend.profilesRequest, q] ∧ q.body = some (DiscoveryBody.toJson b) ∧
      DiscoveryBody.ofJson? b.toJson = some b ∧ b.isCidr ≠ row.isCidr := by
  intro r
  have hrows := ofBackend.profileRows_sent twoProfiles
  have horder := twoProfiles_inOrder _ (List.mem_cons_of_mem _ List.mem_cons_self)
  have hone : twoProfiles.filter (fun r => r.id = 8) = [_] := rfl
  obtain ⟨p, hfound, hp⟩ := found_of_row hrows hone horder
  obtain ⟨s, hs⟩ := hp.submit_iff.mpr (⟨by decide, fun _ _ h => by cases h⟩ :
    BackendCommand.Submittable none [3])
  have hlisted : (keeper ofBackend.profilesRequest ()).1 =
      .answer 200 (profileList twoProfiles).compact := rfl
  have hr : r.requests = [ofBackend.profilesRequest, ofBackend.saveRequest s] := by
    simp only [r]
    rw [updateDiscovery_run rfl, Exchange.run_ask, hlisted, heardProfiles_sent hfound hs]
    rfl
  refine ⟨_, ofBackend.saveRequest s, .ofSubmission s, hone, horder, hrows, hr, rfl,
    DiscoveryBody.ofJson?_toJson _, ?_⟩
  rw [((hp.revises hs).kept rfl).1]
  decide

end Console
end DeviceConsole
