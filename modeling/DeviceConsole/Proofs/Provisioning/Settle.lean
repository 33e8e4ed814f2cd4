import DeviceConsole.Proofs.Provisioning.Choice
import DeviceConsole.Proofs.Provisioning.Serve

/-! What a call does to a backend with a table: it flips the pending devices and no other, so a
call that is told of a success has settled the table, whatever became of earlier ones. -/
namespace DeviceConsole

namespace Console

variable {c : Console} {as : List Address}

/-- The selection made from a listing of the table is the set of changes. -/
theorem selectChanging_table (L : Listing) (t : Table) (b : Bool) (hk : ∀ a ∈ as, a ∈ t) :
    ∃ s, selectChanging (Device.sort (L.order t.devices)) b .empty as = .ok s ∧
      s.selected = t.changes as b := by
  have hperm := L.sort_perm t.devices
  have hd : ((Device.sort (L.order t.devices)).map (·.address)).Nodup :=
    (hperm.map _).nodup_iff.mpr t.distinct
  have hlisted : ∀ a ∈ as, ∃ d ∈ Device.sort (L.order t.devices), d.address = a := by
    intro a ha
    obtain ⟨d, hdev, rfl⟩ := hk a ha
    exact ⟨d, hperm.mem_iff.mpr hdev, rfl⟩
  obtain ⟨s, hs, hmem⟩ := selectChanging_listed (b := b) hd hlisted .empty
  refine ⟨s, hs, AddressSet.ext_mem fun a => ?_⟩
  have hempty : ¬ a ∈ Selection.empty.selected := List.not_mem_nil
  rw [hmem, Table.changes, AddressSet.mem_ofList, List.mem_map]
  constructor
  · rintro (h | ⟨d, hdev, rfl, ha, hp⟩)
    · exact absurd h hempty
    · exact ⟨d, Table.mem_pending.mpr ⟨hperm.mem_iff.mp hdev, ha, hp⟩, rfl⟩
  · rintro ⟨d, hpend, rfl⟩
    obtain ⟨hdev, ha, hp⟩ := Table.mem_pending.mp hpend
    exact .inr ⟨d, hperm.mem_iff.mpr hdev, rfl, ha, hp⟩

/-- What a call does once the table has been listed. -/
def afterListing (c : Console) (as : List Address) (b : Bool) (t : Table) :
    Exchange (Except ConsoleError Nat) :=
  if (t.changes as b).elems = [] then .done (.ok 0)
  else
    .ask (c.flipRequest (t.changes as b).elems) fun o =>
      .done ((c.flipped (t.changes as b).elems o).map fun _ => (t.pending as b).length)

theorem heard_body (c : Console) (L : Listing) (t : Table) (b : Bool) (hk : ∀ a ∈ as, a ∈ t) :
    c.heard as b (.answer 200 (L.body t)) = c.afterListing as b t := by
  obtain ⟨s, hs, hsel⟩ := selectChanging_table L t b hk
  rw [heard, listed_body]
  dsimp only
  rw [settleListed, hs, afterListing]
  dsimp only
  by_cases he : (t.changes as b).elems = []
  · rw [if_pos he, if_pos (Selection.isEmpty_iff.mpr (hsel ▸ he))]
  · have hne : ¬ s.isEmpty = true := fun hs' => he (hsel ▸ Selection.isEmpty_iff.mp hs')
    rw [if_neg he, if_neg hne, hsel, Table.length_changes]

/-- A call whose arguments are all in the table: one listing, and one flip of the changes if there
are any. -/
theorem setProvisioned_known (h : c.client.base.isOpaque = false) (L : Listing) (f : Fate)
    (t : Table) (b : Bool) (hk : ∀ a ∈ as, a ∈ t) :
    (c.setProvisioned as b).run.run (L.serve f) t =
      if (t.changes as b).elems = [] then ⟨.ok 0, t, [c.listRequest]⟩
      else
        ⟨(c.flipped (t.changes as b).elems f.outcome).map fun _ => (t.pending as b).length,
          t.receive f (t.changes as b).elems,
          [c.listRequest, c.flipRequest (t.changes as b).elems]⟩ := by
  rw [setProvisioned_run h, Exchange.run_ask, serve_listRequest, heard_body c L t b hk,
    afterListing]
  split_ifs
  · rfl
  · rw [Exchange.run_ask, serve_flipRequest]
    rfl

/-- A call that hears of a success, or has nothing to flip, has settled the table. -/
theorem setProvisioned_told (h : c.client.base.isOpaque = false) (L : Listing) (f : Fate)
    (t : Table) (b : Bool) (hk : ∀ a ∈ as, a ∈ t)
    (hs : f.Succeeds ∨ (t.changes as b).elems = []) :
    ((c.setProvisioned as b).run.run (L.serve f) t).value = .ok (t.pending as b).length ∧
      ((c.setProvisioned as b).run.run (L.serve f) t).state = t.settle as b := by
  rw [setProvisioned_known h L f t b hk]
  by_cases he : (t.changes as b).elems = []
  · rw [if_pos he, Table.settle_eq_self he, ← Table.length_changes, he]
    exact ⟨rfl, rfl⟩
  · have hf := hs.resolve_right he
    rw [if_neg he, flipped_of_succeeds c _ hf, Table.receive, if_pos hf.1, t.flip_changes]
    exact ⟨rfl, rfl⟩

/-- A call with an argument that is not in the table ends after the listing. -/
theorem setProvisioned_unknown (h : c.client.base.isOpaque = false) (L : Listing) (f : Fate)
    (t : Table) (b : Bool) {front rest : List Address} {a : Address}
    (hf : ∀ x ∈ front, x ∈ t) (ha : ¬ a ∈ t) :
    (c.setProvisioned (front ++ a :: rest) b).run.run (L.serve f) t =
      ⟨.error (.notFound a.text), t, [c.listRequest]⟩ := by
  have hperm := L.sort_perm t.devices
  have hfront : ∀ x ∈ front, ∃ d ∈ Device.sort (L.order t.devices), d.address = x := by
    intro x hx
    obtain ⟨d, hd, rfl⟩ := hf x hx
    exact ⟨d, hperm.mem_iff.mpr hd, rfl⟩
  have hmissing : ∀ d ∈ Device.sort (L.order t.devices), d.address ≠ a :=
    fun d hd he => ha ⟨d, hperm.mem_iff.mp hd, he⟩
  rw [setProvisioned_run h, Exchange.run_ask, serve_listRequest, heard, listed_body]
  dsimp only
  rw [settleListed, selectChanging_missing hfront hmissing]
  rfl

/-! ### Calls in a row -/

/-- The table after calls with the same arguments, one after the other, each with a listing and a
fate of its own. -/
def attempts (c : Console) (as : List Address) (b : Bool) (t : Table)
    (calls : List (Listing × Fate)) : Table :=
  calls.foldl (fun t call => ((c.setProvisioned as b).run.run (call.1.serve call.2) t).state) t

/-- A call leaves the table as it was or settles it. -/
theorem setProvisioned_state (h : c.client.base.isOpaque = false) (L : Listing) (f : Fate)
    (t : Table) (b : Bool) (hk : ∀ a ∈ as, a ∈ t) :
    ((c.setProvisioned as b).run.run (L.serve f) t).state = t ∨
      ((c.setProvisioned as b).run.run (L.serve f) t).state = t.settle as b := by
  rw [setProvisioned_known h L f t b hk]
  split_ifs
  · exact .inl rfl
  · cases hf : f.applied with
    | false => exact .inl (by simp [Table.receive, hf])
    | true => exact .inr (by simp [Table.receive, hf, Table.flip_changes])

theorem attempts_state (h : c.client.base.isOpaque = false) (t : Table) (b : Bool)
    (hk : ∀ a ∈ as, a ∈ t) (calls : List (Listing × Fate)) :
    c.attempts as b t calls = t ∨ c.attempts as b t calls = t.settle as b := by
  induction calls generalizing t with
  | nil => exact .inl rfl
  | cons call calls ih =>
    have hcons : c.attempts as b t (call :: calls) = c.attempts as b
        ((c.setProvisioned as b).run.run (call.1.serve call.2) t).state calls := rfl
    rw [hcons]
    rcases setProvisioned_state h call.1 call.2 t b hk with hs | hs
    · rw [hs]
      exact ih t hk
    · rw [hs]
      have := ih (t.settle as b) fun a ha => Table.mem_update.mpr (hk a ha)
      rw [Table.settle_settle, or_self] at this
      exact .inr this

/-! ### The contract -/

/-- With every argument in the table, one flip of exactly the pending devices settles it, and so
does a later call after any number of others; a failed flip has settled the table or not touched
it. The first argument outside the table is reported before anything is flipped. -/
theorem setProvisioned_settles (h : c.client.base.isOpaque = false) (t : Table)
    (as : List Address) (b : Bool) :
    ((∀ a ∈ as, a ∈ t) →
      (∃ sent : List Address, sent.Pairwise (· < ·) ∧
        sent.Perm ((t.pending as b).map (·.address)) ∧
        ∀ (L : Listing) (f : Fate),
          let r := (c.setProvisioned as b).run.run (L.serve f) t
          r.requests = c.listRequest :: (if sent = [] then [] else [c.flipRequest sent]) ∧
          (f.Succeeds ∨ sent = [] →
            r.value = .ok (t.pending as b).length ∧ r.state = t.settle as b) ∧
          (f.Fails → sent ≠ [] →
            (∃ e, r.value = .error e) ∧
              r.state = if f.applied then t.settle as b else t)) ∧
      (∀ (earlier : List (Listing × Fate)) (L : Listing) (f : Fate), f.Succeeds →
        let u := c.attempts as b t earlier
        let r := (c.setProvisioned as b).run.run (L.serve f) u
        r.value = .ok (u.pending as b).length ∧ r.state = t.settle as b)) ∧
    (∀ front a rest, as = front ++ a :: rest → (∀ x ∈ front, x ∈ t) → ¬ a ∈ t →
      ∀ (L : Listing) (f : Fate),
        (c.setProvisioned as b).run.run (L.serve f) t =
          ⟨.error (.notFound a.text), t, [c.listRequest]⟩) := by
  refine ⟨fun hk => ⟨⟨(t.changes as b).elems, (t.changes as b).ascending, t.changes_perm as b,
    fun L f => ?_⟩, fun earlier L f hs => ?_⟩, ?_⟩
  · refine ⟨?_, fun hs => ?_, fun hf hne => ?_⟩
    · rw [setProvisioned_known h L f t b hk]
      split_ifs <;> rfl
    · exact setProvisioned_told h L f t b hk hs
    · obtain ⟨e, he⟩ := flipped_of_fails c (t.changes as b).elems hf
      rw [setProvisioned_known h L f t b hk, if_neg hne, he, Table.receive, t.flip_changes]
      exact ⟨⟨e, rfl⟩, rfl⟩
  · rcases attempts_state h t b hk earlier with hu | hu
    · simp only [hu]
      exact setProvisioned_told h L f t b hk (.inl hs)
    · simp only [hu]
      have hk' : ∀ a ∈ as, a ∈ t.settle as b := fun a ha => Table.mem_update.mpr (hk a ha)
      have := setProvisioned_told h L f (t.settle as b) b hk' (.inl hs)
      rwa [Table.settle_settle] at this
  · rintro front a rest rfl hf ha L f
    exact setProvisioned_unknown h L f t b hf ha

/-- Two of three arguments name one device, the third is in the wanted state already. -/
theorem setProvisioned_settles_pair :
    let c := ofBackend
    let t : Table := ⟨[⟨⟨7⟩, none, false⟩, ⟨⟨9⟩, some 1, true⟩], by decide⟩
    ∀ (L : Listing) (f : Fate), f.Succeeds →
      let r := (c.setProvisioned [⟨9⟩, ⟨7⟩, ⟨7⟩] true).run.run (L.serve f) t
      r.value = .ok 1 ∧ r.state = t.settle [⟨9⟩, ⟨7⟩, ⟨7⟩] true := by
  intro c t L f hs
  obtain ⟨hknown, -⟩ := setProvisioned_settles (c := c) rfl t [⟨9⟩, ⟨7⟩, ⟨7⟩] true
  obtain ⟨-, hlater⟩ := hknown (by simp [t, Table.mem_iff])
  exact hlater [] L f hs

end Console
end DeviceConsole
