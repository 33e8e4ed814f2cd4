import DeviceConsole.Proofs.Backend.Race
import DeviceConsole.Proofs.Provisioning.Settle

/-! Two clients that bring devices of one backend to the same state. A call whose listing and flip
are not torn apart settles the table; where both listings come first, a device that both name is
flipped by both or by neither and stays as it was. -/
namespace DeviceConsole

namespace Table

theorem flip_comm (t : Table) (as as' : List Address) :
    (t.flip as).flip as' = (t.flip as').flip as := by
  rw [flip_eq t as, flip_eq t as', flip_eq, flip_eq, update_update, update_update]
  apply update_congr
  intro d _
  exact Bool.xor_right_comm _ _ _

/-- What two calls with one and the same listing do: devices named by both stay as they are. -/
def settleApart (t : Table) (as as' : List Address) (b : Bool) : Table :=
  t.update fun d =>
    if d.address ∈ as ∧ d.address ∈ as' then d.provisioned
    else if d.address ∈ as ∨ d.address ∈ as' then b
    else d.provisioned

theorem flip_changes_both (t : Table) (as as' : List Address) (b : Bool) :
    (t.flip (t.changes as b).elems).flip (t.changes as' b).elems = t.settleApart as as' b := by
  rw [flip_nodup t (AddressSet.nodup _), flip_nodup _ (AddressSet.nodup _), update_update,
    settleApart]
  apply update_congr
  intro d hd
  simp only [address_mem_changes hd]
  by_cases ha : d.address ∈ as <;> by_cases ha' : d.address ∈ as' <;>
    cases hp : d.provisioned <;> cases b <;> simp [ha, ha']

theorem settleApart_comm (t : Table) (as as' : List Address) (b : Bool) :
    t.settleApart as as' b = t.settleApart as' as b := by
  rw [← flip_changes_both, flip_comm, flip_changes_both]

end Table

namespace Console

open Exchange

variable {c c' : Console} {as as' : List Address} {b : Bool} {t t' : Table} {L : Listing}
  {f : Fate} {v v' : Except ConsoleError Nat} {trace : List (Request ⊕ Request)}

/-- Both programs have listed the table before the first flip. -/
def ListedFirst (trace : List (Request ⊕ Request)) : Prop :=
  ∀ q ∈ trace.take 2, q.elim (·.method) (·.method) = Method.get

/-- After one listing both calls flip what they saw, in whichever order. -/
theorem race_afterListing (hf : f.Succeeds)
    (h : Race (L.serve f) (c.afterListing as b t) (c'.afterListing as' b t) t v v' t' trace) :
    (∃ k, v = .ok k) ∧ (∃ k, v' = .ok k) ∧ t' = t.settleApart as as' b := by
  have hflip (c : Console) (u : Table) (sent : List Address) :
      L.serve f (c.flipRequest sent) u = (f.outcome, u.flip sent) := by
    rw [serve_flipRequest, Table.receive, if_pos hf.1]
  rw [← Table.flip_changes_both]
  unfold afterListing at h
  split_ifs at h with he he' he'
  · cases h
    rw [he, he', Table.flip_nil, Table.flip_nil]
    exact ⟨⟨_, rfl⟩, ⟨_, rfl⟩, rfl⟩
  · cases h with
    | right h =>
      simp only [hflip, flipped_of_succeeds c' _ hf] at h
      cases h
      rw [he, Table.flip_nil]
      exact ⟨⟨_, rfl⟩, ⟨_, rfl⟩, rfl⟩
  · cases h with
    | left h =>
      simp only [hflip, flipped_of_succeeds c _ hf] at h
      cases h
      rw [he', Table.flip_nil]
      exact ⟨⟨_, rfl⟩, ⟨_, rfl⟩, rfl⟩
  · cases h with
    | left h =>
      simp only [hflip, flipped_of_succeeds c _ hf] at h
      cases h with
      | right h =>
        simp only [hflip, flipped_of_succeeds c' _ hf] at h
        cases h
        exact ⟨⟨_, rfl⟩, ⟨_, rfl⟩, rfl⟩
    | right h =>
      simp only [hflip, flipped_of_succeeds c' _ hf] at h
      cases h with
      | left h =>
        simp only [hflip, flipped_of_succeeds c _ hf] at h
        cases h
        exact ⟨⟨_, rfl⟩, ⟨_, rfl⟩, Table.flip_comm _ _ _⟩

theorem listedFirst_swap (trace : List (Request ⊕ Request)) :
    ListedFirst (trace.map Sum.swap) ↔ ListedFirst trace := by
  have helim (q : Request ⊕ Request) :
      q.swap.elim (·.method) (·.method) = q.elim (·.method) (·.method) := by
    cases q <;> rfl
  simp only [ListedFirst, ← List.map_take, List.forall_mem_map, helim]

/-- The rest of a race in which the first program has listed the table. -/
theorem race_after_left (h' : c'.client.base.isOpaque = false) (hf : f.Succeeds)
    (hk' : ∀ a ∈ as', a ∈ t)
    (h : Race (L.serve f) (c.afterListing as b t) (c'.setProvisioned as' b).run t v v' t' trace) :
    (∃ k, v = .ok k) ∧ (∃ k, v' = .ok k) ∧
      (ListedFirst (.inl c.listRequest :: trace) → t' = t.settleApart as as' b) ∧
      (¬ ListedFirst (.inl c.listRequest :: trace) → t' = t.settle (as ++ as') b) := by
  -- The second program lists next: both go on from one table.
  have hboth {rest : List (Request ⊕ Request)}
      (h : Race (L.serve f) (c.afterListing as b t)
        (c'.heard as' b (L.serve f c'.listRequest t).1) (L.serve f c'.listRequest t).2
        v v' t' rest) :
      (∃ k, v = .ok k) ∧ (∃ k, v' = .ok k) ∧
        (ListedFirst (.inl c.listRequest :: .inr c'.listRequest :: rest) →
          t' = t.settleApart as as' b) ∧
        (¬ ListedFirst (.inl c.listRequest :: .inr c'.listRequest :: rest) →
          t' = t.settle (as ++ as') b) := by
    rw [serve_listRequest, heard_body c' L t b hk'] at h
    obtain ⟨hv, hv', ht⟩ := race_afterListing hf h
    refine ⟨hv, hv', fun _ => ht, fun hl => absurd ?_ hl⟩
    simp [ListedFirst, listRequest]
  by_cases he : (t.changes as b).elems = []
  · have hafter : c.afterListing as b t = .done (.ok 0) := if_pos he
    rw [hafter, setProvisioned_run h'] at h
    cases h with
    | right h =>
      rw [← hafter] at h
      exact hboth h
  · have hafter : c.afterListing as b t = .ask _ _ := if_neg he
    rw [hafter, setProvisioned_run h'] at h
    cases h with
    | left h =>
      rw [← setProvisioned_run h', serve_flipRequest, Table.receive, if_pos hf.1,
        Table.flip_changes] at h
      simp only [flipped_of_succeeds c _ hf] at h
      obtain ⟨hv, hv', ht⟩ := h.of_done
      have hsettled : ∀ a ∈ as', a ∈ t.settle as b := fun a ha => Table.mem_update.mpr (hk' a ha)
      obtain ⟨hval, hstate⟩ := setProvisioned_told h' L f (t.settle as b) b hsettled (.inl hf)
      refine ⟨⟨_, hv⟩, ⟨_, hv'.trans hval⟩, fun hl => ?_, fun _ => ?_⟩
      · simp [ListedFirst, flipRequest] at hl
      · rw [ht, hstate, Table.settle_append]
    | right h =>
      rw [← hafter] at h
      exact hboth h

/-- Both calls of a race are told of a success. Where one of them lists only after the other's
flip, every device either names is in state `b` afterwards; where both list first, the devices
that both name are left in the state they had. -/
theorem race_setProvisioned (h : c.client.base.isOpaque = false)
    (h' : c'.client.base.isOpaque = false) (hf : f.Succeeds) (hk : ∀ a ∈ as, a ∈ t)
    (hk' : ∀ a ∈ as', a ∈ t)
    (hrace : Race (L.serve f) (c.setProvisioned as b).run (c'.setProvisioned as' b).run t
      v v' t' trace) :
    (∃ k, v = .ok k) ∧ (∃ k, v' = .ok k) ∧
      (ListedFirst trace → t' = t.settleApart as as' b) ∧
      (¬ ListedFirst trace → t' = t.settle (as ++ as') b) := by
  rw [setProvisioned_run h, setProvisioned_run h'] at hrace
  cases hrace with
  | left rest =>
    rw [serve_listRequest, heard_body c L t b hk, ← setProvisioned_run h'] at rest
    exact race_after_left h' hf hk' rest
  | @right _ _ _ _ _ _ _ trace rest =>
    rw [serve_listRequest, heard_body c' L t b hk', ← setProvisioned_run h] at rest
    obtain ⟨hv', hv, happart, hsettle⟩ := race_after_left h hf hk rest.swap
    have hcongr : ∀ a, a ∈ as' ++ as ↔ a ∈ as ++ as' := by
      intro a
      rw [List.mem_append, List.mem_append, or_comm]
    have hswap : ListedFirst (.inl c'.listRequest :: trace.map Sum.swap) ↔
        ListedFirst (.inr c'.listRequest :: trace) :=
      listedFirst_swap (.inr c'.listRequest :: trace)
    rw [hswap, Table.settleApart_comm] at happart
    rw [hswap, Table.settle_congr hcongr] at hsettle
    exact ⟨hv, hv', happart, hsettle⟩

/-! ### Races that happen -/

/-- Two calls with something to flip may both list before either flips. -/
theorem race_listedFirst (h : c.client.base.isOpaque = false)
    (h' : c'.client.base.isOpaque = false) (hf : f.Succeeds) (hk : ∀ a ∈ as, a ∈ t)
    (hk' : ∀ a ∈ as', a ∈ t) (he : (t.changes as b).elems ≠ [])
    (he' : (t.changes as' b).elems ≠ []) :
    Race (L.serve f) (c.setProvisioned as b).run (c'.setProvisioned as' b).run t
      (.ok (t.pending as b).length) (.ok (t.pending as' b).length) (t.settleApart as as' b)
      [.inl c.listRequest, .inr c'.listRequest, .inl (c.flipRequest (t.changes as b).elems),
        .inr (c'.flipRequest (t.changes as' b).elems)] := by
  have hafter : c.afterListing as b t = .ask _ _ := if_neg he
  have hafter' : c'.afterListing as' b t = .ask _ _ := if_neg he'
  rw [setProvisioned_run h, setProvisioned_run h']
  apply Race.left
  rw [serve_listRequest, heard_body c L t b hk, hafter]
  apply Race.right
  rw [serve_listRequest, heard_body c' L t b hk', hafter']
  apply Race.left
  rw [serve_flipRequest]
  apply Race.right
  rw [serve_flipRequest]
  dsimp only
  rw [flipped_of_succeeds c _ hf, flipped_of_succeeds c' _ hf, Table.receive, Table.receive,
    if_pos hf.1, if_pos hf.1, Table.flip_changes_both]
  exact .done _ _ _

/-- The second call may list only when the first has ended. -/
theorem race_inTurn (h : c.client.base.isOpaque = false) (h' : c'.client.base.isOpaque = false)
    (hf : f.Succeeds) (hk : ∀ a ∈ as, a ∈ t) (hk' : ∀ a ∈ as', a ∈ t)
    (he : (t.changes as b).elems ≠ []) (he' : ((t.settle as b).changes as' b).elems = []) :
    Race (L.serve f) (c.setProvisioned as b).run (c'.setProvisioned as' b).run t
      (.ok (t.pending as b).length) (.ok 0) (t.settle as b)
      [.inl c.listRequest, .inl (c.flipRequest (t.changes as b).elems), .inr c'.listRequest] := by
  have hafter : c.afterListing as b t = .ask _ _ := if_neg he
  have hafter' : c'.afterListing as' b (t.settle as b) = .done (.ok 0) := if_pos he'
  have hsettled : ∀ a ∈ as', a ∈ t.settle as b := fun a ha => Table.mem_update.mpr (hk' a ha)
  rw [setProvisioned_run h, setProvisioned_run h']
  apply Race.left
  rw [serve_listRequest, heard_body c L t b hk, hafter]
  apply Race.left
  rw [serve_flipRequest, Table.receive, if_pos hf.1, Table.flip_changes]
  apply Race.right
  rw [serve_listRequest, heard_body c' L _ b hsettled, hafter']
  dsimp only
  rw [flipped_of_succeeds c _ hf]
  exact .done _ _ _

/-- One device that is not provisioned yet. -/
def waiting : Table := ⟨[⟨⟨7⟩, none, false⟩], by decide⟩

theorem mem_waiting : ∀ a ∈ [(⟨7⟩ : Address)], a ∈ waiting := by
  simp [waiting, Table.mem_iff]

/-- A second call that starts after the first has ended finds nothing to do. -/
theorem race_setProvisioned_inTurn :
    ∃ t' trace, Race (Listing.plain.serve Fate.done) (ofBackend.setProvisioned [⟨7⟩] true).run
      (ofBackend.setProvisioned [⟨7⟩] true).run waiting (.ok 1) (.ok 0) t' trace ∧
      t' = waiting.settle ([⟨7⟩] ++ [⟨7⟩]) true := by
  have hrace : Race (Listing.plain.serve Fate.done) (ofBackend.setProvisioned [⟨7⟩] true).run
      (ofBackend.setProvisioned [⟨7⟩] true).run waiting (.ok 1) (.ok 0) _ _ :=
    race_inTurn rfl rfl Fate.done_succeeds mem_waiting mem_waiting (by decide) (by decide)
  obtain ⟨-, -, -, hsettle⟩ :=
    race_setProvisioned rfl rfl Fate.done_succeeds mem_waiting mem_waiting hrace
  refine ⟨_, _, hrace, hsettle fun hl => ?_⟩
  simp [ListedFirst, flipRequest] at hl

/-- Two clients are both told that the one device is provisioned now, and it is not. -/
theorem race_flips_back :
    ∃ t' trace, Race (Listing.plain.serve Fate.done) (ofBackend.setProvisioned [⟨7⟩] true).run
      (ofBackend.setProvisioned [⟨7⟩] true).run waiting (.ok 1) (.ok 1) t' trace ∧
      Fate.done.Succeeds ∧ (∀ a ∈ [(⟨7⟩ : Address)], a ∈ waiting) ∧
      ∃ d ∈ t'.devices, d.address = ⟨7⟩ ∧ d.provisioned ≠ true := by
  have hrace : Race (Listing.plain.serve Fate.done) (ofBackend.setProvisioned [⟨7⟩] true).run
      (ofBackend.setProvisioned [⟨7⟩] true).run waiting (.ok 1) (.ok 1) _ _ :=
    race_listedFirst rfl rfl Fate.done_succeeds mem_waiting mem_waiting (by decide) (by decide)
  refine ⟨_, _, hrace, Fate.done_succeeds, mem_waiting, ⟨⟨7⟩, none, false⟩, ?_, rfl,
    Bool.false_ne_true⟩
  simp [Table.settleApart, Table.update, waiting]

end Console
end DeviceConsole
