import DeviceConsole.Proofs.Client.Outcome
import DeviceConsole.Proofs.Provisioning.Choice
import DeviceConsole.Proofs.Provisioning.Serve

/-! Sending a selection is all or nothing: one flip of exactly what is selected, after which the
selection is empty or, where the backend did not report a success, what it was. -/
namespace DeviceConsole.Console

variable {c : Console} {s : Selection} {o : Outcome} {as : List Address}

theorem flipRequest_asksFor (c : Console) (as : List Address) :
    c.client.AsksFor (c.flipRequest as) .put "devices/update-provisioning" :=
  c.client.asksFor_resource .put .provisioning _

theorem flipRequest_body (c : Console) (as : List Address) :
    (c.flipRequest as).body =
      some (.obj [("provision_update_ips", .arr (as.map fun a => .int a.toNat))]) := by
  simp [flipRequest, ProvisionBody.ofAddresses, ProvisionBody.toJson, Json.ofNat, Address.toNat]

theorem flipped_of_success (h : o.Succeeds) : c.flipped as o = .ok () := by
  obtain ⟨code, body, rfl, hcode⟩ := h
  rw [flipped, Client.interpret_answer hcode]
  rfl

theorem flipped_of_failure (c : Console) (as : List Address) (h : ¬ o.Succeeds) :
    ∃ e, c.flipped as o = .error e := by
  rcases Client.interpret_of_not_succeeds Client.ignoreBody (c.flipRequest as) h with
    ⟨code, message, he⟩ | ⟨fault, he⟩
  · exact ⟨_, by rw [flipped, he]; rfl⟩
  · exact ⟨_, by rw [flipped, he]; rfl⟩

theorem submitProvisioning_nothing (h : s.isEmpty = true) :
    c.submitProvisioning s = .done (.error .nothingSelected, s) := by
  have hreq : s.request = .error .nothingSelected := if_pos h
  rw [submitProvisioning, hreq]

/-- Below a base that no address can be joined to nothing is sent and nothing changes. -/
theorem submitProvisioning_opaque (hbase : c.client.base.isOpaque = true)
    (h : s.isEmpty = false) :
    ∃ e, c.submitProvisioning s = .done (.error e, s) := by
  have hreq : s.request = .ok s.selected.elems := if_neg (by simp [h])
  have hflip : (lift (c.client.updateProvisioning (.ofAddresses s.selected.elems))).run = _ :=
    lift_run_done (Client.call_run_opaque hbase _ _ _ _)
  refine ⟨RequestError.toConsoleError (.invalidUrl .relativeToOpaque), ?_⟩
  rw [submitProvisioning, hreq]
  dsimp only
  rw [hflip]
  rfl

/-- An empty selection is refused before anything is sent. Any other goes out in one flip of its
addresses, each once and in ascending order: after a success it is empty and the caller is told how
many were sent, after anything else it is what it was. -/
theorem submitProvisioning_atomic {σ : Type} (c : Console) (s : Selection)
    (serve : Request → σ → Outcome × σ) (t : σ) :
    let r := (c.submitProvisioning s).run serve t
    (s.isEmpty = true → r = ⟨(.error .nothingSelected, s), t, []⟩) ∧
      (s.isEmpty = false → c.client.base.isOpaque = false → ∃ (q : Request) (sent : List Address),
        r.requests = [q] ∧ r.state = (serve q t).2 ∧
        c.client.AsksFor q .put "devices/update-provisioning" ∧
        q.body = some (.obj [("provision_update_ips", .arr (sent.map fun a => .int a.toNat))]) ∧
        sent.Pairwise (· < ·) ∧ (∀ a, a ∈ sent ↔ s.contains a = true) ∧
        ((serve q t).1.Succeeds → r.value = (.ok sent.length, .empty)) ∧
        (¬ (serve q t).1.Succeeds → ∃ e, r.value = (.error e, s))) ∧
      (s.isEmpty = false → c.client.base.isOpaque = true →
        ∃ e, r = ⟨(.error e, s), t, []⟩) := by
  intro r
  refine ⟨fun h => ?_, fun h hbase => ?_, fun h hbase => ?_⟩
  · simp only [r, submitProvisioning_nothing h, Exchange.run_done]
  · simp only [r, submitProvisioning_run hbase h, Exchange.run_ask, Exchange.run_done]
    refine ⟨_, s.selected.elems, rfl, rfl, c.flipRequest_asksFor _, c.flipRequest_body _,
      s.selected.ascending, fun a => Selection.mem_iff.symm, fun ho => ?_, fun ho => ?_⟩
    · rw [flipped_of_success ho]
    · obtain ⟨e, he⟩ := flipped_of_failure c s.selected.elems ho
      exact ⟨e, by rw [he]⟩
  · obtain ⟨e, he⟩ := submitProvisioning_opaque hbase h
    exact ⟨e, by simp only [r, he, Exchange.run_done]⟩

/-- The backend drops one request and answers the next: the same selection goes out again. -/
theorem submitProvisioning_atomic_retried :
    let s := Selection.selectAll [⟨9⟩, ⟨7⟩, ⟨9⟩]
    let serve : Request → Nat → Outcome × Nat := fun _ n =>
      (if n = 0 then .dropped else .answer 204 "", n + 1)
    (∃ e, ((ofBackend.submitProvisioning s).run serve 0).value = (.error e, s)) ∧
      ∃ sent : List Address, (∀ a, a ∈ sent ↔ s.contains a = true) ∧
        ((ofBackend.submitProvisioning s).run serve 1).value = (.ok sent.length, .empty) := by
  intro s serve
  have hs : s.isEmpty = false := by decide
  obtain ⟨-, hfirst, -⟩ := submitProvisioning_atomic ofBackend s serve 0
  obtain ⟨-, hsecond, -⟩ := submitProvisioning_atomic ofBackend s serve 1
  obtain ⟨_, _, -, -, -, -, -, -, -, hkept⟩ := hfirst hs rfl
  obtain ⟨_, sent, -, -, -, -, -, hmem, hsent, -⟩ := hsecond hs rfl
  refine ⟨hkept ?_, sent, hmem, hsent ⟨204, "", rfl, by decide, by decide⟩⟩
  rintro ⟨code, body, hanswer, -⟩
  cases hanswer

end DeviceConsole.Console
