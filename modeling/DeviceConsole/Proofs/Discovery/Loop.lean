import DeviceConsole.Proofs.Discovery.Draft
import DeviceConsole.Proofs.Wire.Spelling

/-! The way of an address list to the backend and back: what is sent for a submission, listed again
in whatever spelling and order, is the same targets, and submitting the reopened profile sends the
same once more. -/
namespace DeviceConsole.DiscoveryDraft

/-- A submitted address list comes back in a row that names the addresses of its body, packed or as
padded text, in any order and with any repetitions. The profile read has the targets and the
credentials that were submitted, and submitting it unchanged sends the same body. -/
theorem submit_listed {d : DiscoveryDraft} {s : DiscoverySubmission} (hsubmit : d.submit = .ok s)
    {set : AddressSet} (hset : s.targets = .addresses set) {ns : List UInt32}
    (hbody : (DiscoveryBody.ofSubmission s).ips = .addresses ns) (row : DiscoveryRow)
    (hcredentials : row.credentialIds = s.credentialIds) (hips : Lists row.ips ns) :
    ∃ p, row.toProfile = .ok p ∧ p.id = row.id ∧ p.targets = s.targets ∧
      p.credentialIds = s.credentialIds ∧
      ∃ s', (ofProfile p).submit = .ok s' ∧ s'.id = some row.id ∧
        DiscoveryBody.ofSubmission s' = DiscoveryBody.ofSubmission s := by
  obtain ⟨hne, hd, -, hempty, -, hids⟩ := submit_eq_ok_iff.mp hsubmit
  have hns : ns = set.elems.map (·.packed) := by
    simp only [DiscoveryBody.ofSubmission, hset, DeviceIps.ofTargets, DeviceIps.addresses.injEq]
      at hbody
    exact hbody.symm
  let p : DiscoveryProfile :=
    { id := row.id, targets := .addresses set, credentialIds := row.credentialIds
      isCidr := row.isCidr }
  have hp : row.toProfile = .ok p := DiscoveryRow.toProfile_of_lists (hns ▸ hips)
  let s' : DiscoverySubmission :=
    { id := some row.id, targets := .addresses set, credentialIds := row.credentialIds }
  have hagain : (ofProfile p).submit = .ok s' := by
    refine submit_eq_ok_iff.mpr
      ⟨?_, ?_, ofProfile_resolve p, fun he => hempty (hset.trans he), rfl, rfl⟩
    · change row.credentialIds ≠ []
      rwa [hcredentials, hids]
    · change row.credentialIds.Nodup
      rwa [hcredentials, hids]
  refine ⟨p, hp, rfl, hset.symm, hcredentials, s', hagain, rfl, ?_⟩
  simp [DiscoveryBody.ofSubmission, s', hset, hcredentials]

/-- Two addresses come back as three entries, the second one first and the first one twice, in a
row that calls itself a block. -/
theorem submit_listed_padded :
    let d := (new.editTargets "10.0.0.2,10.0.0.1").setCredentials [5, 2]
    let one : Address := ⟨0x0A000001⟩
    let two : Address := ⟨0x0A000002⟩
    let set : AddressSet := .ofList [one, two]
    let s : DiscoverySubmission :=
      { id := none, targets := .addresses set, credentialIds := [5, 2] }
    let row : DiscoveryRow :=
      { id := -3, ips := [.packed 0x0A000002, .text "\t010.0.000.1 ", .packed 0x0A000001]
        credentialIds := [5, 2], isCidr := true }
    d.submit = .ok s ∧ Lists row.ips [0x0A000001, 0x0A000002] ∧
      ∃ p, row.toProfile = .ok p ∧ p.targets = s.targets ∧
        ∃ s', (ofProfile p).submit = .ok s' ∧
          DiscoveryBody.ofSubmission s' = DiscoveryBody.ofSubmission s := by
  intro d one two set s row
  have hsubmit : d.submit = .ok s := by decide
  have hdotted : one.Dotted "010.0.000.1".toList := by
    have hone : one.toNat = 0x0A000001 := by decide
    have hquad := @Address.Dotted.quad one _ _ _ _ ⟨1, rfl⟩ ⟨0, rfl⟩ ⟨2, rfl⟩ ⟨0, rfl⟩
    rw [hone] at hquad
    exact hquad
  have htext : WireAddress.Spells one (.text "\t010.0.000.1 ") :=
    @WireAddress.Spells.text one ['\t'] _ [' '] (List.forall_mem_singleton.mpr (by decide)) hdotted
      (List.forall_mem_singleton.mpr (by decide))
  have hips : Lists row.ips [0x0A000001, 0x0A000002] := by
    constructor
    · intro w hw
      simp only [row, List.mem_cons, List.not_mem_nil, or_false] at hw
      rcases hw with rfl | rfl | rfl
      · exact ⟨0x0A000002, by decide, .packed⟩
      · exact ⟨0x0A000001, by decide, htext⟩
      · exact ⟨0x0A000001, by decide, .packed⟩
    · intro n hn
      simp only [List.mem_cons, List.not_mem_nil, or_false] at hn
      rcases hn with rfl | rfl
      · exact ⟨.packed 0x0A000001, by decide, .packed⟩
      · exact ⟨.packed 0x0A000002, by decide, .packed⟩
  obtain ⟨p, hp, -, ht, -, s', hs', -, hbody⟩ := submit_listed hsubmit rfl rfl row rfl hips
  exact ⟨hsubmit, hips, p, hp, ht, s', hs', hbody⟩

end DeviceConsole.DiscoveryDraft
