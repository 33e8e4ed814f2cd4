import DeviceConsole.Proofs.Discovery.Draft
import Mathlib.Data.List.Dedup
import Mathlib.Logic.Function.Iterate

/-! Credentials switched on and off in a draft. However toggles of different ids are interleaved,
each id is a member as its own toggles say, what was not toggled stays in its order, and what was
switched on stands behind it in the order of the last toggles. Only a list that is set as a whole
can bring a repetition. -/
namespace DeviceConsole.DiscoveryDraft

variable {before after toggles : List Int64}

/-- An association after one toggle. -/
def toggled (ids : List Int64) (id : Int64) : List Int64 :=
  if id ∈ ids then ids.erase id else ids ++ [id]

theorem foldl_toggleCredential (d : DiscoveryDraft) (ids : List Int64) :
    (ids.foldl toggleCredential d).credentialIds = ids.foldl toggled d.credentialIds := by
  induction ids generalizing d with
  | nil => rfl
  | cons id ids ih => exact ih (d.toggleCredential id)

/-! ### Single toggles -/

theorem nodup_toggled (h : after.Nodup) (id : Int64) : (toggled after id).Nodup := by
  unfold toggled
  split
  · exact h.erase id
  · rename_i hid
    simpa using h.concat hid

/-- A toggle flips the id it is about and no other. -/
theorem contains_toggled (h : after.Nodup) (id x : Int64) :
    (toggled after id).contains x = if x = id then !after.contains x else after.contains x := by
  have hmem : x ∈ toggled after id ↔ if x = id then x ∉ after else x ∈ after := by
    unfold toggled
    by_cases hid : id ∈ after <;> by_cases hx : x = id
    · subst hx
      simp [hid, h.mem_erase_iff]
    · simp [hid, hx, h.mem_erase_iff]
    · subst hx
      simp [hid]
    · simp [hid, hx]
  rw [Bool.eq_iff_iff, List.contains_iff_mem, hmem]
  split <;> simp

/-- Among toggles each id stands where it was toggled last. -/
theorem dedup_concat (ids : List Int64) (id : Int64) :
    (ids ++ [id]).dedup = ids.dedup.filter (· ≠ id) ++ [id] := by
  induction ids with
  | nil => rfl
  | cons x ids ih =>
    rw [List.cons_append]
    by_cases hx : x ∈ ids
    · rw [List.dedup_cons_of_mem (by simp [hx]), ih, List.dedup_cons_of_mem hx]
    · rw [List.dedup_cons_of_notMem hx]
      by_cases hid : x = id
      · rw [List.dedup_cons_of_mem (by simp [hid]), ih, List.filter_cons_of_neg (by simp [hid])]
      · rw [List.dedup_cons_of_notMem (by simp [hx, hid]), ih,
          List.filter_cons_of_pos (by simpa using hid), List.cons_append]

/-! ### Runs of toggles -/

/-- What toggles make of an association without repetitions: an id is flipped once by each of its
toggles, those never toggled come first and in their order, and the members that were toggled
follow in the order of their last toggles. -/
structure Toggles (before toggles after : List Int64) : Prop where
  nodup : after.Nodup
  contains_eq : ∀ id, after.contains id = Bool.not^[toggles.count id] (before.contains id)
  order : after = before.filter (· ∉ toggles) ++ toggles.dedup.filter (· ∈ after)

theorem Toggles.refl (h : before.Nodup) : Toggles before [] before where
  nodup := h
  contains_eq id := rfl
  order := by simp

theorem Toggles.concat (h : Toggles before toggles after) (id : Int64) :
    Toggles before (toggles ++ [id]) (toggled after id) where
  nodup := nodup_toggled h.nodup id
  contains_eq x := by
    rw [contains_toggled h.nodup, h.contains_eq x, List.count_append]
    split
    · rename_i hx
      rw [hx, List.count_singleton_self, Function.iterate_succ_apply']
    · rename_i hx
      rw [List.count_singleton, if_neg (by simpa using Ne.symm hx), Nat.add_zero]
  order := by
    have hfront : before.filter (· ∉ toggles ++ [id]) =
        (before.filter (· ∉ toggles)).filter (· ≠ id) := by
      rw [List.filter_filter]
      refine List.filter_congr fun x _ => ?_
      simp [not_or, and_comm]
    have hother : ∀ x, x ≠ id → (x ∈ toggled after id ↔ x ∈ after) := fun x hx => by
      have := contains_toggled h.nodup id x
      rwa [if_neg hx, Bool.eq_iff_iff, List.contains_iff_mem, List.contains_iff_mem] at this
    have hback : (toggles.dedup.filter (· ≠ id)).filter (· ∈ toggled after id) =
        (toggles.dedup.filter (· ∈ after)).filter (· ≠ id) := by
      rw [List.filter_filter, List.filter_filter]
      refine List.filter_congr fun x _ => ?_
      by_cases hx : x = id
      · simp [hx]
      · simp [hx, hother x hx]
    rw [hfront, dedup_concat, List.filter_append, hback, ← List.append_assoc, ← List.filter_append,
      ← h.order, toggled]
    split
    · rename_i hid
      have hgone : id ∉ after.erase id := fun hm => (h.nodup.mem_erase_iff.mp hm).1 rfl
      have herase : after.erase id = after.filter (· ≠ id) := by
        rw [h.nodup.erase_eq_filter]
        exact List.filter_congr fun x _ => by rw [Bool.eq_iff_iff]; simp
      rw [List.filter_cons_of_neg (by simpa using hgone), List.filter_nil, List.append_nil, herase]
    · rename_i hid
      have hall : after.filter (· ≠ id) = after :=
        List.filter_eq_self.mpr fun x hx => decide_eq_true fun he => hid (he ▸ hx)
      rw [hall, List.filter_cons_of_pos (by simp), List.filter_nil]

theorem toggles_foldl (h : before.Nodup) (ids : List Int64) :
    Toggles before ids (ids.foldl toggled before) := by
  induction ids using List.reverseRecOn with
  | nil => exact .refl h
  | append_singleton ids id ih =>
    rw [List.foldl_append]
    exact ih.concat id

/-! ### Repetitions -/

theorem resolve_ne_repeatedCredential (spec : TargetSpec) (id : Int64) :
    spec.resolve ≠ .error (.repeatedCredential id) := by
  intro h
  cases spec with
  | list tokens =>
    rw [TargetSpec.resolve] at h
    split at h <;> cases h
  | block text =>
    rw [TargetSpec.resolve, Cidr.parse] at h
    split at h <;> cases h

/-- A repetition is reported only where there is one. -/
theorem not_nodup_of_submit {d : DiscoveryDraft} {id : Int64}
    (h : d.submit = .error (.repeatedCredential id)) : ¬ d.credentialIds.Nodup := by
  intro hd
  cases submit_eq_error_iff.mp h with
  | repeatedCredential hfirst =>
    cases (firstRepeated?_nil_eq_none.mpr hd).symm.trans (firstRepeated?_nil_eq_some.mpr hfirst)
  | targets _ _ hresolve => exact resolve_ne_repeatedCredential _ _ hresolve

/-- The last list that was set as a whole has a repetition. -/
def SetRepeated (as : List Action) : Prop :=
  ∃ front ids back, as = front ++ .setCredentials ids :: back ∧
    (∀ a ∈ back, ∀ xs, a ≠ .setCredentials xs) ∧ ¬ ids.Nodup

/-- Starting without repetitions, an association has one only through a list set as a whole. -/
theorem nodup_or_setRepeated (as : List Action) :
    (run .blank as).credentialIds.Nodup ∨ SetRepeated as := by
  induction as using List.reverseRecOn with
  | nil => exact .inl List.nodup_nil
  | append_singleton as a ih =>
    have hkeep (ha : ∀ xs, a ≠ .setCredentials xs) (h : SetRepeated as) :
        SetRepeated (as ++ [a]) := by
      obtain ⟨front, ids, back, rfl, hback, hids⟩ := h
      refine ⟨front, ids, back ++ [a], by simp, ?_, hids⟩
      simpa [or_imp, forall_and] using ⟨hback, ha⟩
    rw [run_concat]
    cases a with
    | setMode mode => exact ih.imp_right (hkeep (by simp))
    | editTargets text => exact ih.imp_right (hkeep (by simp))
    | toggleCredential id =>
      exact ih.imp (fun h => nodup_toggled h id) (hkeep (by simp))
    | setCredentials ids =>
      by_cases hids : ids.Nodup
      · exact .inl hids
      · exact .inr ⟨as, ids, [], rfl, by simp, hids⟩

/-- Toggles keep an association free of repetitions. Afterwards an id is a member where its
membership before, flipped once by each of its toggles, says so; the ids never toggled come first,
in the order they had, and the toggled ones that are members follow, in the order of their last
toggles. So a draft that began blank reports a repeated credential only after a list with a
repetition was set. -/
theorem toggles_run (d : DiscoveryDraft) (hd : d.credentialIds.Nodup) (ids : List Int64) :
    let after := (ids.foldl toggleCredential d).credentialIds
    after.Nodup ∧
      (∀ id, after.contains id = Bool.not^[ids.count id] (d.credentialIds.contains id)) ∧
      after = d.credentialIds.filter (· ∉ ids) ++ ids.dedup.filter (· ∈ after) ∧
      ∀ as id, (run .blank as).submit = .error (.repeatedCredential id) → SetRepeated as := by
  intro after
  have h : Toggles d.credentialIds ids after := by
    simp only [after, foldl_toggleCredential]
    exact toggles_foldl hd ids
  refine ⟨h.nodup, h.contains_eq, h.order, fun as id hsubmit => ?_⟩
  exact (nodup_or_setRepeated as).resolve_left (not_nodup_of_submit hsubmit)

/-- Of three credentials the first is switched off and on and the second off, with two new ones
between them, one of which is off again; and a draft with a list that was set with a repetition. -/
theorem toggles_run_interleaved :
    let d : DiscoveryDraft := { credentialIds := [1, 2, 3] }
    let ids : List Int64 := [4, 1, 5, 2, 4, 1]
    let as : List Action := [.setCredentials [7, 8, 7], .toggleCredential 8]
    (ids.foldl toggleCredential d).credentialIds = [3, 5, 1] ∧
      (ids.foldl toggleCredential d).credentialIds.contains 1 = Bool.not^[2] true ∧
      (run .blank as).submit = .error (.repeatedCredential 7) ∧ SetRepeated as := by
  intro d ids as
  obtain ⟨-, hmember, horder, hrepeated⟩ := toggles_run d (by decide) ids
  have hsubmit : (run .blank as).submit = .error (.repeatedCredential 7) := by decide
  refine ⟨horder.trans ?_, hmember 1, hsubmit, hrepeated as 7 hsubmit⟩
  decide

end DeviceConsole.DiscoveryDraft
