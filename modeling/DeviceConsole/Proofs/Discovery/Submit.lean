import DeviceConsole.Discovery
import DeviceConsole.Proofs.Target.Text

/-! What is wrong with a draft, and which fault is reported: submitting fails with the first of
them, and otherwise takes the draft over as it stands. -/
namespace DeviceConsole.DiscoveryDraft

/-! ### Repeated credentials -/

/-- The id at this place occurs at an earlier place too. -/
def RepeatsAt (ids : List Int64) (i : Nat) (id : Int64) : Prop :=
  ids[i]? = some id ∧ id ∈ ids.take i

/-- The id at the least place that repeats an earlier one. -/
def IsFirstRepeated (ids : List Int64) (id : Int64) : Prop :=
  ∃ i, RepeatsAt ids i id ∧ ∀ j < i, ∀ x, ¬ RepeatsAt ids j x

theorem firstRepeated?_eq_none_iff {seen ids : List Int64} :
    firstRepeated? seen ids = none ↔ ids.Nodup ∧ ∀ id ∈ ids, id ∉ seen := by
  induction ids generalizing seen with
  | nil => simp [firstRepeated?]
  | cons x xs ih =>
    unfold firstRepeated?
    by_cases hx : x ∈ seen
    · simp [hx]
    · rw [if_neg hx, ih]
      simp only [List.mem_cons, not_or, List.nodup_cons, forall_eq_or_imp]
      constructor
      · rintro ⟨hd, h⟩
        exact ⟨⟨fun hm => (h x hm).1 rfl, hd⟩, hx, fun id hid => (h id hid).2⟩
      · rintro ⟨⟨hxs, hd⟩, -, h⟩
        exact ⟨hd, fun id hid => ⟨fun he => hxs (he ▸ hid), h id hid⟩⟩

/-- What has been seen stands in front of the ids that are still to be looked at. -/
theorem firstRepeated?_eq_some {seen ids : List Int64} {id : Int64} :
    firstRepeated? seen ids = some id ↔
      ∃ i, (ids[i]? = some id ∧ id ∈ seen ++ ids.take i) ∧
        ∀ j < i, ∀ x, ¬ (ids[j]? = some x ∧ x ∈ seen ++ ids.take j) := by
  induction ids generalizing seen with
  | nil => simp [firstRepeated?]
  | cons x xs ih =>
    unfold firstRepeated?
    by_cases hx : x ∈ seen
    · rw [if_pos hx]
      constructor
      · rintro ⟨⟩
        exact ⟨0, by simpa using hx, by simp⟩
      · rintro ⟨i, ⟨hi, -⟩, hleast⟩
        cases i with
        | zero => simpa using hi
        | succ i => exact absurd ⟨rfl, by simpa using hx⟩ (hleast 0 (by omega) x)
    · rw [if_neg hx, ih]
      have hmem (i : Nat) (y : Int64) :
          y ∈ (x :: seen) ++ xs.take i ↔ y ∈ seen ++ (x :: xs).take (i + 1) := by
        simp only [List.take_succ_cons, List.mem_append, List.mem_cons]
        tauto
      constructor
      · rintro ⟨i, ⟨hi, hid⟩, hleast⟩
        refine ⟨i + 1, ⟨by simpa using hi, (hmem i id).mp hid⟩, fun j hj y hy => ?_⟩
        cases j with
        | zero =>
          obtain ⟨⟨⟩, hy⟩ := hy
          exact hx (by simpa using hy)
        | succ j => exact hleast j (by omega) y ⟨by simpa using hy.1, (hmem j y).mpr hy.2⟩
      · rintro ⟨i, ⟨hi, hid⟩, hleast⟩
        cases i with
        | zero =>
          obtain rfl : x = id := by simpa using hi
          exact absurd (by simpa using hid) hx
        | succ i =>
          refine ⟨i, ⟨by simpa using hi, (hmem i id).mpr hid⟩, fun j hj y hy => ?_⟩
          exact hleast (j + 1) (by omega) y ⟨by simpa using hy.1, (hmem j y).mp hy.2⟩

theorem firstRepeated?_nil_eq_none {ids : List Int64} :
    firstRepeated? [] ids = none ↔ ids.Nodup := by
  simp [firstRepeated?_eq_none_iff]

theorem firstRepeated?_nil_eq_some {ids : List Int64} {id : Int64} :
    firstRepeated? [] ids = some id ↔ IsFirstRepeated ids id :=
  firstRepeated?_eq_some

/-! ### Faults -/

/-- The first thing that is wrong with a draft: no credentials, a repeated one, targets that do not
resolve, no targets at all. -/
inductive FirstFault (d : DiscoveryDraft) : ConsoleError → Prop
  | noCredentials (h : d.credentialIds = []) : FirstFault d .noCredentials
  | repeatedCredential {id : Int64} (h : IsFirstRepeated d.credentialIds id) :
      FirstFault d (.repeatedCredential id)
  | targets {e : ConsoleError} (hne : d.credentialIds ≠ []) (hd : d.credentialIds.Nodup)
      (h : d.targets.resolve = .error e) : FirstFault d e
  | noTargets (hne : d.credentialIds ≠ []) (hd : d.credentialIds.Nodup)
      (h : d.targets.resolve = .ok (.addresses .empty)) :
      FirstFault d (.invalidInput "at least one target address is required")

variable {d : DiscoveryDraft}

theorem submit_noCredentials (h : d.credentialIds = []) : d.submit = .error .noCredentials := by
  simp [submit, h]

theorem submit_repeated {id : Int64} (h : IsFirstRepeated d.credentialIds id) :
    d.submit = .error (.repeatedCredential id) := by
  have hne : d.credentialIds ≠ [] := by
    obtain ⟨i, ⟨hi, -⟩, -⟩ := h
    exact List.ne_nil_of_mem (List.mem_of_getElem? hi)
  have hfirst := firstRepeated?_nil_eq_some.mpr h
  simp [submit, hne, hfirst]

/-- With credentials in order the targets decide. -/
theorem submit_distinct (hne : d.credentialIds ≠ []) (hd : d.credentialIds.Nodup) :
    d.submit = match d.targets.resolve with
      | .error e => .error e
      | .ok targets =>
          if targets = .addresses .empty then
            .error (.invalidInput "at least one target address is required")
          else .ok { id := d.editing, targets, credentialIds := d.credentialIds } := by
  have hempty : ¬ d.credentialIds.isEmpty = true := by simpa using hne
  rw [submit, if_neg hempty, firstRepeated?_nil_eq_none.mpr hd]
  cases d.targets.resolve with
  | error e => rfl
  | ok targets => simp only [Targets.size_eq_zero_iff]

theorem FirstFault.submit {e : ConsoleError} (h : FirstFault d e) : d.submit = .error e := by
  cases h with
  | noCredentials h => exact submit_noCredentials h
  | repeatedCredential h => exact submit_repeated h
  | targets hne hd h => rw [submit_distinct hne hd, h]
  | noTargets hne hd h => rw [submit_distinct hne hd, h]; rfl

/-- Either a first fault is found, or the draft is taken over. -/
theorem submit_cases (d : DiscoveryDraft) :
    (∃ e, FirstFault d e) ∨
      d.credentialIds ≠ [] ∧ d.credentialIds.Nodup ∧
        ∃ targets, d.targets.resolve = .ok targets ∧ targets ≠ .addresses .empty ∧
          d.submit = .ok { id := d.editing, targets, credentialIds := d.credentialIds } := by
  by_cases hne : d.credentialIds = []
  · exact .inl ⟨_, .noCredentials hne⟩
  cases hfirst : firstRepeated? [] d.credentialIds with
  | some id => exact .inl ⟨_, .repeatedCredential (firstRepeated?_nil_eq_some.mp hfirst)⟩
  | none =>
    have hd := firstRepeated?_nil_eq_none.mp hfirst
    cases ht : d.targets.resolve with
    | error e => exact .inl ⟨_, .targets hne hd ht⟩
    | ok targets =>
      by_cases hempty : targets = .addresses .empty
      · exact .inl ⟨_, .noTargets hne hd (hempty ▸ ht)⟩
      · refine .inr ⟨hne, hd, targets, rfl, hempty, ?_⟩
        rw [submit_distinct hne hd, ht]
        exact if_neg hempty

theorem submit_eq_error_iff {e : ConsoleError} : d.submit = .error e ↔ FirstFault d e := by
  refine ⟨fun h => ?_, FirstFault.submit⟩
  rcases submit_cases d with ⟨e', hfault⟩ | ⟨-, -, targets, -, -, hok⟩
  · have heq := h.symm.trans hfault.submit
    cases heq
    exact hfault
  · cases h.symm.trans hok

theorem submit_eq_ok_iff {s : DiscoverySubmission} :
    d.submit = .ok s ↔
      d.credentialIds ≠ [] ∧ d.credentialIds.Nodup ∧ d.targets.resolve = .ok s.targets ∧
        s.targets ≠ .addresses .empty ∧ s.id = d.editing ∧ s.credentialIds = d.credentialIds := by
  constructor
  · intro h
    rcases submit_cases d with ⟨e, hfault⟩ | ⟨hne, hd, targets, ht, hempty, hok⟩
    · cases h.symm.trans hfault.submit
    · have heq := h.symm.trans hok
      cases heq
      exact ⟨hne, hd, ht, hempty, rfl, rfl⟩
  · rintro ⟨hne, hd, ht, hempty, hid, hids⟩
    rw [submit_distinct hne hd, ht]
    obtain ⟨id, targets, ids⟩ := s
    subst hid hids
    exact if_neg hempty

end DeviceConsole.DiscoveryDraft
