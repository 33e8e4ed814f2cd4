import DeviceConsole.Proofs.Discovery.Submit
import DeviceConsole.Proofs.Target.Field

/-! Histories of a discovery draft. Whether its button is enabled agrees with what submitting it
does, and a draft of a stored profile submits that profile unchanged. -/
namespace DeviceConsole.DiscoveryDraft

/-- How a draft begins: blank, or with a stored profile to be changed. -/
inductive Start where
  | blank
  | stored (p : DiscoveryProfile)
deriving DecidableEq

inductive Action where
  | setMode (mode : TargetMode)
  | editTargets (text : String)
  | setCredentials (ids : List Int64)
  | toggleCredential (id : Int64)
deriving DecidableEq, Repr

namespace Start

def draft : Start → DiscoveryDraft
  | blank => new
  | stored p => ofProfile p

/-- How the target field of the draft begins. -/
def field : Start → TargetField.Start
  | blank => .new .list
  | stored p => .withText p.targets.mode p.targets.text

def editing : Start → Option Int64
  | blank => none
  | stored p => some p.id

end Start

/-- What an action does to the target field, if it is about it. -/
def Action.field? : Action → Option TargetField.Action
  | setMode mode => some (.setMode mode)
  | editTargets text => some (.edit text)
  | setCredentials _ => none
  | toggleCredential _ => none

def apply (d : DiscoveryDraft) : Action → DiscoveryDraft
  | .setMode mode => d.setMode mode
  | .editTargets text => d.editTargets text
  | .setCredentials ids => d.setCredentials ids
  | .toggleCredential id => d.toggleCredential id

def run (s : Start) (as : List Action) : DiscoveryDraft := as.foldl apply s.draft

/-- The last edit of the targets was to this text, and their mode has not changed since. -/
def Edited (s : Start) (as : List Action) (text : String) : Prop :=
  TargetField.Edited s.field (as.filterMap Action.field?) text

/-! ### Parts of a draft -/

theorem run_concat (s : Start) (as : List Action) (a : Action) :
    run s (as ++ [a]) = (run s as).apply a := by
  simp [run, List.foldl_append]

theorem draft_targets (s : Start) : s.draft.targets = s.field.field := by
  cases s with
  | blank => rfl
  | stored p => cases hp : p.targets <;> simp [Start.draft, Start.field, ofProfile, hp] <;> rfl

theorem apply_targets (d : DiscoveryDraft) (a : Action) :
    (d.apply a).targets = (a.field?.map d.targets.apply).getD d.targets := by
  cases a <;> rfl

/-- The target field has a history of its own; credentials do not touch it. -/
theorem run_targets (s : Start) (as : List Action) :
    (run s as).targets = TargetField.run s.field (as.filterMap Action.field?) := by
  induction as using List.reverseRecOn with
  | nil => exact draft_targets s
  | append_singleton as a ih =>
    rw [run_concat, apply_targets, ih, List.filterMap_append]
    cases h : a.field? with
    | none => simp [h]
    | some b => simp [h, TargetField.run_concat]

/-- No action changes which profile is edited. -/
theorem run_editing (s : Start) (as : List Action) : (run s as).editing = s.editing := by
  induction as using List.reverseRecOn with
  | nil => cases s <;> rfl
  | append_singleton as a ih =>
    rw [run_concat, ← ih]
    cases a <;> rfl

/-- Either the target error is that of the text, or the targets are an unedited block field. -/
theorem error_cases (s : Start) (as : List Action) :
    (run s as).targets.error = TargetField.errorOf (run s as).targets.resolve ∨
      (run s as).targets = .new .cidr ∧ ∀ text, ¬ Edited s as text := by
  rw [run_targets]
  exact TargetField.error_cases _ _

/-! ### Submitting -/

theorem canSubmit_iff {d : DiscoveryDraft} :
    d.canSubmit = true ↔ d.targets.error = none ∧ d.credentialIds ≠ [] := by
  simp [canSubmit]

/-- A draft that submits has its button enabled. -/
theorem canSubmit_of_submit {s : Start} {as : List Action} {sub : DiscoverySubmission}
    (h : (run s as).submit = .ok sub) : (run s as).canSubmit = true := by
  obtain ⟨hne, -, hresolve, -⟩ := submit_eq_ok_iff.mp h
  refine canSubmit_iff.mpr ⟨?_, hne⟩
  rcases error_cases s as with herr | ⟨hnew, -⟩
  · rw [herr, hresolve]
    rfl
  · rw [hnew]
    rfl

/-- Submitting succeeds only where the button is enabled, and then fails for a repeated credential,
a list that names no address, or a block field that has not been edited. The fault reported is the
first one. -/
theorem submit_run (s : Start) (as : List Action) :
    let d := run s as
    (∀ sub, d.submit = .ok sub → d.canSubmit = true) ∧
      (d.canSubmit = true → ((∃ e, d.submit = .error e) ↔
        ¬ d.credentialIds.Nodup ∨
          d.targets.mode = .list ∧ (∀ a, ¬ TargetSpec.Names d.targets.text a) ∨
          d.targets.mode = .cidr ∧ d.targets.text = "" ∧ ∀ text, ¬ Edited s as text)) ∧
      ∀ e, d.submit = .error e ↔ FirstFault d e := by
  intro d
  refine ⟨fun sub => canSubmit_of_submit, fun hcan => ?_, fun e => submit_eq_error_iff⟩
  obtain ⟨hnone, hne⟩ := canSubmit_iff.mp hcan
  constructor
  · rintro ⟨e, he⟩
    by_cases hd : d.credentialIds.Nodup
    · refine .inr ?_
      rcases error_cases s as with herr | ⟨hnew, hfresh⟩
      · -- Without an error the text resolves, so nothing but an empty list is left.
        obtain ⟨targets, ht⟩ := TargetField.errorOf_eq_none_iff.mp (herr.symm.trans hnone)
        rw [submit_distinct hne hd, ht] at he
        dsimp only at he
        split at he
        · rename_i hempty
          exact .inl ((TargetSpec.resolve_empty_iff ht).mp hempty)
        · cases he
      · have hd' : d.targets = .new .cidr := hnew
        rw [hd']
        exact .inr ⟨rfl, rfl, hfresh⟩
    · exact .inl hd
  · intro h
    cases hsub : d.submit with
    | error e => exact ⟨e, rfl⟩
    | ok sub =>
      obtain ⟨-, hd, hresolve, hempty, -⟩ := submit_eq_ok_iff.mp hsub
      rcases h with h | ⟨hm, hn⟩ | ⟨hm, ht, -⟩
      · exact absurd hd h
      · exact absurd ((TargetSpec.resolve_empty_iff hresolve).mpr ⟨hm, hn⟩) hempty
      · have hspec : (TargetSpec.ofInput d.targets.mode d.targets.text).resolve = .ok sub.targets :=
          hresolve
        rw [hm, ht] at hspec
        cases hspec

/-- The button of a block field nobody has typed in is enabled, but submitting it fails; with a
block typed in it succeeds. -/
theorem submit_run_pristine :
    let as : List Action := [.setMode .cidr, .toggleCredential 4]
    let bs : List Action := as ++ [.editTargets "10.0.0.0/8"]
    (run .blank as).canSubmit = true ∧ (∃ e, (run .blank as).submit = .error e) ∧
      FirstFault (run .blank as) (.invalidCidr "") ∧ (∃ sub, (run .blank bs).submit = .ok sub) ∧
      (run .blank bs).canSubmit = true := by
  intro as bs
  obtain ⟨-, hfails, hfirst⟩ := submit_run .blank as
  obtain ⟨hbutton, -⟩ := submit_run .blank bs
  have hfresh : ∀ text, ¬ Edited .blank as text := fun text h =>
    absurd (TargetField.edited_concat_setMode.mp
      (show TargetField.Edited (.new .list) ([] ++ [.setMode .cidr]) text from h)).1 (by decide)
  have hok : (run .blank bs).submit = .ok
      { id := none, targets := .block ⟨⟨0x0A000000⟩, 8, by decide⟩, credentialIds := [4] } := by
    decide
  exact ⟨by decide, (hfails (by decide)).mpr (.inr (.inr ⟨rfl, rfl, hfresh⟩)),
    (hfirst _).mp (by decide), ⟨_, hok⟩, hbutton _ hok⟩

/-! ### Stored profiles -/

theorem ofProfile_targets (p : DiscoveryProfile) :
    (ofProfile p).targets = .withText p.targets.mode p.targets.text :=
  draft_targets (.stored p)

theorem ofProfile_resolve (p : DiscoveryProfile) :
    (ofProfile p).targets.resolve = .ok p.targets := by
  rw [ofProfile_targets]
  exact TargetSpec.resolve_text p.targets

/-- A draft of a stored profile has no target error and stands for the profile's targets; a profile
that is in order is submitted unchanged. -/
theorem submit_ofProfile (p : DiscoveryProfile) :
    (ofProfile p).targets.error = none ∧ (ofProfile p).targets.resolve = .ok p.targets ∧
      (p.targets.size ≠ 0 → p.credentialIds ≠ [] → p.credentialIds.Nodup →
        (ofProfile p).submit =
          .ok { id := some p.id, targets := p.targets, credentialIds := p.credentialIds }) := by
  have hresolve := ofProfile_resolve p
  refine ⟨?_, hresolve, fun hsize hne hd => ?_⟩
  · rw [ofProfile_targets] at hresolve ⊢
    rw [TargetField.withText_error, hresolve]
    rfl
  · have hempty : p.targets ≠ .addresses .empty := fun h => hsize (Targets.size_eq_zero_iff.mpr h)
    exact submit_eq_ok_iff.mpr ⟨hne, hd, hresolve, hempty, rfl, rfl⟩

/-- A block with host bits comes back with them. -/
theorem submit_ofProfile_block :
    let b : Cidr := ⟨⟨0xC0A8014D⟩, 24, by decide⟩
    let p : DiscoveryProfile :=
      { id := 9, targets := .block b, credentialIds := [2, 1], isCidr := true }
    p.targets.size ≠ 0 ∧ (ofProfile p).submit =
      .ok { id := some 9, targets := .block b, credentialIds := [2, 1] } := by
  intro b p
  obtain ⟨-, -, hsubmit⟩ := submit_ofProfile p
  have hsize : p.targets.size ≠ 0 := by decide
  exact ⟨hsize, hsubmit hsize (by decide) (by decide)⟩

end DeviceConsole.DiscoveryDraft
