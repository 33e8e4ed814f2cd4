import DeviceConsole.Target.Field
import Mathlib.Data.List.Basic
import Mathlib.Data.List.Induction

/-! Histories of a target field. Its state is that of a fresh field in the mode selected last,
edited once if there was an edit in that mode, whatever else was done before. -/
namespace DeviceConsole.TargetField

/-- How a field begins: empty, or with a text to be changed. -/
inductive Start where
  | new (mode : TargetMode)
  | withText (mode : TargetMode) (text : String)
deriving DecidableEq, Repr

inductive Action where
  | setMode (mode : TargetMode)
  | edit (text : String)
deriving DecidableEq, Repr

namespace Start

def mode : Start → TargetMode
  | new mode => mode
  | withText mode _ => mode

def field : Start → TargetField
  | new mode => .new mode
  | withText mode text => .withText mode text

/-- A text at the beginning counts as an edit. -/
def edits : Start → List Action
  | new _ => []
  | withText _ text => [.edit text]

end Start

def Action.mode? : Action → Option TargetMode
  | setMode mode => some mode
  | edit _ => none

def apply (f : TargetField) : Action → TargetField
  | .setMode mode => f.setMode mode
  | .edit text => f.edit text

def run (s : Start) (as : List Action) : TargetField := as.foldl apply s.field

/-- The mode selected last. -/
def selected (s : Start) (as : List Action) : TargetMode :=
  (as.filterMap Action.mode?).getLast?.getD s.mode

/-- The last edit was to this text, and the mode has not changed since: what followed, if anything,
only selected again the mode the edit was made in. -/
def Edited (s : Start) (as : List Action) (text : String) : Prop :=
  ∃ front back, s.edits ++ as = front ++ .edit text :: back ∧
    ∀ a ∈ back, a = .setMode (selected s front)

variable {s : Start} {as : List Action}

/-! ### The mode selected last -/

@[simp] theorem selected_concat_setMode (mode : TargetMode) :
    selected s (as ++ [.setMode mode]) = mode := by
  simp [selected, Action.mode?]

@[simp] theorem selected_concat_edit (text : String) :
    selected s (as ++ [.edit text]) = selected s as := by
  simp [selected, Action.mode?]

@[simp] theorem selected_edits_append : selected s (s.edits ++ as) = selected s as := by
  cases s <;> simp [selected, Start.edits, Action.mode?, Start.mode]

/-- Selecting the current mode again leaves it the mode selected last. -/
theorem selected_edit_append {front back : List Action} {text : String}
    (h : ∀ a ∈ back, a = .setMode (selected s front)) :
    selected s (front ++ .edit text :: back) = selected s front := by
  rcases List.eq_nil_or_concat' back with rfl | ⟨back, a, rfl⟩
  · exact selected_concat_edit text
  · rw [h a (by simp), ← List.cons_append, ← List.append_assoc, selected_concat_setMode]

/-! ### The last edit in that mode -/

theorem edited_new {mode : TargetMode} {text : String} : ¬ Edited (.new mode) [] text := by
  rintro ⟨front, back, h, -⟩
  simp [Start.edits] at h

theorem edited_withText {mode : TargetMode} {text u : String} :
    Edited (.withText mode text) [] u ↔ u = text := by
  constructor
  · rintro ⟨front, back, h, -⟩
    have hmem : Action.edit u ∈ [Action.edit text] :=
      (show [Action.edit text] = front ++ .edit u :: back from h) ▸ by simp
    simpa using hmem
  · rintro rfl
    exact ⟨[], [], rfl, by simp⟩

theorem edited_concat_edit {text u : String} : Edited s (as ++ [.edit text]) u ↔ u = text := by
  constructor
  · rintro ⟨front, back, h, hback⟩
    rw [← List.append_assoc] at h
    rcases List.eq_nil_or_concat' back with rfl | ⟨back, a, rfl⟩
    · have := (List.append_singleton_inj.mp h).2
      cases this
      rfl
    · rw [← List.cons_append, ← List.append_assoc] at h
      have hlast := (List.append_singleton_inj.mp h).2
      rw [hback a (by simp)] at hlast
      cases hlast
  · rintro rfl
    exact ⟨s.edits ++ as, [], by simp, by simp⟩

theorem edited_concat_setMode {mode : TargetMode} {text : String} :
    Edited s (as ++ [.setMode mode]) text ↔ mode = selected s as ∧ Edited s as text := by
  constructor
  · rintro ⟨front, back, h, hback⟩
    rw [← List.append_assoc] at h
    rcases List.eq_nil_or_concat' back with rfl | ⟨back, a, rfl⟩
    · cases (List.append_singleton_inj.mp h).2
    · rw [← List.cons_append, ← List.append_assoc] at h
      obtain ⟨hinit, hlast⟩ := List.append_singleton_inj.mp h
      have hkept : ∀ b ∈ back, b = .setMode (selected s front) := fun b hb => hback b (by simp [hb])
      rw [hback a (by simp)] at hlast
      cases hlast
      have hsel : selected s as = selected s front := by
        rw [← selected_edits_append, hinit, selected_edit_append hkept]
      exact ⟨hsel.symm, front, back, hinit, hkept⟩
  · rintro ⟨rfl, front, back, h, hback⟩
    refine ⟨front, back ++ [.setMode (selected s as)], ?_, ?_⟩
    · rw [← List.append_assoc, h, List.append_assoc, List.cons_append]
    · have hsel : selected s as = selected s front := by
        rw [← selected_edits_append, h, selected_edit_append hback]
      intro a ha
      rcases List.mem_append.mp ha with ha | ha
      · exact hback a ha
      · rw [List.mem_singleton.mp ha, hsel]

/-! ### The state -/

theorem run_concat (a : Action) : run s (as ++ [a]) = (run s as).apply a := by
  simp [run, List.foldl_append]

theorem run_append (back : List Action) : run s (as ++ back) = back.foldl apply (run s as) := by
  simp [run, List.foldl_append]

theorem edit_eq_withText (f : TargetField) (text : String) : f.edit text = withText f.mode text :=
  rfl

@[simp] theorem setMode_mode_self (f : TargetField) : f.setMode f.mode = f := if_pos rfl

theorem setMode_of_ne {f : TargetField} {mode : TargetMode} (h : mode ≠ f.mode) :
    f.setMode mode = new mode := if_neg h

theorem run_mode (s : Start) (as : List Action) : (run s as).mode = selected s as := by
  induction as using List.reverseRecOn with
  | nil => cases s <;> rfl
  | append_singleton as a ih =>
    rw [run_concat]
    cases a with
    | edit text => rw [selected_concat_edit, ← ih]; rfl
    | setMode mode =>
      rw [selected_concat_setMode]
      by_cases h : mode = (run s as).mode
      · rw [h]
        exact congrArg TargetField.mode (setMode_mode_self _)
      · exact congrArg TargetField.mode (setMode_of_ne h)

/-- The field is the one its last edit makes of a fresh field, or a fresh field. -/
theorem run_eq (s : Start) (as : List Action) :
    (∀ text, Edited s as text → run s as = withText (selected s as) text) ∧
      ((∀ text, ¬ Edited s as text) → run s as = new (selected s as)) := by
  induction as using List.reverseRecOn with
  | nil =>
    cases s with
    | new mode => exact ⟨fun _ h => absurd h edited_new, fun _ => rfl⟩
    | withText mode text =>
      refine ⟨fun u h => ?_, fun h => absurd (edited_withText.mpr rfl) (h text)⟩
      rw [edited_withText.mp h]
      rfl
  | append_singleton as a ih =>
    rw [run_concat]
    cases a with
    | edit text =>
      refine ⟨fun u h => ?_, fun h => absurd (edited_concat_edit.mpr rfl) (h text)⟩
      rw [edited_concat_edit.mp h, selected_concat_edit, ← run_mode]
      exact edit_eq_withText _ _
    | setMode mode =>
      rw [selected_concat_setMode]
      by_cases h : mode = selected s as
      · -- The current mode again: neither the field nor its last edit change.
        subst h
        have hself : (run s as).apply (.setMode (selected s as)) = run s as := by
          rw [← run_mode]
          exact setMode_mode_self _
        simp only [edited_concat_setMode, hself, true_and]
        exact ih
      · refine ⟨fun text he => absurd (edited_concat_setMode.mp he).1 h, fun _ => ?_⟩
        exact setMode_of_ne (run_mode s as ▸ h)

theorem Edited.unique {text u : String} (h : Edited s as text) (hu : Edited s as u) :
    text = u := by
  have heq : withText (selected s as) text = withText (selected s as) u :=
    ((run_eq s as).1 text h).symm.trans ((run_eq s as).1 u hu)
  exact congrArg TargetField.text heq

theorem errorOf_eq_none_iff {α : Type} {x : Except ConsoleError α} :
    errorOf x = none ↔ ∃ a, x = .ok a := by
  cases x <;> simp [errorOf]

theorem withText_error (mode : TargetMode) (text : String) :
    (withText mode text).error = errorOf (withText mode text).resolve := rfl

/-- Either the error is that of the text, or the field is a block field that has not been edited. -/
theorem error_cases (s : Start) (as : List Action) :
    (run s as).error = errorOf (run s as).resolve ∨
      run s as = new .cidr ∧ ∀ text, ¬ Edited s as text := by
  obtain ⟨hedited, hfresh⟩ := run_eq s as
  by_cases h : ∃ text, Edited s as text
  · obtain ⟨text, ht⟩ := h
    rw [hedited text ht]
    exact .inl (withText_error _ _)
  · have hnone : ∀ text, ¬ Edited s as text := fun text ht => h ⟨text, ht⟩
    rw [hfresh hnone]
    cases selected s as with
    | list => exact .inl rfl
    | cidr => exact .inr ⟨rfl, hnone⟩

theorem error_ne_iff (s : Start) (as : List Action) :
    (run s as).error ≠ errorOf (run s as).resolve ↔
      (run s as).mode = .cidr ∧ ∀ text, ¬ Edited s as text := by
  constructor
  · intro hne
    obtain ⟨hf, hnone⟩ := (error_cases s as).resolve_left hne
    exact ⟨by rw [hf]; rfl, hnone⟩
  · rintro ⟨hm, hnone⟩
    have hf : run s as = new .cidr := by rw [(run_eq s as).2 hnone, ← run_mode, hm]
    rw [hf]
    decide

/-- The state is determined by the mode selected last and the last edit since the mode changed.
The error is that of the text, except in an unedited block field, which has none; selecting the
current mode again changes nothing, now or later. -/
theorem run_determined (s : Start) (as : List Action) :
    let f := run s as
    f.mode = selected s as ∧
      (∀ text, Edited s as text → f.text = text ∧ f.error = errorOf f.resolve) ∧
      ((∀ text, ¬ Edited s as text) → f.text = "" ∧ f.error = none) ∧
      (f.error ≠ errorOf f.resolve ↔ f.mode = .cidr ∧ ∀ text, ¬ Edited s as text) ∧
      (∀ back, run s (as ++ .setMode f.mode :: back) = run s (as ++ back)) ∧
      ∀ s' as', selected s' as' = selected s as →
        (∀ text, Edited s' as' text ↔ Edited s as text) → run s' as' = f := by
  intro f
  obtain ⟨hedited, hfresh⟩ := run_eq s as
  refine ⟨run_mode s as, fun text h => ?_, fun h => ?_, error_ne_iff s as, fun back => ?_,
    fun s' as' hsel heq => ?_⟩
  · simp only [f, hedited text h]
    exact ⟨rfl, withText_error _ _⟩
  · simp only [f, hfresh h]
    exact ⟨rfl, rfl⟩
  · rw [run_append, List.foldl_cons, run_append]
    exact congrArg (List.foldl apply · back) (setMode_mode_self f)
  · obtain ⟨hedited', hfresh'⟩ := run_eq s' as'
    by_cases h : ∃ text, Edited s as text
    · obtain ⟨text, ht⟩ := h
      rw [hedited' text ((heq text).mpr ht), hsel]
      exact (hedited text ht).symm
    · have hnone : ∀ text, ¬ Edited s as text := fun text ht => h ⟨text, ht⟩
      rw [hfresh' fun text ht => hnone text ((heq text).mp ht), hsel]
      exact (hfresh hnone).symm

/-- A list typed before a switch leaves no trace: the field is the one that begins with the block
text, and carries that text's error. -/
theorem run_determined_switched :
    let as : List Action := [.edit "10.0.0.1", .setMode .cidr, .edit "10.0.0.0/", .setMode .cidr]
    Edited (.new .list) as "10.0.0.0/" ∧
      (run (.new .list) as).error = some (.invalidCidr "10.0.0.0/") ∧
      run (.withText .cidr "10.0.0.0/") [] = run (.new .list) as ∧
      (run (.new .list) [.setMode .cidr]).error = none := by
  intro as
  have hedited : Edited (.new .list) as "10.0.0.0/" :=
    ⟨[.edit "10.0.0.1", .setMode .cidr], [.setMode .cidr], rfl, by decide⟩
  have hfresh : ∀ text, ¬ Edited (.new .list) ([] ++ [.setMode .cidr]) text := fun text h =>
    absurd (edited_concat_setMode.mp h).1 (by decide)
  obtain ⟨-, htext, -, -, -, hsame⟩ := run_determined (.new .list) as
  obtain ⟨-, -, hnone, -⟩ := run_determined (.new .list) [.setMode .cidr]
  refine ⟨hedited, ?_, ?_, (hnone hfresh).2⟩
  · rw [(htext _ hedited).2]
    decide
  · refine hsame (.withText .cidr "10.0.0.0/") [] rfl fun text => edited_withText.trans ?_
    exact ⟨fun h => h ▸ hedited, fun h => h.unique hedited⟩

end DeviceConsole.TargetField
