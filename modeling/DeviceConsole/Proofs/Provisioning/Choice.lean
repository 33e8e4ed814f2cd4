import DeviceConsole.Console
import Mathlib.Data.List.Nodup

/-! Which devices a call selects: of the listed ones among its arguments, those in the other state,
however often they are named. -/
namespace DeviceConsole

namespace Selection

theorem mem_iff {s : Selection} {a : Address} : s.contains a = true ↔ a ∈ s.selected := by
  simp [contains, AddressSet.contains]

/-- Ticking an address that is not ticked yet adds it and keeps the others. -/
theorem mem_toggle_of_not_contains {s : Selection} {a x : Address} (h : s.contains a = false) :
    x ∈ (s.toggle a).selected ↔ x = a ∨ x ∈ s.selected := by
  simp [toggle, h]

theorem isEmpty_iff {s : Selection} : s.isEmpty = true ↔ s.selected.elems = [] := by
  simp [isEmpty, AddressSet.isEmpty]

end Selection

namespace Console

variable {devices : List Device} {b : Bool}

theorem find?_listed (hd : (devices.map (·.address)).Nodup) {d : Device} (h : d ∈ devices) :
    devices.find? (fun e => e.address = d.address) = some d := by
  cases hf : devices.find? fun e => e.address = d.address with
  | none => simpa using List.find?_eq_none.mp hf d h
  | some e =>
    have he : e.address = d.address := by simpa using List.find?_some hf
    rw [List.inj_on_of_nodup_map hd (List.mem_of_find?_eq_some hf) h he]

/-- When every argument is listed, the selection gains exactly the arguments in the other state. -/
theorem selectChanging_listed (hd : (devices.map (·.address)).Nodup) {as : List Address}
    (h : ∀ a ∈ as, ∃ d ∈ devices, d.address = a) (s : Selection) :
    ∃ s', selectChanging devices b s as = .ok s' ∧
      ∀ x, x ∈ s'.selected ↔
        x ∈ s.selected ∨ ∃ d ∈ devices, d.address = x ∧ x ∈ as ∧ d.provisioned ≠ b := by
  induction as generalizing s with
  | nil => exact ⟨s, rfl, by simp⟩
  | cons a as ih =>
    obtain ⟨d, hmem, rfl⟩ := h a (by simp)
    let s₁ := if d.provisioned ≠ b && !s.contains d.address then s.toggle d.address else s
    have hs₁ : ∀ x, x ∈ s₁.selected ↔ x ∈ s.selected ∨ x = d.address ∧ d.provisioned ≠ b := by
      intro x
      by_cases hp : d.provisioned = b
      · simp [s₁, hp]
      · by_cases hc : s.contains d.address = true
        · have hin := Selection.mem_iff.mp hc
          simp only [s₁, hc, hp, ne_eq, not_false_eq_true, and_true]
          constructor
          · exact .inl
          · rintro (hx | rfl)
            · exact hx
            · exact hin
        · have hc' : s.contains d.address = false := by simpa using hc
          simp [s₁, hp, hc', Selection.mem_toggle_of_not_contains hc', or_comm]
    obtain ⟨s', hs', hx'⟩ := ih (fun a ha => h a (by simp [ha])) s₁
    refine ⟨s', ?_, fun x => ?_⟩
    · rw [selectChanging, find?_listed hd hmem]
      exact hs'
    · rw [hx', hs₁]
      constructor
      · rintro ((hx | ⟨rfl, hp⟩) | ⟨e, he, hea, ha, hp⟩)
        · exact .inl hx
        · exact .inr ⟨d, hmem, rfl, by simp, hp⟩
        · exact .inr ⟨e, he, hea, by simp [ha], hp⟩
      · rintro (hx | ⟨e, he, rfl, ha, hp⟩)
        · exact .inl (.inl hx)
        · rcases List.mem_cons.mp ha with hed | ha
          · rw [List.inj_on_of_nodup_map hd he hmem hed] at hp
            exact .inl (.inr ⟨hed, hp⟩)
          · exact .inr ⟨e, he, rfl, ha, hp⟩

/-- The first argument that is not listed is the one an error names. -/
theorem selectChanging_missing {front rest : List Address} {a : Address}
    (hf : ∀ x ∈ front, ∃ d ∈ devices, d.address = x) (ha : ∀ d ∈ devices, d.address ≠ a)
    (s : Selection) :
    selectChanging devices b s (front ++ a :: rest) = .error (.notFound a.text) := by
  induction front generalizing s with
  | nil =>
    have hnone : devices.find? (fun d => d.address = a) = none := by simpa using ha
    rw [List.nil_append, selectChanging, hnone]
  | cons x front ih =>
    rw [List.cons_append, selectChanging]
    obtain ⟨d, hd, hx⟩ := hf x (by simp)
    cases hfind : devices.find? fun d => d.address = x with
    | none => exact absurd hx (by simpa using List.find?_eq_none.mp hfind d hd)
    | some e => exact ih (fun y hy => hf y (by simp [hy])) _

end Console
end DeviceConsole
