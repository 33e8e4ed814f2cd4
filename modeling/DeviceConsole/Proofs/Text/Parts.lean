import Mathlib.Data.List.Basic

/-! Texts cut at separators, and the parts joined again: no character is made up, and a cut is where
the first character stands that does not pass. -/
namespace DeviceConsole.Text

theorem mem_splitOnP {α : Type} {p : α → Bool} {as part : List α} {a : α}
    (hpart : part ∈ as.splitOnP p) (ha : a ∈ part) : a ∈ as ∧ p a = false := by
  induction as generalizing part with
  | nil =>
    rw [List.splitOnP_nil, List.mem_singleton] at hpart
    simp [hpart] at ha
  | cons b as ih =>
    rw [List.splitOnP_cons_eq_if_modifyHead] at hpart
    split at hpart
    · rcases List.mem_cons.mp hpart with rfl | hpart
      · cases ha
      · exact ⟨List.mem_cons_of_mem _ (ih hpart ha).1, (ih hpart ha).2⟩
    · rename_i hb
      obtain ⟨first, rest, hsplit⟩ := List.exists_cons_of_ne_nil (List.splitOnP_ne_nil p as)
      rw [hsplit, List.modifyHead_cons] at hpart
      rw [hsplit] at ih
      rcases List.mem_cons.mp hpart with rfl | hpart
      · rcases List.mem_cons.mp ha with rfl | ha
        · exact ⟨by simp, by simpa using hb⟩
        · exact ⟨List.mem_cons_of_mem _ (ih (by simp) ha).1, (ih (by simp) ha).2⟩
      · have hmem := ih (List.mem_cons_of_mem _ hpart) ha
        exact ⟨List.mem_cons_of_mem _ hmem.1, hmem.2⟩

theorem mem_intercalate {α : Type} {sep a : α} {parts : List (List α)}
    (h : a ∈ [sep].intercalate parts) : a = sep ∨ ∃ part ∈ parts, a ∈ part := by
  induction parts with
  | nil => cases h
  | cons part parts ih =>
    cases parts with
    | nil => exact .inr ⟨part, by simp, by simpa using h⟩
    | cons next rest =>
      rw [List.intercalate_cons_cons, List.append_assoc, List.mem_append, List.singleton_append,
        List.mem_cons] at h
      rcases h with h | h | h
      · exact .inr ⟨part, by simp, h⟩
      · exact .inl h
      · refine (ih h).imp id fun hrest => ?_
        obtain ⟨p, hp, ha⟩ := hrest
        exact ⟨p, List.mem_cons_of_mem _ hp, ha⟩

theorem cut_append {α : Type} {p : α → Bool} {front : List α} (rest : List α)
    (hfront : ∀ a ∈ front, p a = true) (hrest : ∀ a, rest.head? = some a → p a = false) :
    (front ++ rest).takeWhile p = front ∧ (front ++ rest).dropWhile p = rest := by
  rw [List.takeWhile_append_of_pos hfront, List.dropWhile_append_of_pos hfront]
  cases rest with
  | nil => simp
  | cons a rest =>
    have ha := hrest a rfl
    simp [ha]

end DeviceConsole.Text
