import DeviceConsole.Proofs.Provisioning.Ticks
import Mathlib.Data.List.Dedup

/-! The checkbox above any table, with repeated rows, and over any selection, with addresses that are
not in the table. The checkbox counts what is ticked instead of looking for it, so it keeps its rule
exactly where the count tells whether all rows are ticked. -/
namespace DeviceConsole.Selection

/-- The rule of the checkbox: where there are rows and all are ticked nothing is ticked afterwards,
and otherwise the rows are and nothing else. -/
structure KeepsRule (before : Selection) (rows : List Address) (after : Selection) : Prop where
  unticks : rows ≠ [] → (∀ a ∈ rows, before.contains a = true) → ∀ a, after.contains a = false
  ticks : (rows = [] ∨ ∃ a ∈ rows, before.contains a = false) →
    ∀ a, after.contains a = true ↔ a ∈ rows

variable {s after : Selection} {rows : List Address}

/-! ### Counting -/

theorem isAll_length_iff : s.isAll rows.length = true ↔ rows ≠ [] ∧ s.size = rows.length := by
  simp [isAll, List.length_pos_iff]

theorem toggleAll_of_size_eq (hne : rows ≠ []) (h : s.size = rows.length) :
    s.toggleAll rows = empty := by
  rw [toggleAll, if_pos (isAll_length_iff.mpr ⟨hne, h⟩)]

theorem toggleAll_of_size_ne (h : s.size ≠ rows.length) : s.toggleAll rows = selectAll rows := by
  have hnot : ¬ s.isAll rows.length = true := fun hall => h (isAll_length_iff.mp hall).2
  rw [toggleAll, if_neg hnot]

theorem toggleAll_nil (s : Selection) : s.toggleAll [] = empty := by
  have hnot : ¬ s.isAll 0 = true := by simp [isAll]
  exact if_neg hnot

/-- After the checkbox the rows are ticked, unless as many addresses were ticked as there are
rows. -/
theorem contains_toggleAll (s : Selection) (rows : List Address) (a : Address) :
    (s.toggleAll rows).contains a = true ↔ a ∈ rows ∧ s.size ≠ rows.length := by
  by_cases h : s.size = rows.length
  · have hempty : s.toggleAll rows = empty := by
      by_cases hne : rows = []
      · rw [hne, toggleAll_nil]
      · exact toggleAll_of_size_eq hne h
    simp [hempty, h]
  · simp [toggleAll_of_size_ne h, h]

/-! ### Where the rule is kept -/

theorem toggleAll_keepsRule_iff :
    KeepsRule s rows (s.toggleAll rows) ↔
      (rows ≠ [] → (s.size = rows.length ↔ ∀ a ∈ rows, s.contains a = true)) := by
  constructor
  · intro hrule hne
    obtain ⟨row, hrow⟩ := List.exists_mem_of_ne_nil rows hne
    constructor
    · intro hsize a ha
      by_contra hnot
      have hticked := hrule.ticks (.inr ⟨a, ha, Bool.eq_false_of_not_eq_true hnot⟩) a
      exact ((contains_toggleAll s rows a).mp (hticked.mpr ha)).2 hsize
    · intro hall
      by_contra hsize
      have hticked := (contains_toggleAll s rows row).mpr ⟨hrow, hsize⟩
      rw [hrule.unticks hne hall row] at hticked
      cases hticked
  · intro hcount
    constructor
    · intro hne hall a
      have hsize := (hcount hne).mpr hall
      rw [toggleAll_of_size_eq hne hsize, contains_empty]
    · rintro (rfl | ⟨b, hb, hfalse⟩) a
      · simp [toggleAll_nil]
      · have hsize : s.size ≠ rows.length := fun hsize => by
          have hall := (hcount (List.ne_nil_of_mem hb)).mp hsize
          rw [hall b hb] at hfalse
          cases hfalse
        simp [contains_toggleAll, hsize]

/-- Over rows without repetitions the count is right if nothing else is ticked. -/
theorem toggleAll_keepsRule (hd : rows.Nodup) (h : ∀ a, s.contains a = true → a ∈ rows) :
    KeepsRule s rows (s.toggleAll rows) :=
  toggleAll_keepsRule_iff.mpr fun _ => size_eq_length_iff hd h

theorem mem_of_contains_toggleAll {a : Address} (h : (s.toggleAll rows).contains a = true) :
    a ∈ rows :=
  ((contains_toggleAll s rows a).mp h).1

/-- A selection within rows of which one is repeated is smaller than the rows are many. -/
theorem size_lt_of_not_nodup (hd : ¬ rows.Nodup) (h : ∀ a, s.contains a = true → a ∈ rows) :
    s.size < rows.length := by
  have hsize : s.size ≤ rows.dedup.length :=
    (subperm_of_ticked fun a ha => List.mem_dedup.mpr (h a ha)).length_le
  have hle : rows.dedup.length ≤ rows.length := (List.dedup_sublist rows).length_le
  have hne : rows.dedup.length ≠ rows.length := fun heq =>
    hd (List.dedup_eq_self.mp ((List.dedup_sublist rows).eq_of_length heq))
  omega

/-- Whatever is ticked, the checkbox ticks the rows and nothing else, or nothing at all where as many
addresses were ticked as there are rows. So it keeps its rule exactly where this count is right: it
is over rows without repetitions when nothing else is ticked, hence from the second use on. A
selection within repeated rows is never unticked. -/
theorem toggleAll_counts (s : Selection) (rows : List Address) :
    (∀ a, (s.toggleAll rows).contains a = true ↔ a ∈ rows ∧ s.size ≠ rows.length) ∧
    (KeepsRule s rows (s.toggleAll rows) ↔
      (rows ≠ [] → (s.size = rows.length ↔ ∀ a ∈ rows, s.contains a = true))) ∧
    (rows.Nodup → (∀ a, s.contains a = true → a ∈ rows) →
      KeepsRule s rows (s.toggleAll rows)) ∧
    (rows.Nodup →
      KeepsRule (s.toggleAll rows) rows ((s.toggleAll rows).toggleAll rows)) ∧
    (¬ rows.Nodup → (∀ a, s.contains a = true → a ∈ rows) →
      s.toggleAll rows = selectAll rows) := by
  refine ⟨contains_toggleAll s rows, toggleAll_keepsRule_iff, toggleAll_keepsRule, fun hd => ?_,
    fun hd h => ?_⟩
  · exact toggleAll_keepsRule hd fun a => mem_of_contains_toggleAll
  · exact toggleAll_of_size_ne (Nat.ne_of_lt (size_lt_of_not_nodup hd h))

/-- A stray address beside the one row is no full selection to the count, which ticks the row
instead of unticking it; the next use is right. -/
theorem toggleAll_counts_stray :
    let s := selectAll [⟨1⟩, ⟨9⟩]
    ¬ KeepsRule s [⟨1⟩] (s.toggleAll [⟨1⟩]) ∧
      KeepsRule (s.toggleAll [⟨1⟩]) [⟨1⟩] ((s.toggleAll [⟨1⟩]).toggleAll [⟨1⟩]) := by
  intro s
  obtain ⟨-, hrule, -, hnext, -⟩ := toggleAll_counts s [⟨1⟩]
  have hcount : ¬ (s.size = 1 ↔ ∀ a ∈ [⟨1⟩], s.contains a = true) := by decide
  exact ⟨fun h => hcount (hrule.mp h (by simp)), hnext (by simp)⟩

/-- One row, which is not ticked, and one address ticked that is not in the table: the checkbox
unticks everything. -/
theorem toggleAll_swapped :
    let s := empty.toggle ⟨9⟩
    s.contains ⟨1⟩ = false ∧ (s.toggleAll [⟨1⟩]).contains ⟨1⟩ = false ∧
      ¬ KeepsRule s [⟨1⟩] (s.toggleAll [⟨1⟩]) := by
  intro s
  have hrow : s.contains ⟨1⟩ = false := by decide
  have hafter : (s.toggleAll [⟨1⟩]).contains ⟨1⟩ = false := by decide
  refine ⟨hrow, hafter, fun h => ?_⟩
  have hticked := (h.ticks (.inr ⟨⟨1⟩, by simp, hrow⟩) ⟨1⟩).mpr (by simp)
  rw [hafter] at hticked
  cases hticked

end DeviceConsole.Selection
