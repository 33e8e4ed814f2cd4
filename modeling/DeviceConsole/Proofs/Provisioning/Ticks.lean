import DeviceConsole.Proofs.Provisioning.Choice
import DeviceConsole.Proofs.Provisioning.Table
import Mathlib.Data.List.Induction

/-! Histories of a selection over a table. Nothing outside the table is ever ticked, so counting
tells a full selection from a partial one, and a row is ticked as the last bulk action left it,
flipped once by every toggle since. -/
namespace DeviceConsole

namespace Table

def addresses (t : Table) : List Address := t.devices.map (·.address)

theorem mem_addresses {t : Table} {a : Address} : a ∈ t.addresses ↔ a ∈ t := by
  simp [addresses, mem_iff]

theorem addresses_eq_nil_iff {t : Table} : t.addresses = [] ↔ t.devices = [] := by
  simp [addresses]

end Table

namespace Selection

/-- What an operator does to a selection over a table. -/
inductive Action (t : Table) where
  | toggle (a : Address) (listed : a ∈ t)
  | selectAll
  | toggleAll
  | clear

variable {t : Table}

namespace Action

def isBulk : Action t → Bool
  | toggle _ _ => false
  | _ => true

/-- It is a toggle of this very address. -/
def toggles (a : Address) : Action t → Bool
  | toggle b _ => b = a
  | _ => false

end Action

def apply (s : Selection) : Action t → Selection
  | .toggle a _ => s.toggle a
  | .selectAll => selectAll t.addresses
  | .toggleAll => s.toggleAll t.addresses
  | .clear => empty

def run (as : List (Action t)) : Selection := as.foldl apply empty

/-- Every row of the table is ticked, and there are rows. -/
def IsFull (t : Table) (s : Selection) : Prop :=
  t.devices ≠ [] ∧ ∀ a ∈ t, s.contains a = true

/-- What a bulk action makes of a selection: the whole table is ticked after it, or nothing is. The
checkbox above the table unticks a full selection only. -/
inductive Leaves (s : Selection) : Action t → Bool → Prop
  | clear : Leaves s .clear false
  | selectAll : Leaves s .selectAll true
  | toggleFull (full : IsFull t s) : Leaves s .toggleAll false
  | toggleOther (other : ¬ IsFull t s) : Leaves s .toggleAll true

/-- A history is divided at its last bulk action, which ticked the whole table or nothing; what
follows are toggles. Where there is no bulk action, nothing was ticked at the start. -/
inductive Divided : List (Action t) → Bool → List (Action t) → Prop
  | fresh {back : List (Action t)} (toggles : ∀ x ∈ back, x.isBulk = false) :
      Divided back false back
  | bulk {front back : List (Action t)} {x : Action t} {whole : Bool}
      (leaves : Leaves (run front) x whole) (toggles : ∀ x ∈ back, x.isBulk = false) :
      Divided (front ++ x :: back) whole back

variable {s : Selection} {a x : Address}

/-! ### Single actions -/

@[simp] theorem contains_empty : empty.contains a = false :=
  decide_eq_false (List.not_mem_nil (a := a))

theorem mem_toggle_of_contains (h : s.contains a = true) :
    x ∈ (s.toggle a).selected ↔ x ∈ s.selected ∧ x ≠ a := by
  simp [toggle, h]

@[simp] theorem contains_toggle : (s.toggle a).contains x = (s.contains x ^^ decide (a = x)) := by
  rw [Bool.eq_iff_iff, mem_iff]
  cases h : s.contains a with
  | false =>
    rw [mem_toggle_of_not_contains h]
    by_cases hx : a = x
    · subst hx
      simp [h]
    · simp [hx, Ne.symm hx, mem_iff]
  | true =>
    rw [mem_toggle_of_contains h]
    by_cases hx : a = x
    · subst hx
      simp [h]
    · simp [hx, Ne.symm hx, mem_iff]

@[simp] theorem contains_selectAll {as : List Address} :
    (selectAll as).contains x = decide (x ∈ as) := by
  simp [contains, selectAll, AddressSet.contains]

theorem toggled_eq (s : Selection) (a : Address) :
    s.toggled a = ((s.toggle a).contains a, s.toggle a) := by
  simp [toggled]

theorem isEmpty_iff_contains : s.isEmpty = true ↔ ∀ a, s.contains a = false := by
  rw [isEmpty_iff, List.eq_nil_iff_forall_not_mem]
  exact forall_congr' fun a => (decide_eq_false_iff_not (p := a ∈ s.selected)).symm

/-- A toggle flips the address it names and no other. -/
theorem contains_apply_toggle {y : Action t} (hy : y.isBulk = false) (a : Address) :
    (s.apply y).contains a = (s.contains a ^^ y.toggles a) := by
  cases y with
  | toggle b _ => exact contains_toggle
  | _ => cases hy

/-- Toggles without a bulk action flip an address as often as they name it. -/
theorem contains_foldl_toggles {back : List (Action t)} (h : ∀ y ∈ back, y.isBulk = false)
    (s : Selection) (a : Address) :
    (back.foldl apply s).contains a =
      (s.contains a ^^ decide (back.countP (·.toggles a) % 2 = 1)) := by
  induction back generalizing s with
  | nil => simp
  | cons y back ih =>
    have hodd (n : Nat) : decide ((n + 1) % 2 = 1) = !decide (n % 2 = 1) := by
      rw [← decide_not, decide_eq_decide]
      omega
    rw [List.foldl_cons, ih fun z hz => h z (by simp [hz]),
      contains_apply_toggle (h y (by simp)), List.countP_cons, Bool.xor_assoc]
    cases y.toggles a <;> simp [hodd]

/-! ### Within the table -/

theorem subperm_of_ticked {rows : List Address} (h : ∀ a, s.contains a = true → a ∈ rows) :
    s.selected.elems.Subperm rows :=
  List.subperm_of_subset s.selected.nodup fun a ha => h a (mem_iff.mpr ha)

/-- Of rows without repetitions as many are ticked as there are exactly when every one is. -/
theorem size_eq_length_iff {rows : List Address} (hd : rows.Nodup)
    (h : ∀ a, s.contains a = true → a ∈ rows) :
    s.size = rows.length ↔ ∀ a ∈ rows, s.contains a = true := by
  constructor
  · intro hsize a ha
    have hperm := (subperm_of_ticked h).perm_of_length_le (Nat.le_of_eq hsize.symm)
    exact mem_iff.mpr (hperm.mem_iff.mpr ha)
  · intro hall
    refine Nat.le_antisymm (subperm_of_ticked h).length_le
      (List.subperm_of_subset hd fun a ha => ?_).length_le
    exact mem_iff.mp (hall a ha)

/-- Nothing outside the table is ticked. -/
def Within (t : Table) (s : Selection) : Prop := ∀ a, s.contains a = true → a ∈ t

theorem within_empty : Within t empty := fun a h => by simp at h

theorem Within.mem_addresses (h : Within t s) (a : Address) (ha : s.contains a = true) :
    a ∈ t.addresses :=
  Table.mem_addresses.mpr (h a ha)

theorem Within.size_le (h : Within t s) : s.size ≤ t.addresses.length :=
  (subperm_of_ticked h.mem_addresses).length_le

/-- As many addresses are ticked as the table has rows exactly when every row is. -/
theorem Within.size_eq_iff (h : Within t s) :
    s.size = t.addresses.length ↔ ∀ a ∈ t, s.contains a = true := by
  have hcount : s.size = t.addresses.length ↔ ∀ a ∈ t.addresses, s.contains a = true :=
    size_eq_length_iff t.distinct h.mem_addresses
  simpa only [Table.mem_addresses] using hcount

theorem Within.isAll_iff (h : Within t s) : s.isAll t.addresses.length = true ↔ IsFull t s := by
  rw [IsFull, ← h.size_eq_iff, ne_eq, ← Table.addresses_eq_nil_iff]
  simp [isAll, List.length_pos_iff]

/-- The checkbox above the table unticks everything if all is ticked, and else ticks all. -/
theorem Within.contains_toggleAll (h : Within t s) :
    (s.toggleAll t.addresses).contains a = true ↔ a ∈ t ∧ ¬ IsFull t s := by
  by_cases hf : IsFull t s
  · rw [toggleAll, if_pos (h.isAll_iff.mpr hf), contains_empty]
    simp [hf]
  · rw [toggleAll, if_neg (h.isAll_iff.not.mpr hf), contains_selectAll]
    simp [hf, Table.mem_addresses]

theorem Within.isPartial_iff (h : Within t s) :
    s.isPartial t.addresses.length = true ↔
      (∃ a ∈ t, s.contains a = true) ∧ ∃ a ∈ t, s.contains a = false := by
  have hempty : s.isEmpty = false ↔ ∃ a ∈ t, s.contains a = true := by
    rw [← Bool.not_eq_true, isEmpty_iff_contains]
    constructor
    · intro hne
      obtain ⟨a, ha⟩ := not_forall.mp hne
      have ha' : s.contains a = true := by simpa using ha
      exact ⟨a, h a ha', ha'⟩
    · rintro ⟨a, -, ha⟩ hnone
      rw [hnone a] at ha
      cases ha
  have hmissing : s.size < t.addresses.length ↔ ∃ a ∈ t, s.contains a = false := by
    have hlt : s.size < t.addresses.length ↔ ¬ s.size = t.addresses.length := by
      have := h.size_le
      omega
    rw [hlt, h.size_eq_iff]
    simp
  rw [← hempty, ← hmissing]
  simp [isPartial]

/-- The state of the checkbox above a table that has rows is one of three. -/
theorem Within.header (h : Within t s) (ht : t.devices ≠ []) :
    [s.isEmpty, s.isPartial t.addresses.length, s.isAll t.addresses.length].count true = 1 := by
  have hpos : 0 < t.addresses.length :=
    List.length_pos_iff.mpr (Table.addresses_eq_nil_iff.not.mpr ht)
  have hempty : s.isEmpty = decide (s.size = 0) := by
    rw [Bool.eq_iff_iff, isEmpty_iff, decide_eq_true_iff]
    exact List.length_eq_zero_iff.symm
  have hle := h.size_le
  by_cases h0 : s.size = 0
  · have hne : ¬ 0 = t.addresses.length := by omega
    simp [isPartial, isAll, hempty, h0, hne]
  · by_cases hn : s.size = t.addresses.length
    · have hne : ¬ t.addresses.length = 0 := by omega
      simp [isPartial, isAll, hempty, hn, hpos, hne]
    · have hlt : s.size < t.addresses.length := by omega
      simp [isPartial, isAll, hempty, h0, hn, hlt]

/-! ### Histories -/

theorem Within.apply (h : Within t s) (y : Action t) : Within t (s.apply y) := by
  cases y with
  | toggle b listed =>
    intro a ha
    by_cases hb : b = a
    · exact hb ▸ listed
    · exact h a (by simpa [Selection.apply, hb] using ha)
  | selectAll => exact fun a ha => Table.mem_addresses.mp (by simpa [Selection.apply] using ha)
  | toggleAll => exact fun a ha => (h.contains_toggleAll.mp ha).1
  | clear => exact within_empty

theorem run_concat (as : List (Action t)) (y : Action t) : run (as ++ [y]) = (run as).apply y := by
  simp [run, List.foldl_append]

theorem run_within (as : List (Action t)) : Within t (run as) := by
  induction as using List.reverseRecOn with
  | nil => exact within_empty
  | append_singleton as y ih =>
    rw [run_concat]
    exact ih.apply y

theorem Leaves.contains {y : Action t} {whole : Bool} (h : Leaves s y whole) (hs : Within t s)
    {a : Address} (ha : a ∈ t) : (s.apply y).contains a = whole := by
  have htoggle : (s.apply (t := t) .toggleAll).contains a = true ↔ a ∈ t ∧ ¬ IsFull t s :=
    hs.contains_toggleAll
  cases h with
  | clear => exact contains_empty
  | selectAll =>
    rw [Selection.apply, contains_selectAll]
    exact decide_eq_true (Table.mem_addresses.mpr ha)
  | toggleFull full => simpa [full] using htoggle.not
  | toggleOther other => exact htoggle.mpr ⟨ha, other⟩

theorem exists_leaves (s : Selection) {y : Action t} (hy : y.isBulk = true) :
    ∃ whole, Leaves s y whole := by
  cases y with
  | toggle => cases hy
  | selectAll => exact ⟨true, .selectAll⟩
  | clear => exact ⟨false, .clear⟩
  | toggleAll =>
    by_cases hf : IsFull t s
    · exact ⟨false, .toggleFull hf⟩
    · exact ⟨true, .toggleOther hf⟩

theorem exists_divided (as : List (Action t)) : ∃ whole back, Divided as whole back := by
  induction as using List.reverseRecOn with
  | nil => exact ⟨false, [], .fresh (by simp)⟩
  | append_singleton as y ih =>
    cases hy : y.isBulk with
    | true =>
      obtain ⟨whole, hleaves⟩ := exists_leaves (run as) hy
      exact ⟨whole, [], .bulk hleaves (by simp)⟩
    | false =>
      have hsnoc {back : List (Action t)} (h : ∀ z ∈ back, z.isBulk = false) :
          ∀ z ∈ back ++ [y], z.isBulk = false := by
        simpa [or_imp, forall_and, hy] using h
      obtain ⟨whole, back, hdivided⟩ := ih
      cases hdivided with
      | fresh h => exact ⟨false, as ++ [y], .fresh (hsnoc h)⟩
      | @bulk front back z whole hleaves h =>
        refine ⟨whole, back ++ [y], ?_⟩
        rw [List.append_assoc, List.cons_append]
        exact .bulk hleaves (hsnoc h)

theorem Divided.contains {as back : List (Action t)} {whole : Bool}
    (h : Divided as whole back) {a : Address} (ha : a ∈ t) :
    (run as).contains a = (whole ^^ decide (back.countP (·.toggles a) % 2 = 1)) := by
  cases h with
  | fresh htoggles =>
    rw [run, contains_foldl_toggles htoggles, contains_empty]
  | @bulk front back y whole hleaves htoggles =>
    have hrun : run (front ++ y :: back) = back.foldl apply ((run front).apply y) := by
      simp [run, List.foldl_append]
    rw [hrun, contains_foldl_toggles htoggles, hleaves.contains (run_within front) ha]

/-- After any history over a table only rows of the table are ticked, each as the last bulk action
left it and flipped by every toggle since; a toggle answers with what it leaves. Counting tells
whether all rows are ticked, some or none, the checkbox unticks all of them and otherwise ticks the
whole table, and what is sent is what is ticked, in ascending order. -/
theorem run_header (t : Table) (as : List (Action t)) :
    let s := run as
    (∀ a, s.contains a = true → a ∈ t) ∧
      (∃ whole back, Divided as whole back) ∧
      (∀ whole back, Divided as whole back → ∀ a ∈ t,
        s.contains a = (whole ^^ decide (back.countP (·.toggles a) % 2 = 1))) ∧
      (∀ a listed, s.toggled a = ((run (as ++ [.toggle a listed])).contains a,
        run (as ++ [.toggle a listed]))) ∧
      (s.isAll t.addresses.length = true ↔ IsFull t s) ∧
      (s.isPartial t.addresses.length = true ↔
        (∃ a ∈ t, s.contains a = true) ∧ ∃ a ∈ t, s.contains a = false) ∧
      (t.devices ≠ [] →
        [s.isEmpty, s.isPartial t.addresses.length, s.isAll t.addresses.length].count true = 1) ∧
      (∀ a, (run (as ++ [.toggleAll])).contains a = true ↔ a ∈ t ∧ ¬ IsFull t s) ∧
      match s.request with
      | .error e => e = .nothingSelected ∧ ∀ a, s.contains a = false
      | .ok sent => sent ≠ [] ∧ sent.Pairwise (· < ·) ∧ ∀ a, a ∈ sent ↔ s.contains a = true := by
  intro s
  have hs : Within t s := run_within as
  refine ⟨hs, exists_divided as, fun _ _ h _ => h.contains, fun a listed => ?_, hs.isAll_iff,
    hs.isPartial_iff, hs.header, fun a => ?_, ?_⟩
  · rw [run_concat]
    exact toggled_eq s a
  · rw [run_concat]
    exact hs.contains_toggleAll
  · cases he : s.isEmpty with
    | true =>
      rw [request, if_pos he]
      exact ⟨rfl, isEmpty_iff_contains.mp he⟩
    | false =>
      rw [request, if_neg (by simp [he])]
      refine ⟨fun hnil => ?_, s.selected.ascending, fun a => mem_iff.symm⟩
      rw [isEmpty_iff.mpr hnil] at he
      cases he

/-- The checkbox ticks the rest of a table with one row ticked, then that row is unticked. -/
theorem run_header_unticked :
    let t : Table := ⟨[⟨⟨9⟩, none, false⟩, ⟨⟨7⟩, some 1, true⟩], by decide⟩
    let nine : Action t := .toggle ⟨9⟩ ⟨_, List.mem_cons_self, rfl⟩
    let as : List (Action t) := [nine, .toggleAll, nine]
    Divided as true [nine] ∧ (run as).contains ⟨9⟩ = false ∧ (run as).isPartial 2 = true ∧
      (run as).toggled ⟨9⟩ = (true, selectAll [⟨7⟩, ⟨9⟩]) ∧ (run as).request = .ok [⟨7⟩] := by
  intro t nine as
  have h9 : ⟨9⟩ ∈ t := ⟨_, List.mem_cons_self, rfl⟩
  have h7 : ⟨7⟩ ∈ t := ⟨_, List.mem_cons_of_mem _ List.mem_cons_self, rfl⟩
  have hleaves : Leaves (t := t) (run [nine]) .toggleAll true :=
    .toggleOther fun hf => absurd (hf.2 ⟨7⟩ h7) (by decide)
  have hdivided : Divided as true [nine] := .bulk hleaves (by decide)
  obtain ⟨-, -, hticked, htoggled, -, hpartial, -⟩ := run_header t as
  have h9' : (run as).contains ⟨9⟩ = false := by
    rw [hticked true _ hdivided ⟨9⟩ h9]
    decide
  have h7' : (run as).contains ⟨7⟩ = true := by
    rw [hticked true _ hdivided ⟨7⟩ h7]
    decide
  exact ⟨hdivided, h9', hpartial.mpr ⟨⟨_, h7, h7'⟩, _, h9, h9'⟩,
    (htoggled ⟨9⟩ ⟨_, List.mem_cons_self, rfl⟩).trans (by decide), by decide⟩

end Selection
end DeviceConsole
