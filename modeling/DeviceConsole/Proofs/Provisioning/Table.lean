import DeviceConsole.Proofs.Url.Endpoint
import DeviceConsole.Proofs.Wire.Device
import Mathlib.Data.List.Nodup

/-! A backend that keeps one row an address, lists its rows in an order of its own, and can do
nothing to a device but flip it. -/
namespace DeviceConsole

structure Table where
  devices : List Device
  distinct : (devices.map (·.address)).Nodup

namespace Table

@[ext] theorem ext {t u : Table} (h : t.devices = u.devices) : t = u := by
  cases t
  cases u
  simpa using h

instance : Membership Address Table := ⟨fun t a => ∃ d ∈ t.devices, d.address = a⟩

theorem mem_iff {t : Table} {a : Address} : a ∈ t ↔ ∃ d ∈ t.devices, d.address = a := Iff.rfl

/-- An address has one device. -/
theorem eq_of_address {t : Table} {d e : Device} (hd : d ∈ t.devices) (he : e ∈ t.devices)
    (h : d.address = e.address) : d = e :=
  List.inj_on_of_nodup_map t.distinct hd he h

/-- Gives every device the state `f` says; nothing else about it changes. -/
def update (t : Table) (f : Device → Bool) : Table where
  devices := t.devices.map fun d => { d with provisioned := f d }
  distinct := by simpa [Function.comp_def] using t.distinct

theorem update_congr {t : Table} {f g : Device → Bool} (h : ∀ d ∈ t.devices, f d = g d) :
    t.update f = t.update g := by
  ext1
  apply List.map_congr_left
  intro d hd
  rw [h d hd]

@[simp] theorem update_update (t : Table) (f g : Device → Bool) :
    (t.update f).update g = t.update fun d => g { d with provisioned := f d } := by
  ext1
  simp [update]

@[simp] theorem update_self (t : Table) : t.update (·.provisioned) = t := by
  ext1
  simp [update]

@[simp] theorem mem_update {t : Table} {f : Device → Bool} {a : Address} :
    a ∈ t.update f ↔ a ∈ t := by
  simp [mem_iff, update]

/-! ### Flipping -/

def flipOne (t : Table) (a : Address) : Table :=
  t.update fun d => if d.address = a then !d.provisioned else d.provisioned

/-- Each address flips its device once for every time it is listed. -/
def flip (t : Table) (as : List Address) : Table := as.foldl flipOne t

@[simp] theorem flip_nil (t : Table) : t.flip [] = t := rfl

/-- An address listed an odd number of times is flipped, any other is left alone. -/
theorem flip_eq (t : Table) (as : List Address) :
    t.flip as = t.update fun d => d.provisioned ^^ decide (as.count d.address % 2 = 1) := by
  induction as generalizing t with
  | nil => simp
  | cons a as ih =>
    change (t.flipOne a).flip as = _
    rw [ih, flipOne, update_update]
    apply update_congr
    intro d _
    by_cases h : d.address = a
    · subst h
      have hodd : decide ((as.count d.address + 1) % 2 = 1) =
          !decide (as.count d.address % 2 = 1) := by
        rw [← decide_not, decide_eq_decide]
        omega
      rw [List.count_cons_self, hodd]
      simp
    · have h' : ¬ a = d.address := fun e => h e.symm
      simp [h, h']

theorem flip_nodup (t : Table) {as : List Address} (h : as.Nodup) :
    t.flip as = t.update fun d => if d.address ∈ as then !d.provisioned else d.provisioned := by
  rw [flip_eq]
  apply update_congr
  intro d _
  by_cases hd : d.address ∈ as
  · simp [hd, List.count_eq_one_of_mem h hd]
  · simp [hd, List.count_eq_zero_of_not_mem hd]

/-! ### Settling -/

/-- Every named device in state `b`, every other one as it was. -/
def settle (t : Table) (as : List Address) (b : Bool) : Table :=
  t.update fun d => if d.address ∈ as then b else d.provisioned

/-- The named devices that are not in state `b` yet. -/
def pending (t : Table) (as : List Address) (b : Bool) : List Device :=
  t.devices.filter fun d => d.address ∈ as && d.provisioned != b

theorem mem_pending {t : Table} {as : List Address} {b : Bool} {d : Device} :
    d ∈ t.pending as b ↔ d ∈ t.devices ∧ d.address ∈ as ∧ d.provisioned ≠ b := by
  simp [pending]

theorem settle_append (t : Table) (as as' : List Address) (b : Bool) :
    (t.settle as b).settle as' b = t.settle (as ++ as') b := by
  rw [settle, settle, settle, update_update]
  apply update_congr
  intro d _
  by_cases h : d.address ∈ as <;> simp [h]

theorem settle_congr {t : Table} {as as' : List Address} {b : Bool}
    (h : ∀ a, a ∈ as ↔ a ∈ as') : t.settle as b = t.settle as' b := by
  apply update_congr
  intro d _
  simp only [h]

theorem settle_settle (t : Table) (as : List Address) (b : Bool) :
    (t.settle as b).settle as b = t.settle as b := by
  rw [settle_append]
  exact settle_congr (by simp)

/-- The addresses that have to be flipped. -/
def changes (t : Table) (as : List Address) (b : Bool) : AddressSet :=
  .ofList ((t.pending as b).map (·.address))

theorem mem_changes {t : Table} {as : List Address} {b : Bool} {a : Address} :
    a ∈ (t.changes as b).elems ↔ a ∈ (t.pending as b).map (·.address) :=
  AddressSet.mem_ofList

theorem address_mem_changes {t : Table} {as : List Address} {b : Bool} {d : Device}
    (hd : d ∈ t.devices) :
    d.address ∈ (t.changes as b).elems ↔ d.address ∈ as ∧ d.provisioned ≠ b := by
  rw [mem_changes, List.mem_map]
  constructor
  · rintro ⟨e, he, hea⟩
    obtain ⟨hed, ha, hp⟩ := mem_pending.mp he
    rw [eq_of_address hed hd hea] at ha hp
    exact ⟨ha, hp⟩
  · rintro ⟨ha, hp⟩
    exact ⟨d, mem_pending.mpr ⟨hd, ha, hp⟩, rfl⟩

theorem changes_perm (t : Table) (as : List Address) (b : Bool) :
    (t.changes as b).elems.Perm ((t.pending as b).map (·.address)) := by
  have hnodup : ((t.pending as b).map (·.address)).Nodup :=
    t.distinct.sublist (List.filter_sublist.map _)
  exact (List.perm_ext_iff_of_nodup (AddressSet.nodup _) hnodup).mpr fun _ => mem_changes

theorem length_changes (t : Table) (as : List Address) (b : Bool) :
    (t.changes as b).elems.length = (t.pending as b).length := by
  rw [(t.changes_perm as b).length_eq, List.length_map]

/-- Flipping what has to be flipped settles the table. -/
theorem flip_changes (t : Table) (as : List Address) (b : Bool) :
    t.flip (t.changes as b).elems = t.settle as b := by
  rw [flip_nodup t (AddressSet.nodup _), settle]
  apply update_congr
  intro d hd
  simp only [address_mem_changes hd]
  by_cases ha : d.address ∈ as
  · cases hp : d.provisioned <;> cases b <;> simp [ha]
  · simp [ha]

/-- A table with nothing to change is settled. -/
theorem settle_eq_self {t : Table} {as : List Address} {b : Bool}
    (h : (t.changes as b).elems = []) : t.settle as b = t := by
  rw [← flip_changes, h, flip_nil]

end Table
end DeviceConsole
