import DeviceConsole.Address

/-! Finite sets of addresses, kept as strictly ascending lists. -/
namespace DeviceConsole

structure AddressSet where
  elems : List Address
  ascending : elems.Pairwise (· < ·)
deriving DecidableEq

namespace AddressSet

def empty : AddressSet := ⟨[], .nil⟩

instance : Inhabited AddressSet := ⟨empty⟩

instance : Membership Address AddressSet := ⟨fun s a => a ∈ s.elems⟩

instance (a : Address) (s : AddressSet) : Decidable (a ∈ s) :=
  inferInstanceAs (Decidable (a ∈ s.elems))

def size (s : AddressSet) : Nat := s.elems.length

def isEmpty (s : AddressSet) : Bool := s.elems.isEmpty

def contains (s : AddressSet) (a : Address) : Bool := decide (a ∈ s)

/-- Inserts before the first greater element. -/
def insertInto (a : Address) : List Address → List Address
  | [] => [a]
  | b :: bs => if a < b then a :: b :: bs else if a = b then b :: bs else b :: insertInto a bs

theorem mem_insertInto {a x : Address} {l : List Address} :
    x ∈ insertInto a l ↔ x = a ∨ x ∈ l := by
  induction l with
  | nil => simp [insertInto]
  | cons b bs ih =>
    unfold insertInto
    split
    · simp
    · split
      · rename_i h
        subst h
        simp
      · simp only [List.mem_cons, ih]
        constructor <;> rintro (h | h | h) <;> simp [h]

theorem lt_of_not_lt {a b : Address} (h : ¬ a < b) (hne : a ≠ b) : b < a := by
  have hp : a.packed.toNat ≠ b.packed.toNat := fun e =>
    hne (by cases a; cases b; simp_all [UInt32.toNat_inj])
  have h' : ¬ a.packed.toNat < b.packed.toNat := h
  exact show b.packed.toNat < a.packed.toNat by omega

theorem lt_trans {a b c : Address} (h : a < b) (h' : b < c) : a < c :=
  UInt32.lt_trans (a := a.packed) h h'

theorem insertInto_ascending {a : Address} {l : List Address} (h : l.Pairwise (· < ·)) :
    (insertInto a l).Pairwise (· < ·) := by
  induction l with
  | nil => simp [insertInto]
  | cons b bs ih =>
    obtain ⟨hb, hbs⟩ := List.pairwise_cons.mp h
    unfold insertInto
    split
    · rename_i hab
      refine List.pairwise_cons.mpr ⟨fun x hx => ?_, h⟩
      rcases List.mem_cons.mp hx with rfl | hx
      · exact hab
      · exact lt_trans hab (hb x hx)
    · split
      · exact h
      · rename_i hab hne
        refine List.pairwise_cons.mpr ⟨fun x hx => ?_, ih hbs⟩
        rcases mem_insertInto.mp hx with rfl | hx
        · exact lt_of_not_lt hab hne
        · exact hb x hx

def insert (s : AddressSet) (a : Address) : AddressSet :=
  ⟨insertInto a s.elems, insertInto_ascending s.ascending⟩

def erase (s : AddressSet) (a : Address) : AddressSet :=
  ⟨s.elems.filter (· ≠ a), s.ascending.filter _⟩

/-- Order and repetitions of the list do not matter. -/
def ofList (as : List Address) : AddressSet := as.foldr (fun a s => s.insert a) empty

@[simp] theorem mem_insert {s : AddressSet} {a x : Address} :
    x ∈ s.insert a ↔ x = a ∨ x ∈ s := mem_insertInto

@[simp] theorem mem_erase {s : AddressSet} {a x : Address} :
    x ∈ s.erase a ↔ x ∈ s ∧ x ≠ a := by
  show x ∈ s.elems.filter (fun y => decide (y ≠ a)) ↔ x ∈ s.elems ∧ x ≠ a
  simp

@[simp] theorem mem_ofList {as : List Address} {x : Address} : x ∈ ofList as ↔ x ∈ as := by
  induction as with
  | nil => exact Iff.rfl
  | cons a as ih =>
    show x ∈ (ofList as).insert a ↔ _
    simp [ih]

/-- Ascending, separated by a comma and a space. -/
def text (s : AddressSet) : String := ", ".intercalate (s.elems.map Address.text)

end AddressSet
end DeviceConsole
