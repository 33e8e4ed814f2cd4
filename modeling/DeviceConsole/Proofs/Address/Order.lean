import DeviceConsole.Proofs.Address.Quad
import DeviceConsole.Proofs.Sorting
import DeviceConsole.Wire.Device
import Mathlib.Data.List.Lex

/-! The order of addresses. Packed with the first octet on top, addresses compare as their octets
do from left to right, so that sorting by the packed form sorts by the dotted one. -/
namespace DeviceConsole

namespace Address

/-- The numbers between the points of the dotted form, from left to right. -/
def dottedOctets (a : Address) : List Nat := (a.text.toList.splitOn '.').map groupValue

variable {a b : Address}

theorem dottedOctets_eq (a : Address) : a.dottedOctets = a.octets := by
  have hvalue : groupValue ∘ Nat.toDigits 10 = id := by
    funext n
    rw [Function.comp_apply, groupValue, Nat.ofDigitChars_ten_toDigits, id]
  rw [dottedOctets, splitOn_text, List.map_map, hvalue, List.map_id]

theorem lt_of_mem_dottedOctets {n : Nat} (h : n ∈ a.dottedOctets) : n < 256 := by
  have hlt : a.toNat < 4294967296 := a.packed.toNat_lt
  rw [dottedOctets_eq] at h
  simp only [octets, List.mem_cons, List.not_mem_nil, or_false] at h
  omega

theorem lt_iff_dottedOctets : a < b ↔ a.dottedOctets < b.dottedOctets := by
  have ha : a.toNat < 4294967296 := a.packed.toNat_lt
  have hb : b.toNat < 4294967296 := b.packed.toNat_lt
  simp only [dottedOctets_eq, octets, List.cons_lt_cons_iff, List.not_lt_nil, and_false, or_false,
    lt_iff]
  omega

theorem le_iff_dottedOctets : a ≤ b ↔ a.dottedOctets ≤ b.dottedOctets := by
  rw [← not_lt, ← lt_iff_dottedOctets, lt_iff, le_iff, Nat.not_lt]

theorem dottedOctets_inj : a.dottedOctets = b.dottedOctets ↔ a = b := by
  refine ⟨fun h => ?_, congrArg _⟩
  simp only [dottedOctets_eq, octets, List.cons.injEq, and_true] at h
  apply toNat_inj.mp
  omega

theorem le_antisymm (h : a ≤ b) (h' : b ≤ a) : a = b :=
  toNat_inj.mp (Nat.le_antisymm h h')

end Address

theorem Device.stablySorted_sort (devices : List Device) :
    StablySorted Device.address devices (sort devices) :=
  StablySorted.mergeSort Device.address (fun _ _ => decide_eq_true_iff)
    (fun a b c => UInt32.le_trans (a := a.packed) (b := b.packed) (c := c.packed))
    (fun a b => UInt32.le_total a.packed b.packed) devices

/-- The dotted form of an address reads back, so different addresses have different ones. Packed
addresses compare as their four octets do from left to right, and sorted devices are in the order of
their octets; devices of one address keep their order. -/
theorem Device.sort_octetwise :
    (∀ x : UInt32, Address.parse (Address.text ⟨x⟩) = .ok ⟨x⟩) ∧
    Function.Injective Address.text ∧
    (∀ a : Address, a.dottedOctets.length = 4 ∧ ∀ n ∈ a.dottedOctets, n < 256) ∧
    (∀ a b : Address, (a.packed < b.packed ↔ a.dottedOctets < b.dottedOctets) ∧
      (a.packed = b.packed ↔ a.dottedOctets = b.dottedOctets)) ∧
    ∀ devices, StablySorted (fun d => d.address.dottedOctets) devices (sort devices) := by
  refine ⟨fun x => Address.parse_text _, fun _ _ => Address.text_injective, fun a => ⟨?_, fun n =>
    Address.lt_of_mem_dottedOctets⟩, fun a b => ⟨Address.lt_iff_dottedOctets, ?_⟩, ?_⟩
  · rw [Address.dottedOctets_eq]
    rfl
  · rw [Address.dottedOctets_inj, ← Address.toNat_inj, Address.toNat, Address.toNat,
      UInt32.toNat_inj]
  · refine StablySorted.mergeSort _ (fun d e => ?_) (fun _ _ _ => le_trans) le_total
    rw [decide_eq_true_iff, Address.le_iff_dottedOctets]

/-- As texts, ten would stand before nine. The two rows of ten keep their order. -/
theorem Device.sort_octetwise_tens :
    let ten : Address := .ofOctets 10 0 0 10
    let nine : Address := .ofOctets 10 0 0 9
    let devices : List Device := [⟨ten, some 2, true⟩, ⟨nine, none, false⟩, ⟨ten, some 1, false⟩]
    ten.text < nine.text ∧ nine.packed < ten.packed ∧ nine.dottedOctets < ten.dottedOctets ∧
      sort devices = [⟨nine, none, false⟩, ⟨ten, some 2, true⟩, ⟨ten, some 1, false⟩] ∧
      StablySorted (fun d => d.address.dottedOctets) devices (sort devices) := by
  intro ten nine devices
  obtain ⟨-, -, -, horder, hsort⟩ := Device.sort_octetwise
  have hlt : nine.packed < ten.packed := by decide
  have hsorted : sort devices =
      [⟨nine, none, false⟩, ⟨ten, some 2, true⟩, ⟨ten, some 1, false⟩] := by
    simp +decide [devices, ten, nine, sort, List.mergeSort]
  exact ⟨by decide +kernel, hlt, (horder nine ten).1.mp hlt, hsorted, hsort devices⟩

end DeviceConsole
