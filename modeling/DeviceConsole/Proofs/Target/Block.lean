import DeviceConsole.Proofs.Target.Text
import Mathlib.Data.Nat.Bitwise

/-! Address blocks. The first and the last address, membership, size and expansion are computed each
in its own way, and all of them speak of one set: the addresses that share the top bits of the
entered one. -/
namespace DeviceConsole

/-! ### Ranges -/

/-- The addresses still to come of a range, from `next` to `last`. -/
structure AddressRange where
  next : Address
  last : Address
deriving DecidableEq, Repr

namespace AddressRange

/-- Gives the next address. Behind the last one, where the successor could wrap around, the range
becomes an empty one. -/
def step? (r : AddressRange) : Option (Address × AddressRange) :=
  if r.next < r.last then some (r.next, { r with next := ⟨r.next.packed + 1⟩ })
  else if r.next = r.last then some (r.next, ⟨⟨1⟩, ⟨0⟩⟩)
  else none

/-- The range ends after it has given these addresses, one a step. -/
inductive Yields : AddressRange → List Address → Prop
  | done {r : AddressRange} (h : r.step? = none) : Yields r []
  | step {r rest : AddressRange} {a : Address} {l : List Address} (h : r.step? = some (a, rest))
      (hrest : Yields rest l) : Yields r (a :: l)

theorem Yields.unique {r : AddressRange} {l l' : List Address} (h : Yields r l)
    (h' : Yields r l') : l = l' := by
  induction h generalizing l' with
  | done h =>
    cases h' with
    | done => rfl
    | step h' => cases h.symm.trans h'
  | step h hrest ih =>
    cases h' with
    | done h' => cases h'.symm.trans h
    | step h' hrest' =>
      cases h.symm.trans h'
      rw [ih hrest']

theorem toNat_succ {a b : Address} (h : a < b) :
    (⟨a.packed + 1⟩ : Address).toNat = a.toNat + 1 := by
  have hlt : a.toNat < b.toNat := Address.lt_iff.mp h
  have hb : b.toNat < 4294967296 := b.packed.toNat_lt
  have hadd : (a.packed + 1).toNat = (a.toNat + 1) % 4294967296 := UInt32.toNat_add _ _
  rw [Nat.mod_eq_of_lt (by omega)] at hadd
  exact hadd

/-- A range whose last address is `n` ahead ends after `n + 1` steps. -/
theorem yields_of_ahead {r : AddressRange} {n : Nat} (h : r.last.toNat = r.next.toNat + n) :
    r.Yields ((List.range' r.next.toNat (n + 1)).map Address.ofNat) := by
  induction n generalizing r with
  | zero =>
    have hlast : r.next = r.last := Address.toNat_inj.mp h.symm
    have hstep : r.step? = some (r.next, ⟨⟨1⟩, ⟨0⟩⟩) := by
      rw [step?, if_neg (by rw [hlast]; exact Address.lt_irrefl _), if_pos hlast]
    have hempty : (⟨⟨1⟩, ⟨0⟩⟩ : AddressRange).step? = none := by decide
    rw [List.range'_succ, List.range'_zero, List.map_cons, List.map_nil, Address.ofNat_toNat]
    exact .step hstep (.done hempty)
  | succ n ih =>
    have hlt : r.next < r.last := Address.lt_iff.mpr (by omega)
    have hsucc := toNat_succ hlt
    have hstep : r.step? = some (r.next, { r with next := ⟨r.next.packed + 1⟩ }) := by
      rw [step?, if_pos hlt]
    have hahead : r.last.toNat = (⟨r.next.packed + 1⟩ : Address).toNat + n := by
      rw [hsucc]
      omega
    have hrest := ih (r := { r with next := ⟨r.next.packed + 1⟩ }) hahead
    rw [hsucc] at hrest
    rw [List.range'_succ, List.map_cons, Address.ofNat_toNat]
    exact .step hstep hrest

end AddressRange

namespace Cidr

variable {b : Cidr} {a : Address}

/-! ### Bounds -/

/-- The address has the top bits of the entered one. -/
def SharesTop (b : Cidr) (a : Address) : Prop :=
  ∀ i, 32 - b.bits ≤ i → i < 32 → a.toNat.testBit i = b.address.toNat.testBit i

theorem size_eq (b : Cidr) : b.size = 2 ^ (32 - b.bits) := rfl

theorem size_mul (b : Cidr) : 2 ^ b.bits * b.size = 4294967296 := by
  have hbits := b.bits_le
  rw [size_eq, ← Nat.pow_add, Nat.add_sub_cancel' hbits]

/-- Every address of the block is one. -/
theorem base_add_lt {i : Nat} (h : i < b.size) :
    b.address.toNat / b.size * b.size + i < 4294967296 := by
  have haddress : b.address.toNat < 2 ^ b.bits * b.size := by
    rw [b.size_mul]
    exact b.address.packed.toNat_lt
  have hquotient : b.address.toNat / b.size < 2 ^ b.bits :=
    (Nat.div_lt_iff_lt_mul b.size_pos).mpr haddress
  calc b.address.toNat / b.size * b.size + i
      < b.address.toNat / b.size * b.size + b.size := Nat.add_lt_add_left h _
    _ = (b.address.toNat / b.size + 1) * b.size := (Nat.succ_mul _ _).symm
    _ ≤ 2 ^ b.bits * b.size := Nat.mul_le_mul_right _ hquotient
    _ = 4294967296 := b.size_mul

theorem toNat_base_add {i : Nat} (h : i < b.size) :
    (Address.ofNat (b.address.toNat / b.size * b.size + i)).toNat =
      b.address.toNat / b.size * b.size + i :=
  UInt32.toNat_ofNat_of_lt' (base_add_lt h)

theorem network_toNat (b : Cidr) : b.network.toNat = b.address.toNat / b.size * b.size :=
  toNat_base_add (i := 0) b.size_pos

theorem broadcast_toNat (b : Cidr) : b.broadcast.toNat = b.network.toNat + (b.size - 1) := by
  rw [network_toNat]
  exact toNat_base_add (Nat.sub_lt b.size_pos Nat.one_pos)

theorem div_two_pow_eq_iff {m n k : Nat} :
    m / 2 ^ k = n / 2 ^ k ↔ ∀ i, k ≤ i → m.testBit i = n.testBit i := by
  constructor
  · intro h i hi
    obtain ⟨j, rfl⟩ := Nat.exists_eq_add_of_le' hi
    rw [← Nat.testBit_div_two_pow, h, Nat.testBit_div_two_pow]
  · intro h
    refine Nat.eq_of_testBit_eq fun j => ?_
    rw [Nat.testBit_div_two_pow, Nat.testBit_div_two_pow, h _ (Nat.le_add_left k j)]

theorem sharesTop_iff : b.SharesTop a ↔ a.toNat / b.size = b.address.toNat / b.size := by
  rw [size_eq, div_two_pow_eq_iff]
  refine forall₂_congr fun i _ => ⟨fun h => ?_, fun h _ => h⟩
  by_cases hi : i < 32
  · exact h hi
  · -- no address has a bit this high
    have hhigh (x : Address) : x.toNat.testBit i = false :=
      Nat.testBit_lt_two_pow (x.packed.toNat_lt.trans_le
        (Nat.pow_le_pow_right Nat.two_pos (Nat.le_of_not_lt hi)))
    rw [hhigh, hhigh]

theorem contains_iff_sharesTop : b.contains a = true ↔ b.SharesTop a := by
  rw [contains, decide_eq_true_iff, sharesTop_iff]

theorem contains_iff_between : b.contains a = true ↔ b.network ≤ a ∧ a ≤ b.broadcast := by
  rw [contains, decide_eq_true_iff, Nat.div_eq_iff b.size_pos, Address.le_iff, Address.le_iff,
    broadcast_toNat,
    network_toNat, Nat.add_sub_assoc b.size_pos]

/-! ### Addresses -/

theorem addresses_eq (b : Cidr) :
    b.addresses = (List.range' b.network.toNat b.size).map Address.ofNat := by
  rw [addresses, List.range'_eq_map_range, List.map_map, network_toNat]
  rfl

theorem addresses_toNat (b : Cidr) :
    b.addresses.map Address.toNat = List.range' b.network.toNat b.size := by
  rw [addresses, List.range'_eq_map_range, List.map_map, network_toNat]
  refine List.map_congr_left fun i hi => ?_
  exact toNat_base_add (List.mem_range.mp hi)

/-- Stepping from the first address to the last gives every address, and ends. -/
theorem addresses_yields (b : Cidr) :
    (AddressRange.mk b.network b.broadcast).Yields b.addresses := by
  have hsize : b.size - 1 + 1 = b.size := Nat.sub_add_cancel b.size_pos
  rw [addresses_eq, ← hsize]
  exact AddressRange.yields_of_ahead b.broadcast_toNat

theorem mem_addresses : a ∈ b.addresses ↔ b.contains a = true := by
  have hmem : a ∈ b.addresses ↔ a.toNat ∈ b.addresses.map Address.toNat := by
    rw [List.mem_map]
    refine ⟨fun h => ⟨a, h, rfl⟩, ?_⟩
    rintro ⟨x, hx, heq⟩
    rwa [← Address.toNat_inj.mp heq]
  have hpos := b.size_pos
  rw [hmem, addresses_toNat, List.mem_range'_1, contains_iff_between, Address.le_iff,
    Address.le_iff, broadcast_toNat]
  omega

theorem addresses_ascending (b : Cidr) : b.addresses.Pairwise (· < ·) := by
  have h : (b.addresses.map Address.toNat).Pairwise (· < ·) := by
    rw [addresses_toNat]
    exact List.pairwise_lt_range'
  exact (List.pairwise_map.mp h).imp Address.lt_iff.mpr

theorem length_addresses (b : Cidr) : b.addresses.length = b.size := by
  rw [addresses, List.length_map, List.length_range]

/-- Collected into a set, the addresses stay as they are. -/
theorem elems_addresses (b : Cidr) : (AddressSet.ofList b.addresses).elems = b.addresses := by
  have hset : AddressSet.ofList b.addresses = ⟨b.addresses, b.addresses_ascending⟩ :=
    AddressSet.ext_mem fun _ => AddressSet.mem_ofList
  rw [hset]

theorem expand_eq_ok_iff {ceiling : Nat} {l : List Address} :
    b.expand ceiling = .ok l ↔ b.size ≤ ceiling ∧ l = b.addresses := by
  rw [expand]
  split
  · rename_i h
    exact iff_of_false (by rintro ⟨⟩) fun hle => absurd hle.1 (Nat.not_le_of_lt h)
  · rename_i h
    rw [Except.ok.injEq, eq_comm, iff_and_self]
    exact fun _ => Nat.le_of_not_lt h

theorem expand_eq_error_iff {ceiling : Nat} {e : ConsoleError} :
    b.expand ceiling = .error e ↔ ceiling < b.size ∧ e = .tooManyTargets b.size ceiling := by
  rw [expand]
  split
  · rename_i h
    rw [Except.error.injEq, eq_comm, iff_and_self]
    exact fun _ => h
  · rename_i h
    exact iff_of_false (by rintro ⟨⟩) fun hlt => h hlt.1

end Cidr

namespace Targets

theorem expand_block (b : Cidr) (ceiling : Nat) :
    (block b).expand ceiling = (b.expand ceiling).map AddressSet.ofList := rfl

theorem expand_block_eq_ok_iff {b : Cidr} {ceiling : Nat} {set : AddressSet} :
    (block b).expand ceiling = .ok set ↔ b.expand ceiling = .ok set.elems := by
  rw [expand_block, Cidr.expand_eq_ok_iff]
  constructor
  · intro h
    cases hexpand : b.expand ceiling with
    | error e =>
      rw [hexpand] at h
      cases h
    | ok l =>
      rw [hexpand] at h
      cases h
      obtain ⟨hle, rfl⟩ := Cidr.expand_eq_ok_iff.mp hexpand
      exact ⟨hle, b.elems_addresses⟩
  · rintro ⟨hle, helems⟩
    rw [Cidr.expand_eq_ok_iff.mpr ⟨hle, rfl⟩, ← helems]
    exact congrArg Except.ok set.ofList_elems

theorem expand_block_eq_error_iff {b : Cidr} {ceiling : Nat} {e : ConsoleError} :
    (block b).expand ceiling = .error e ↔ b.expand ceiling = .error e := by
  rw [expand_block]
  cases b.expand ceiling <;> simp [Except.map]

end Targets

/-- The bounds of a block are the least and the greatest address with its top bits, a member is what
lies between them, and the size is their distance in two ways, one of them a shift of 64 bits. A
block above the ceiling is refused with its size; any other is listed from the first address to the
last, each once, and collecting the list into a set changes nothing. -/
theorem Cidr.expand_sharesTop (b : Cidr) :
    (b.SharesTop b.network ∧ b.SharesTop b.broadcast ∧
      ∀ a, b.SharesTop a → b.network ≤ a ∧ a ≤ b.broadcast) ∧
    (∀ a, (b.contains a = true ↔ b.network ≤ a ∧ a ≤ b.broadcast) ∧
      (b.contains a = true ↔ b.SharesTop a) ∧ (Targets.block b).contains a = b.contains a) ∧
    (b.size = 2 ^ (32 - b.bits) ∧ b.size = b.broadcast.toNat - b.network.toNat + 1 ∧
      ((1 : UInt64) <<< UInt64.ofNat (32 - b.bits)).toNat = b.size ∧
      (Targets.block b).size = b.size) ∧
    ∀ ceiling,
      (∀ e, b.expand ceiling = .error e ↔ ceiling < b.size ∧ e = .tooManyTargets b.size ceiling) ∧
      (∀ l, b.expand ceiling = .ok l ↔
        b.size ≤ ceiling ∧ (AddressRange.mk b.network b.broadcast).Yields l) ∧
      (∀ l, b.expand ceiling = .ok l → l.map Address.toNat = List.range' b.network.toNat b.size ∧
        l.Pairwise (· < ·) ∧ l.length = b.size ∧ ∀ a, a ∈ l ↔ b.contains a = true) ∧
      (∀ e, (Targets.block b).expand ceiling = .error e ↔ b.expand ceiling = .error e) ∧
      ∀ set, (Targets.block b).expand ceiling = .ok set ↔ b.expand ceiling = .ok set.elems := by
  have hbounds (a : Address) (h : b.SharesTop a) : b.network ≤ a ∧ a ≤ b.broadcast :=
    contains_iff_between.mp (contains_iff_sharesTop.mpr h)
  have hbetween (a : Address) (h : b.network ≤ a ∧ a ≤ b.broadcast) : b.SharesTop a :=
    contains_iff_sharesTop.mp (contains_iff_between.mpr h)
  have hspan : b.broadcast.toNat = b.network.toNat + (b.size - 1) := b.broadcast_toNat
  have hle : b.network ≤ b.broadcast := Address.le_iff.mpr (by omega)
  have hshift : ((1 : UInt64) <<< UInt64.ofNat (32 - b.bits)).toNat = b.size := by
    have hsize : b.size < 2 ^ 64 := Nat.pow_lt_pow_right Nat.one_lt_two (by omega)
    have hone : (1 : UInt64).toNat = 1 := rfl
    have hbits : (UInt64.ofNat (32 - b.bits)).toNat = 32 - b.bits :=
      UInt64.toNat_ofNat_of_lt' (show _ < 18446744073709551616 by omega)
    rw [UInt64.toNat_shiftLeft, hbits, hone, Nat.mod_eq_of_lt (by omega : 32 - b.bits < 64),
      Nat.one_shiftLeft, ← size_eq, Nat.mod_eq_of_lt hsize]
  refine ⟨⟨hbetween _ ⟨UInt32.le_refl _, hle⟩, hbetween _ ⟨hle, UInt32.le_refl _⟩, hbounds⟩,
    fun a => ⟨contains_iff_between, contains_iff_sharesTop, rfl⟩,
    ⟨b.size_eq, ?_, hshift, rfl⟩, fun ceiling => ⟨fun e => expand_eq_error_iff, fun l => ?_,
    fun l hl => ?_, fun e => Targets.expand_block_eq_error_iff,
    fun set => Targets.expand_block_eq_ok_iff⟩⟩
  · have hpos := b.size_pos
    omega
  · rw [expand_eq_ok_iff]
    refine and_congr_right fun _ => ⟨?_, fun h => h.unique b.addresses_yields⟩
    rintro rfl
    exact b.addresses_yields
  · obtain ⟨-, rfl⟩ := expand_eq_ok_iff.mp hl
    exact ⟨b.addresses_toNat, b.addresses_ascending, b.length_addresses, fun a => mem_addresses⟩

/-- The last block of all, entered with a host bit. -/
theorem Cidr.expand_sharesTop_last :
    ∃ b l, Cidr.parse "255.255.255.255/31" = .ok b ∧ b.expand 2 = .ok l ∧
      (AddressRange.mk b.network b.broadcast).Yields l ∧
      l.map Address.toNat = [4294967294, 4294967295] ∧
      b.expand 1 = .error (.tooManyTargets 2 1) := by
  let b : Cidr := ⟨⟨4294967295⟩, 31, by decide⟩
  obtain ⟨-, -, -, hexpand⟩ := b.expand_sharesTop
  obtain ⟨-, hok, hlisted, -, -⟩ := hexpand 2
  obtain ⟨herror, -, -, -, -⟩ := hexpand 1
  have hread : b.expand 2 = .ok [⟨4294967294⟩, ⟨4294967295⟩] := by decide +kernel
  have hrange : List.range' b.network.toNat b.size = [4294967294, 4294967295] := by
    decide +kernel
  exact ⟨b, _, by decide +kernel, hread, ((hok _).mp hread).2, (hlisted _ hread).1.trans hrange,
    (herror _).mpr ⟨by decide, rfl⟩⟩

end DeviceConsole
