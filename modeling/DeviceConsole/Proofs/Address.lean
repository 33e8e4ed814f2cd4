import DeviceConsole.Address.Set
import DeviceConsole.Proofs.Decimal
import DeviceConsole.Proofs.Text.Blank

/-! The dotted form of an address reads back, also behind a trim; addresses are in linear order by
their packed form. -/
namespace DeviceConsole.Address

/-! ### Dotted text -/

theorem text_toList (a : Address) :
    a.text.toList = ['.'].intercalate (a.octets.map (Nat.toDigits 10)) := by
  simp [text, octets]

theorem point_not_mem_toDigits (n : Nat) : '.' ∉ Nat.toDigits 10 n := fun h =>
  absurd (Nat.isDigit_of_mem_toDigits (by decide) (by decide) h) (by decide)

theorem splitOn_text (a : Address) :
    a.text.toList.splitOn '.' = a.octets.map (Nat.toDigits 10) := by
  rw [text_toList]
  apply List.splitOn_intercalate
  · intro l hl
    obtain ⟨n, -, rfl⟩ := List.mem_map.mp hl
    exact point_not_mem_toDigits n
  · simp [octets]

theorem readOctet?_toDigits {n : Nat} (h : n ≤ 255) :
    readOctet? (Nat.toDigits 10 n) = some n := by
  simp [readOctet?, h]

theorem ofOctets_octets (a : Address) :
    ofOctets (a.toNat / 16777216) (a.toNat / 65536 % 256) (a.toNat / 256 % 256) (a.toNat % 256) =
      a := by
  have h : (((a.toNat / 16777216) * 256 + a.toNat / 65536 % 256) * 256 +
      a.toNat / 256 % 256) * 256 + a.toNat % 256 = a.toNat := by omega
  rw [ofOctets, h]
  cases a
  simp [ofNat, toNat]

/-- The dotted form of an address stands for that address. -/
theorem ofText?_text (a : Address) : ofText? a.text = some a := by
  have hlt : a.toNat < 4294967296 := a.packed.toNat_lt
  rw [ofText?, ofChars?, splitOn_text]
  simp only [octets, List.map_cons, List.map_nil]
  rw [readOctet?_toDigits (by omega), readOctet?_toDigits (by omega),
    readOctet?_toDigits (by omega), readOctet?_toDigits (by omega)]
  simp [ofOctets_octets]

theorem text_injective {a b : Address} (h : a.text = b.text) : a = b := by
  have := congrArg ofText? h
  simpa [ofText?_text] using this

/-- A dotted form is made of digits and points. -/
theorem mem_text {a : Address} {c : Char} (h : c ∈ a.text.toList) : c.isDigit = true ∨ c = '.' := by
  have hd (n : Nat) (hc : c ∈ Nat.toDigits 10 n) : c.isDigit = true :=
    Nat.isDigit_of_mem_toDigits (by decide) (by decide) hc
  by_cases hp : c = '.'
  · exact .inr hp
  · rw [text_toList] at h
    simp only [octets, List.map_cons, List.map_nil, List.intercalate_cons_cons,
      List.intercalate_singleton, List.mem_append, List.mem_singleton, hp, or_false] at h
    rcases h with h | h | h | h <;> exact .inl (hd _ h)

theorem isBlank_of_mem_text {a : Address} {c : Char} (h : c ∈ a.text.toList) :
    Text.isBlank c = false := by
  rcases mem_text h with hd | rfl
  · exact Text.isBlank_of_isDigit hd
  · decide

theorem trim_text (a : Address) : Text.trim a.text = a.text :=
  Text.trim_of_not_blank fun _ => isBlank_of_mem_text

@[simp] theorem parse_text (a : Address) : parse a.text = .ok a := by
  simp [parse, ofText?_text]

theorem ofNat_toNat (a : Address) : ofNat a.toNat = a := by
  rw [ofNat, toNat, UInt32.ofNat_toNat]

/-! ### Order -/

theorem lt_iff {a b : Address} : a < b ↔ a.toNat < b.toNat := Iff.rfl

theorem le_iff {a b : Address} : a ≤ b ↔ a.toNat ≤ b.toNat := Iff.rfl

theorem toNat_inj {a b : Address} : a.toNat = b.toNat ↔ a = b := by
  cases a
  cases b
  simp [toNat, UInt32.toNat_inj]

theorem lt_irrefl (a : Address) : ¬ a < a := by simp [lt_iff]

end DeviceConsole.Address

namespace DeviceConsole.AddressSet

theorem nodup (s : AddressSet) : s.elems.Nodup := by
  apply s.ascending.imp
  rintro a _ h rfl
  exact Address.lt_irrefl a h

/-- A set is known by its members. -/
theorem ext_mem {s u : AddressSet} (h : ∀ a, a ∈ s ↔ a ∈ u) : s = u := by
  have hperm : s.elems.Perm u.elems := (List.perm_ext_iff_of_nodup s.nodup u.nodup).mpr h
  have helems : s.elems = u.elems := by
    apply hperm.eq_of_pairwise _ s.ascending u.ascending
    intro a b _ _ hab hba
    exact absurd (lt_trans hab hba) (Address.lt_irrefl a)
  cases s
  cases u
  simpa using helems

/-- The packed form of a set has that of each of its members. -/
theorem mem_packed {s : AddressSet} {n : UInt32} : n ∈ s.elems.map (·.packed) ↔ ⟨n⟩ ∈ s := by
  constructor
  · intro hn
    obtain ⟨a, ha, rfl⟩ := List.mem_map.mp hn
    exact ha
  · exact fun hn => List.mem_map.mpr ⟨⟨n⟩, hn, rfl⟩

end DeviceConsole.AddressSet
