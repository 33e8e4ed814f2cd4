import DeviceConsole.Proofs.Address
import DeviceConsole.Wire.Discovery

/-! How a backend may write an address: packed, or as dotted text with leading zeros in front of the
octets and white space around. However it is written, it is read as that address, and a row that
names the addresses of a set in any order and with any repetitions is read as that set. -/
namespace DeviceConsole

/-! ### Dotted text -/

/-- A number in decimal digits, with any number of leading zeros. -/
def Padded (n : Nat) (cs : List Char) : Prop :=
  ∃ zeros, cs = List.replicate zeros '0' ++ Nat.toDigits 10 n

namespace Padded

variable {n : Nat} {cs : List Char}

theorem isDigit (h : Padded n cs) : ∀ c ∈ cs, c.isDigit = true := by
  obtain ⟨zeros, rfl⟩ := h
  intro c hc
  rcases List.mem_append.mp hc with hc | hc
  · rw [List.eq_of_mem_replicate hc]
    decide
  · exact Nat.isDigit_of_mem_toDigits (by decide) (by decide) hc

theorem point_not_mem (h : Padded n cs) : '.' ∉ cs := fun hc =>
  absurd (h.isDigit _ hc) (by decide)

theorem not_blank (h : Padded n cs) : ∀ c ∈ cs, Text.isBlank c = false := fun c hc =>
  Text.isBlank_of_isDigit (h.isDigit c hc)

theorem ofDigitChars_replicate_zero (zeros : Nat) (cs : List Char) :
    Nat.ofDigitChars 10 (List.replicate zeros '0' ++ cs) 0 = Nat.ofDigitChars 10 cs 0 := by
  induction zeros with
  | zero => rfl
  | succ zeros ih =>
    rw [List.replicate_succ, List.cons_append, Nat.ofDigitChars_cons]
    exact ih

/-- Leading zeros do not change what is read. -/
theorem readDigits? (h : Padded n cs) : Decimal.readDigits? cs = some n := by
  have hall := h.isDigit
  obtain ⟨zeros, rfl⟩ := h
  have hne : List.replicate zeros '0' ++ Nat.toDigits 10 n ≠ [] :=
    List.append_ne_nil_of_right_ne_nil _ Nat.toDigits_ne_nil
  rw [Decimal.readDigits?_eq_some_iff, Decimal.isDigits_iff, ofDigitChars_replicate_zero,
    Nat.ofDigitChars_ten_toDigits]
  exact ⟨⟨hne, hall⟩, rfl⟩

theorem readOctet? (h : Padded n cs) (hn : n ≤ 255) : Address.readOctet? cs = some n := by
  simp [Address.readOctet?, h.readDigits?, hn]

end Padded

namespace Address

/-- The octets of the address with points between them, each with any number of leading zeros. -/
inductive Dotted (a : Address) : List Char → Prop
  | quad {w x y z : List Char} (first : Padded (a.toNat / 16777216) w)
      (second : Padded (a.toNat / 65536 % 256) x) (third : Padded (a.toNat / 256 % 256) y)
      (fourth : Padded (a.toNat % 256) z) : Dotted a (['.'].intercalate [w, x, y, z])

variable {a : Address} {cs : List Char}

theorem Dotted.ofChars? (h : Dotted a cs) : Address.ofChars? cs = some a := by
  obtain @⟨w, x, y, z, hw, hx, hy, hz⟩ := h
  have hlt : a.toNat < 4294967296 := a.packed.toNat_lt
  have hsplit : (['.'].intercalate [w, x, y, z]).splitOn '.' = [w, x, y, z] := by
    refine List.splitOn_intercalate '.' (fun l hl => ?_) (by simp)
    simp only [List.mem_cons, List.not_mem_nil, or_false] at hl
    rcases hl with rfl | rfl | rfl | rfl
    · exact hw.point_not_mem
    · exact hx.point_not_mem
    · exact hy.point_not_mem
    · exact hz.point_not_mem
  rw [Address.ofChars?, hsplit]
  dsimp only
  rw [hw.readOctet? (by omega), hx.readOctet? (by omega), hy.readOctet? (by omega),
    hz.readOctet? (by omega)]
  exact congrArg some a.ofOctets_octets

theorem Dotted.not_blank (h : Dotted a cs) : ∀ c ∈ cs, Text.isBlank c = false := by
  obtain ⟨hw, hx, hy, hz⟩ := h
  intro c hc
  by_cases hp : c = '.'
  · rw [hp]
    decide
  · simp only [List.intercalate_cons_cons, List.intercalate_singleton, List.mem_append,
      List.mem_singleton, hp, or_false] at hc
    rcases hc with hc | hc | hc | hc
    · exact hw.not_blank c hc
    · exact hx.not_blank c hc
    · exact hy.not_blank c hc
    · exact hz.not_blank c hc

end Address

/-! ### Entries -/

/-- An entry that stands for the address: packed, or dotted with white space around. -/
inductive WireAddress.Spells (a : Address) : WireAddress → Prop
  | packed : Spells a (.packed a.packed)
  | text {before dotted after : List Char} (hbefore : ∀ c ∈ before, Text.isBlank c = true)
      (hdotted : a.Dotted dotted) (hafter : ∀ c ∈ after, Text.isBlank c = true) :
      Spells a (.text (String.ofList (before ++ dotted ++ after)))

theorem WireAddress.Spells.resolve {a : Address} {w : WireAddress} (h : w.Spells a) :
    w.resolve = .ok a := by
  cases h with
  | packed => rfl
  | text hbefore hdotted hafter =>
    rw [WireAddress.resolve, Text.trim, String.toList_ofList,
      Text.trimChars_padded hbefore hdotted.not_blank hafter, Address.parse, Address.ofText?,
      String.toList_ofList, hdotted.ofChars?]

/-- The entries name exactly the addresses of the list: each stands for one of them, and each of
them is named. -/
structure Lists (ips : List WireAddress) (ns : List UInt32) : Prop where
  only : ∀ w ∈ ips, ∃ n ∈ ns, w.Spells ⟨n⟩
  all : ∀ n ∈ ns, ∃ w ∈ ips, w.Spells ⟨n⟩

namespace DiscoveryRow

theorem invalidToken?_eq_none_iff {w : WireAddress} :
    invalidToken? w = none ↔ ∃ a, w.resolve = .ok a := by
  cases w with
  | packed n => exact iff_of_true rfl ⟨_, rfl⟩
  | text s => cases h : (WireAddress.text s).resolve <;> simp [invalidToken?, h]

/-- A row is read where each of its entries is, as the set of what they stand for. -/
theorem toProfile_eq_ok_iff {r : DiscoveryRow} {p : DiscoveryProfile} :
    r.toProfile = .ok p ↔ (∀ w ∈ r.ips, ∃ a, w.resolve = .ok a) ∧
      p = { id := r.id
            targets := .addresses (.ofList (r.ips.filterMap fun w => w.resolve.toOption))
            credentialIds := r.credentialIds
            isCidr := r.isCidr } := by
  have hvalid : r.ips.filterMap invalidToken? = [] ↔ ∀ w ∈ r.ips, ∃ a, w.resolve = .ok a := by
    simp only [List.filterMap_eq_nil_iff, invalidToken?_eq_none_iff]
  by_cases h : ∀ w ∈ r.ips, ∃ a, w.resolve = .ok a
  · simp only [toProfile, hvalid.mpr h, List.isEmpty_nil, if_true, Except.ok.injEq]
    exact ⟨fun hp => ⟨h, hp.symm⟩, fun hp => hp.2.symm⟩
  · have hne : (r.ips.filterMap invalidToken?).isEmpty = false :=
      List.isEmpty_eq_false_iff.mpr fun he => h (hvalid.mp he)
    simp [toProfile, hne, h]

/-- However the addresses of a set are listed, the row is read as the set. -/
theorem toProfile_of_lists {r : DiscoveryRow} {set : AddressSet}
    (h : Lists r.ips (set.elems.map (·.packed))) :
    r.toProfile = .ok
      { id := r.id, targets := .addresses set, credentialIds := r.credentialIds
        isCidr := r.isCidr } := by
  have hresolve : ∀ w ∈ r.ips, ∃ a ∈ set, w.resolve = .ok a := by
    intro w hw
    obtain ⟨n, hn, hspells⟩ := h.only w hw
    obtain ⟨a, ha, rfl⟩ := List.mem_map.mp hn
    exact ⟨a, ha, hspells.resolve⟩
  have hset : .ofList (r.ips.filterMap fun w => w.resolve.toOption) = set := by
    refine AddressSet.ext_mem fun a => ?_
    rw [AddressSet.mem_ofList, List.mem_filterMap]
    constructor
    · rintro ⟨w, hw, ha⟩
      obtain ⟨b, hb, hok⟩ := hresolve w hw
      rw [hok] at ha
      cases ha
      exact hb
    · intro ha
      obtain ⟨w, hw, hspells⟩ := h.all _ (List.mem_map.mpr ⟨a, ha, rfl⟩)
      exact ⟨w, hw, by rw [hspells.resolve]; rfl⟩
  rw [toProfile_eq_ok_iff, hset]
  exact ⟨fun w hw => (hresolve w hw).imp fun _ h => h.2, rfl⟩

end DiscoveryRow
end DeviceConsole
