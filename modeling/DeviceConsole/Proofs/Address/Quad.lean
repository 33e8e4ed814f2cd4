import DeviceConsole.Proofs.Wire.Spelling
import Mathlib.Algebra.Group.Nat.Defs
import Mathlib.Data.List.Induction

/-! The grammar of an address: four groups of digits with points between them, each of value at most
255. A text of this form is read as its groups in positional notation, any other text is refused as
it stands, and the address is written as its text without superfluous zeros. -/
namespace DeviceConsole

/-! ### Texts of an address -/

theorem Decimal.digitChar_sub {c : Char} (h : c.isDigit = true) :
    (c.toNat - '0'.toNat).digitChar = c := by
  obtain ⟨hlo, hhi⟩ := digit_toNat h
  have hzero : '0'.toNat = 48 := rfl
  apply Char.toNat_inj.mp
  rw [hzero, Nat.toNat_digitChar_of_lt_ten (by omega)]
  omega

/-- Any digits are those of the number they make, with zeros in front. -/
theorem Padded.of_isDigit {cs : List Char} (hne : cs ≠ []) (h : ∀ c ∈ cs, c.isDigit = true) :
    Padded (Nat.ofDigitChars 10 cs 0) cs := by
  induction cs using List.reverseRecOn with
  | nil => exact absurd rfl hne
  | append_singleton cs c ih =>
    obtain ⟨hlo, hhi⟩ := Decimal.digit_toNat (h c (by simp))
    have hd : c.toNat - '0'.toNat < 10 := by
      change c.toNat - 48 < 10
      omega
    have hc : Nat.toDigits 10 (c.toNat - '0'.toNat) = [c] := by
      rw [Nat.toDigits_of_lt_base hd, Decimal.digitChar_sub (h c (by simp))]
    rw [Nat.ofDigitChars_append, Nat.ofDigitChars_cons, Nat.ofDigitChars_nil]
    cases cs with
    | nil =>
      rw [Nat.ofDigitChars_nil, Nat.mul_zero, Nat.zero_add]
      exact ⟨0, hc.symm⟩
    | cons x xs =>
      obtain ⟨zeros, hzeros⟩ := ih (by simp) fun y hy => h y (List.mem_append_left _ hy)
      generalize Nat.ofDigitChars 10 (x :: xs) 0 = n at hzeros
      rcases Nat.eq_zero_or_pos n with rfl | hpos
      · refine ⟨zeros + 1, ?_⟩
        rw [hzeros, Nat.mul_zero, Nat.zero_add, hc, List.replicate_succ']
        rfl
      · refine ⟨zeros, ?_⟩
        rw [hzeros, List.append_assoc, ← Nat.toDigits_append_toDigits (by decide) hpos hd, hc]

theorem Padded.readOctet?_iff {n : Nat} {cs : List Char} :
    Address.readOctet? cs = some n ↔ Padded n cs ∧ n ≤ 255 := by
  refine ⟨fun h => ?_, fun h => h.1.readOctet? h.2⟩
  obtain ⟨m, hm, h⟩ := Option.bind_eq_some_iff.mp h
  obtain ⟨hdigits, rfl⟩ := Decimal.readDigits?_eq_some_iff.mp hm
  obtain ⟨hne, hall⟩ := Decimal.isDigits_iff.mp hdigits
  split at h
  · rename_i hle
    cases h
    exact ⟨.of_isDigit hne hall, hle⟩
  · cases h

namespace Address

theorem ofChars?_eq_some_iff {a : Address} {cs : List Char} :
    ofChars? cs = some a ↔ a.Dotted cs := by
  refine ⟨fun h => ?_, Dotted.ofChars?⟩
  unfold ofChars? at h
  split at h
  · rename_i w x y z hsplit
    simp only [Option.bind_eq_bind, Option.bind_eq_some_iff, Option.some.injEq] at h
    obtain ⟨i, hi, j, hj, k, hk, l, hl, rfl⟩ := h
    obtain ⟨hw, hi⟩ := Padded.readOctet?_iff.mp hi
    obtain ⟨hx, hj⟩ := Padded.readOctet?_iff.mp hj
    obtain ⟨hy, hk⟩ := Padded.readOctet?_iff.mp hk
    obtain ⟨hz, hl⟩ := Padded.readOctet?_iff.mp hl
    have htoNat : (ofOctets i j k l).toNat = ((i * 256 + j) * 256 + k) * 256 + l :=
      UInt32.toNat_ofNat_of_lt' (show _ < 4294967296 by omega)
    have hcs : cs = ['.'].intercalate [w, x, y, z] := by
      rw [← hsplit, List.intercalate_splitOn]
    generalize ofOctets i j k l = a at htoNat
    obtain rfl : a.toNat / 16777216 = i := by omega
    obtain rfl : a.toNat / 65536 % 256 = j := by omega
    obtain rfl : a.toNat / 256 % 256 = k := by omega
    obtain rfl : a.toNat % 256 = l := by omega
    rw [hcs]
    exact .quad hw hx hy hz
  · cases h

/-- A text of the address, with any number of zeros in front of the octets and white space around
it. -/
inductive SpelledBy (a : Address) : List Char → Prop
  | spaced {before dotted after : List Char} (hbefore : ∀ c ∈ before, Text.isBlank c = true)
      (hdotted : a.Dotted dotted) (hafter : ∀ c ∈ after, Text.isBlank c = true) :
      SpelledBy a (before ++ dotted ++ after)

theorem spelledBy_iff {a : Address} {part : List Char} :
    a.SpelledBy part ↔ ofChars? (Text.trimChars part) = some a := by
  constructor
  · rintro ⟨hbefore, hdotted, hafter⟩
    rw [Text.trimChars_padded hbefore hdotted.not_blank hafter, hdotted.ofChars?]
  · intro h
    obtain ⟨before, after, hbefore, hafter, hpart⟩ := Text.exists_padded part
    rw [hpart]
    exact .spaced hbefore (ofChars?_eq_some_iff.mp h) hafter

end Address

/-! ### Superfluous zeros -/

/-- The digits without the zeros in front; one zero stays where nothing else would. -/
def unpadded : List Char → List Char
  | '0' :: c :: cs => unpadded (c :: cs)
  | cs => cs

theorem unpadded_of_ne {c : Char} {cs : List Char} (h : c ≠ '0') :
    unpadded (c :: cs) = c :: cs := by
  unfold unpadded
  split
  · rename_i heq
    exact absurd (List.cons.inj heq).1 h
  · rfl

theorem unpadded_zero_cons {cs : List Char} (h : cs ≠ []) :
    unpadded ('0' :: cs) = unpadded cs := by
  obtain ⟨c, cs, rfl⟩ := List.exists_cons_of_ne_nil h
  rw [unpadded]

theorem unpadded_toDigits (n : Nat) : unpadded (Nat.toDigits 10 n) = Nat.toDigits 10 n := by
  rcases Nat.eq_zero_or_pos n with rfl | hpos
  · rfl
  · obtain ⟨c, cs, hdigits⟩ := List.exists_cons_of_ne_nil (Nat.toDigits_ne_nil (n := n) (b := 10))
    rw [hdigits]
    exact unpadded_of_ne (Decimal.toDigits_head_ne_zero hpos hdigits)

/-- What is left is the number as it is written. -/
theorem Padded.unpadded {n : Nat} {cs : List Char} (h : Padded n cs) :
    unpadded cs = Nat.toDigits 10 n := by
  obtain ⟨zeros, rfl⟩ := h
  induction zeros with
  | zero => exact unpadded_toDigits n
  | succ zeros ih =>
    have hne : List.replicate zeros '0' ++ Nat.toDigits 10 n ≠ [] :=
      List.append_ne_nil_of_right_ne_nil _ Nat.toDigits_ne_nil
    rw [List.replicate_succ, List.cons_append, unpadded_zero_cons hne, ih]

namespace Address

/-! ### Four groups -/

/-- The number that digits make. -/
def groupValue (cs : List Char) : Nat := Nat.ofDigitChars 10 cs 0

/-- A group of an address. Any number of zeros may stand in front. -/
structure IsGroup (cs : List Char) : Prop where
  ne_nil : cs ≠ []
  digits : ∀ c ∈ cs, c.isDigit = true
  value_le : groupValue cs ≤ 255

/-- Four groups with points between them, nothing around them. -/
structure IsQuad (text w x y z : List Char) : Prop where
  joined : text = ['.'].intercalate [w, x, y, z]
  first : IsGroup w
  second : IsGroup x
  third : IsGroup y
  fourth : IsGroup z

/-- The groups as the digits of a number to the base of 256. -/
def quadValue (w x y z : List Char) : Nat :=
  groupValue w * 2 ^ 24 + groupValue x * 2 ^ 16 + groupValue y * 2 ^ 8 + groupValue z

theorem IsGroup.padded {cs : List Char} (h : IsGroup cs) : Padded (groupValue cs) cs :=
  .of_isDigit h.ne_nil h.digits

theorem isGroup_of_padded {n : Nat} {cs : List Char} (h : Padded n cs) (hn : n ≤ 255) :
    IsGroup cs ∧ groupValue cs = n := by
  have hvalue : groupValue cs = n := by
    obtain ⟨zeros, rfl⟩ := h
    rw [groupValue, Padded.ofDigitChars_replicate_zero, Nat.ofDigitChars_ten_toDigits]
  have hne : cs ≠ [] := by
    obtain ⟨zeros, rfl⟩ := h
    exact List.append_ne_nil_of_right_ne_nil _ Nat.toDigits_ne_nil
  exact ⟨⟨hne, h.isDigit, hvalue ▸ hn⟩, hvalue⟩

variable {a : Address} {text w x y z : List Char}

/-- The groups are the octets of the address they make. -/
theorem IsQuad.octets_eq (h : IsQuad text w x y z) (ha : a.toNat = quadValue w x y z) :
    a.octets = [groupValue w, groupValue x, groupValue y, groupValue z] := by
  have hw := h.first.value_le
  have hx := h.second.value_le
  have hy := h.third.value_le
  have hz := h.fourth.value_le
  rw [quadValue] at ha
  simp only [octets, List.cons.injEq, and_true]
  omega

theorem IsQuad.dotted (h : IsQuad text w x y z) (ha : a.toNat = quadValue w x y z) :
    a.Dotted text := by
  have hoctets := h.octets_eq ha
  simp only [octets, List.cons.injEq, and_true] at hoctets
  obtain ⟨hw, hx, hy, hz⟩ := hoctets
  rw [h.joined]
  exact .quad (hw ▸ h.first.padded) (hx ▸ h.second.padded) (hy ▸ h.third.padded)
    (hz ▸ h.fourth.padded)

/-- The address they make is written as the groups without superfluous zeros. -/
theorem IsQuad.text_eq (h : IsQuad text w x y z) (ha : a.toNat = quadValue w x y z) :
    a.text.toList = ['.'].intercalate [unpadded w, unpadded x, unpadded y, unpadded z] := by
  rw [text_toList, h.octets_eq ha, h.first.padded.unpadded, h.second.padded.unpadded,
    h.third.padded.unpadded, h.fourth.padded.unpadded]
  rfl

theorem IsQuad.exists_address (h : IsQuad text w x y z) :
    ∃ a : Address, a.toNat = quadValue w x y z := by
  have hw := h.first.value_le
  have hx := h.second.value_le
  have hy := h.third.value_le
  have hz := h.fourth.value_le
  have hlt : quadValue w x y z < 4294967296 := by
    rw [quadValue]
    omega
  exact ⟨.ofNat (quadValue w x y z), UInt32.toNat_ofNat_of_lt' hlt⟩

theorem IsGroup.zeros {cs : List Char} (h : IsGroup cs) (i : Nat) :
    IsGroup (List.replicate i '0' ++ cs) := by
  obtain ⟨zeros, hcs⟩ := h.padded
  have hpadded : Padded (groupValue cs) (List.replicate i '0' ++ cs) := by
    refine ⟨i + zeros, ?_⟩
    rw [← List.replicate_append_replicate, List.append_assoc, ← hcs]
  exact (isGroup_of_padded hpadded h.value_le).1

/-- Zeros in front of the groups change neither the form nor the value. -/
theorem IsQuad.zeros (h : IsQuad text w x y z) (i j k l : Nat) :
    IsQuad (['.'].intercalate [List.replicate i '0' ++ w, List.replicate j '0' ++ x,
        List.replicate k '0' ++ y, List.replicate l '0' ++ z])
      (List.replicate i '0' ++ w) (List.replicate j '0' ++ x) (List.replicate k '0' ++ y)
      (List.replicate l '0' ++ z) :=
  ⟨rfl, h.first.zeros i, h.second.zeros j, h.third.zeros k, h.fourth.zeros l⟩

theorem quadValue_zeros (i j k l : Nat) :
    quadValue (List.replicate i '0' ++ w) (List.replicate j '0' ++ x) (List.replicate k '0' ++ y)
      (List.replicate l '0' ++ z) = quadValue w x y z := by
  simp only [quadValue, groupValue, Padded.ofDigitChars_replicate_zero]

theorem Dotted.exists_isQuad (h : a.Dotted text) :
    ∃ w x y z, IsQuad text w x y z ∧ a.toNat = quadValue w x y z := by
  have hlt : a.toNat < 4294967296 := a.packed.toNat_lt
  obtain @⟨w, x, y, z, hw, hx, hy, hz⟩ := h
  obtain ⟨hw, hw'⟩ := isGroup_of_padded hw (by omega)
  obtain ⟨hx, hx'⟩ := isGroup_of_padded hx (by omega)
  obtain ⟨hy, hy'⟩ := isGroup_of_padded hy (by omega)
  obtain ⟨hz, hz'⟩ := isGroup_of_padded hz (by omega)
  refine ⟨w, x, y, z, ⟨rfl, hw, hx, hy, hz⟩, ?_⟩
  rw [quadValue]
  omega

theorem parse_eq_ok_iff {t : String} : parse t = .ok a ↔ a.Dotted t.toList := by
  rw [← ofChars?_eq_some_iff, parse, ofText?]
  cases ofChars? t.toList <;> simp

theorem parse_eq_error {t : String} {e : ConsoleError} (h : parse t = .error e) :
    e = .invalidAddresses [t] := by
  unfold parse at h
  split at h <;> cases h
  rfl

/-- A text with four groups is read as the address they make, and no other text is read at all; the
error carries the text as it stands. What is read is written as the groups without superfluous
zeros. -/
theorem parse_quad (t : String) :
    (∀ a, parse t = .ok a ↔
      ∃ w x y z, IsQuad t.toList w x y z ∧ a.toNat = quadValue w x y z) ∧
    (∀ e, parse t = .error e ↔
      (∀ w x y z, ¬ IsQuad t.toList w x y z) ∧ e = .invalidAddresses [t]) ∧
    ∀ a w x y z, parse t = .ok a → IsQuad t.toList w x y z →
      a.text.toList = ['.'].intercalate [unpadded w, unpadded x, unpadded y, unpadded z] := by
  have hread {a : Address} {w x y z : List Char} (h : IsQuad t.toList w x y z)
      (ha : a.toNat = quadValue w x y z) : parse t = .ok a := parse_eq_ok_iff.mpr (h.dotted ha)
  refine ⟨fun a => ?_, fun e => ?_, fun a w x y z hparse h => ?_⟩
  · constructor
    · intro hparse
      exact (parse_eq_ok_iff.mp hparse).exists_isQuad
    · rintro ⟨w, x, y, z, h, ha⟩
      exact hread h ha
  · constructor
    · intro hparse
      refine ⟨fun w x y z h => ?_, parse_eq_error hparse⟩
      obtain ⟨a, ha⟩ := h.exists_address
      cases hparse.symm.trans (hread h ha)
    · rintro ⟨hnone, rfl⟩
      cases hparse : parse t with
      | error e => rw [parse_eq_error hparse]
      | ok a =>
        obtain ⟨w, x, y, z, h, -⟩ := (parse_eq_ok_iff.mp hparse).exists_isQuad
        exact absurd h (hnone w x y z)
  · obtain ⟨b, hb⟩ := h.exists_address
    obtain rfl : a = b := Except.ok.inj (hparse.symm.trans (hread h hb))
    exact h.text_eq hb

/-- Zeros in front of every group, and a sign in front of the last. -/
theorem parse_quad_padded :
    (∃ a, parse "010.001.000.0099" = .ok a ∧ a.toNat = 167837795 ∧ a.text = "10.1.0.99") ∧
      ∀ w x y z, ¬ IsQuad "10.1.0.+9".toList w x y z := by
  obtain ⟨hok, -, htext⟩ := parse_quad "010.001.000.0099"
  obtain ⟨-, hrefused, -⟩ := parse_quad "10.1.0.+9"
  have hquad : IsQuad "010.001.000.0099".toList ['0', '1', '0'] ['0', '0', '1'] ['0', '0', '0']
      ['0', '0', '9', '9'] :=
    { joined := by decide +kernel
      first := ⟨by decide, List.all_eq_true.mp rfl, by decide⟩
      second := ⟨by decide, List.all_eq_true.mp rfl, by decide⟩
      third := ⟨by decide, List.all_eq_true.mp rfl, by decide⟩
      fourth := ⟨by decide, List.all_eq_true.mp rfl, by decide⟩ }
  have hread : parse "010.001.000.0099" = .ok ⟨167837795⟩ :=
    (hok _).mpr ⟨_, _, _, _, hquad, by decide⟩
  have herror : parse "10.1.0.+9" = .error (.invalidAddresses ["10.1.0.+9"]) := by decide +kernel
  exact ⟨⟨_, hread, rfl, String.toList_injective (htext _ _ _ _ _ hread hquad)⟩,
    ((hrefused _).mp herror).1⟩

end Address
end DeviceConsole
