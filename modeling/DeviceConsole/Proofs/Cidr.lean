import DeviceConsole.Proofs.Address.Quad
import DeviceConsole.Proofs.Json.Text
import DeviceConsole.Proofs.Target.Text

/-! The grammar of a block: an address, the first slash, and digits of value at most 32 to the end.
A text of this form is read as the block with that address and that many top bits, any other text is
refused as it stands, and the block is written as its text without superfluous zeros. -/
namespace DeviceConsole.Cidr

open Address (groupValue IsQuad)

/-- The number of top bits. Any number of zeros may stand in front. -/
structure IsLength (cs : List Char) : Prop where
  ne_nil : cs ≠ []
  digits : ∀ c ∈ cs, c.isDigit = true
  value_le : groupValue cs ≤ 32

/-- An address, the first slash, and a length to the end of the text. -/
structure IsBlock (text address length : List Char) : Prop where
  joined : text = address ++ '/' :: length
  slash_not_mem : '/' ∉ address
  accepted : ∃ a, Address.parse (String.ofList address) = .ok a
  isLength : IsLength length

variable {b : Cidr} {text address length : List Char}

/-! ### Lengths -/

theorem IsLength.padded (h : IsLength length) : Padded (groupValue length) length :=
  .of_isDigit h.ne_nil h.digits

theorem readLength_iff {n : Nat} :
    (Decimal.readDigits? length = some n ∧ n ≤ 32) ↔ IsLength length ∧ groupValue length = n := by
  rw [Decimal.readDigits?_eq_some_iff, Decimal.isDigits_iff]
  constructor
  · rintro ⟨⟨⟨hne, hall⟩, rfl⟩, hle⟩
    exact ⟨⟨hne, hall, hle⟩, rfl⟩
  · rintro ⟨h, rfl⟩
    exact ⟨⟨⟨h.ne_nil, h.digits⟩, rfl⟩, h.value_le⟩

/-! ### The first slash -/

/-- A text can be cut at its first slash in one way only. -/
theorem cut_iff {rest : List Char} :
    (text.takeWhile (· ≠ '/') = address ∧ text.dropWhile (· ≠ '/') = '/' :: rest) ↔
      text = address ++ '/' :: rest ∧ '/' ∉ address := by
  constructor
  · rintro ⟨rfl, hdrop⟩
    refine ⟨?_, fun h => ?_⟩
    · rw [← hdrop, List.takeWhile_append_dropWhile]
    · simpa using List.mem_takeWhile_imp h
  · rintro ⟨rfl, hslash⟩
    have hplain : ∀ c ∈ address, decide (c ≠ '/') = true := fun c hc =>
      decide_eq_true (ne_of_mem_of_not_mem hc hslash)
    rw [List.takeWhile_append_of_pos hplain, List.dropWhile_append_of_pos hplain]
    simp

/-- Where dropping stopped there is a slash. -/
theorem eq_slash_of_dropWhile {c : Char} {rest : List Char}
    (h : text.dropWhile (· ≠ '/') = c :: rest) : c = '/' := by
  have hne : text.dropWhile (· ≠ '/') ≠ [] := h ▸ List.cons_ne_nil c rest
  have hhead := List.head_dropWhile_not (fun c => decide (c ≠ '/')) hne
  simp only [h, List.head_cons, decide_eq_false_iff_not, not_not] at hhead
  exact hhead

theorem ofChars?_eq_some_iff : ofChars? text = some b ↔
    ∃ address length, (text = address ++ '/' :: length ∧ '/' ∉ address) ∧
      Address.ofChars? address = some b.address ∧ IsLength length ∧
      groupValue length = b.bits := by
  simp only [← cut_iff]
  constructor
  · intro h
    unfold ofChars? at h
    split at h
    · cases h
    · rename_i c length hdrop
      obtain rfl := eq_slash_of_dropWhile hdrop
      obtain ⟨address, haddress, h⟩ := Option.bind_eq_some_iff.mp h
      obtain ⟨bits, hbits, h⟩ := Option.bind_eq_some_iff.mp h
      split at h
      · rename_i hle
        cases h
        exact ⟨_, length, ⟨rfl, hdrop⟩, haddress, readLength_iff.mp ⟨hbits, hle⟩⟩
      · cases h
  · rintro ⟨address, length, ⟨rfl, hdrop⟩, haddress, hlength, hbits⟩
    obtain ⟨hread, hle⟩ := readLength_iff.mpr ⟨hlength, hbits⟩
    simp only [ofChars?, hdrop, haddress, hread, Option.bind_eq_bind, Option.bind_some, dif_pos hle]

/-! ### Blocks -/

theorem parse_eq_ok_iff {t : String} : parse t = .ok b ↔
    ∃ address length, IsBlock t.toList address length ∧
      Address.parse (String.ofList address) = .ok b.address ∧ groupValue length = b.bits := by
  have hparse (address : List Char) : Address.parse (String.ofList address) = .ok b.address ↔
      Address.ofChars? address = some b.address := by
    rw [Address.parse_eq_ok_iff, String.toList_ofList, Address.ofChars?_eq_some_iff]
  have hread : parse t = .ok b ↔ ofChars? t.toList = some b := by
    rw [parse]
    cases ofChars? t.toList <;> simp
  rw [hread, ofChars?_eq_some_iff]
  constructor
  · rintro ⟨address, length, ⟨hjoined, hslash⟩, haddress, hlength, hbits⟩
    have hok := (hparse address).mpr haddress
    exact ⟨address, length, ⟨hjoined, hslash, ⟨_, hok⟩, hlength⟩, hok, hbits⟩
  · rintro ⟨address, length, h, haddress, hbits⟩
    exact ⟨address, length, ⟨h.joined, h.slash_not_mem⟩, (hparse address).mp haddress, h.isLength,
      hbits⟩

theorem parse_eq_error {t : String} {e : ConsoleError} (h : parse t = .error e) :
    e = .invalidCidr t := by
  unfold parse at h
  split at h <;> cases h
  rfl

/-- A text of the form is that of a block. -/
theorem IsBlock.exists_parse {t : String} (h : IsBlock t.toList address length) :
    ∃ b, parse t = .ok b := by
  obtain ⟨a, ha⟩ := h.accepted
  exact ⟨⟨a, groupValue length, h.isLength.value_le⟩,
    parse_eq_ok_iff.mpr ⟨address, length, h, ha, rfl⟩⟩

/-- A block is written as its text without superfluous zeros. -/
theorem exists_groups {t : String} (h : parse t = .ok b) :
    ∃ address length w x y z, IsBlock t.toList address length ∧ IsQuad address w x y z ∧
      b.text.toList = ['.'].intercalate [unpadded w, unpadded x, unpadded y, unpadded z] ++
        '/' :: unpadded length := by
  obtain ⟨address, length, hblock, haddress, hbits⟩ := parse_eq_ok_iff.mp h
  rw [Address.parse_eq_ok_iff, String.toList_ofList] at haddress
  obtain ⟨w, x, y, z, hquad, hvalue⟩ := haddress.exists_isQuad
  refine ⟨address, length, w, x, y, z, hblock, hquad, ?_⟩
  rw [text_toList, hquad.text_eq hvalue, hblock.isLength.padded.unpadded, hbits]

/-! ### The serialized form -/

theorem compact_toJson (b : Cidr) : b.toJson.compact = "\"" ++ b.text ++ "\"" := by
  refine Json.stringText_of_plain fun c hc => ?_
  rcases mem_text hc with hd | rfl | rfl
  · obtain ⟨hlo, -⟩ := Decimal.digit_toNat hd
    exact Json.escapeChar_of_plain (Nat.le_trans (by decide) hlo)
      (Decimal.ne_of_isDigit hd (by decide)) (Decimal.ne_of_isDigit hd (by decide))
  · decide
  · decide

/-- A text is read as a block where it is an address, the first slash and a length to its end, and
any other text is refused as it stands. A block is read back from its text with its address and its
length as they are; what is read is written without superfluous zeros; and the serialized form of a
block is its text. -/
theorem parse_block :
    (∀ t b, parse t = .ok b ↔ ∃ address length, IsBlock t.toList address length ∧
      Address.parse (String.ofList address) = .ok b.address ∧ groupValue length = b.bits) ∧
    (∀ t e, parse t = .error e ↔
      (∀ address length, ¬ IsBlock t.toList address length) ∧ e = .invalidCidr t) ∧
    (∀ b, parse b.text = .ok b) ∧
    (∀ t b, parse t = .ok b → ∃ address length w x y z,
      IsBlock t.toList address length ∧ IsQuad address w x y z ∧
      b.text.toList = ['.'].intercalate [unpadded w, unpadded x, unpadded y, unpadded z] ++
        '/' :: unpadded length) ∧
    ∀ b : Cidr, b.toJson.compact = "\"" ++ b.text ++ "\"" ∧
      (DeviceIps.ofTargets (.block b)).toJson = b.toJson := by
  refine ⟨fun t b => parse_eq_ok_iff, fun t e => ⟨fun h => ⟨fun address length hblock => ?_,
    parse_eq_error h⟩, ?_⟩, parse_text, fun t b => exists_groups, fun b => ⟨b.compact_toJson, rfl⟩⟩
  · obtain ⟨b, hb⟩ := hblock.exists_parse
    cases h.symm.trans hb
  · rintro ⟨hnone, rfl⟩
    cases hparse : parse t with
    | error e => rw [parse_eq_error hparse]
    | ok b =>
      obtain ⟨address, length, hblock, -⟩ := parse_eq_ok_iff.mp hparse
      exact absurd hblock (hnone address length)

/-- Zeros in front of an octet and of the length, with host bits; and a text with a second slash. -/
theorem parse_block_padded :
    (∃ b, parse "010.1.002.3/08" = .ok b ∧ b.address = .ofOctets 10 1 2 3 ∧ b.bits = 8 ∧
      b.text = "10.1.2.3/8" ∧ parse b.text = .ok b ∧ b.toJson.compact = "\"10.1.2.3/8\"") ∧
    ∀ address length, ¬ IsBlock "10.0.0.0/8/8".toList address length := by
  obtain ⟨hok, herror, htext, -, hjson⟩ := parse_block
  let b : Cidr := ⟨.ofOctets 10 1 2 3, 8, by decide⟩
  have haddress : Address.parse (String.ofList "010.1.002.3".toList) = .ok b.address := by
    decide +kernel
  have hblock : IsBlock "010.1.002.3/08".toList "010.1.002.3".toList "08".toList :=
    ⟨by decide, by decide, ⟨_, haddress⟩, by decide, List.all_eq_true.mp rfl, by decide⟩
  have hread : parse "010.1.002.3/08" = .ok b :=
    (hok _ _).mpr ⟨_, _, hblock, haddress, by decide⟩
  have hrefused : parse "10.0.0.0/8/8" = .error (.invalidCidr "10.0.0.0/8/8") := by
    decide +kernel
  have hshown : b.text = "10.1.2.3/8" := by decide +kernel
  exact ⟨⟨b, hread, rfl, rfl, hshown, htext b, by rw [(hjson b).1, hshown]; rfl⟩,
    ((herror _ _).mp hrefused).1⟩

end DeviceConsole.Cidr
