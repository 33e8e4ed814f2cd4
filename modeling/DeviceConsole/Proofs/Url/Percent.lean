import DeviceConsole.Url.Percent
import Mathlib.Data.List.Basic

/-! Percent-encoding. What is written holds no character that would have to be encoded, so encoding
once is enough; and decoding leaves a text without percent signs alone. -/
namespace DeviceConsole.Url

/-! ### Bytes of a character -/

theorem byteArray_toList_loop (bytes : ByteArray) (i : Nat) (done : List UInt8) :
    ByteArray.toList.loop bytes i done = done.reverse ++ bytes.data.toList.drop i := by
  fun_induction ByteArray.toList.loop bytes i done with
  | case1 i done hlt ih =>
    have hlt' : i < bytes.data.toList.length := by simpa using hlt
    have hget : bytes.get! i = bytes.data.toList[i] := by
      change bytes.data[i]! = _
      rw [getElem!_pos bytes.data i hlt, Array.getElem_toList]
    rw [ih, List.reverse_cons, List.append_assoc, List.singleton_append, hget,
      ← List.drop_eq_getElem_cons]
  | case2 i done hge =>
    rw [List.drop_eq_nil_of_le (by simpa using hge), List.append_nil]

theorem utf8Bytes_eq (c : Char) : utf8Bytes c = (String.utf8EncodeChar c).map UInt8.toNat := by
  have hbytes : (String.singleton c).toUTF8 = (String.utf8EncodeChar c).toByteArray := by
    rw [String.toUTF8, String.toByteArray_singleton, List.utf8Encode_singleton]
  rw [utf8Bytes, hbytes, ByteArray.toList, byteArray_toList_loop, List.toList_data_toByteArray]
  rfl

theorem utf8Bytes_of_ascii {c : Char} (h : c.toNat < 0x80) : utf8Bytes c = [c.toNat] := by
  have hval : c.val.toNat ≤ 127 := Nat.le_of_lt_succ h
  have hsmall : c.val.toNat < 256 := by omega
  rw [utf8Bytes_eq, String.utf8EncodeChar]
  simp only [if_pos hval, List.map_cons, List.map_nil, UInt8.toNat_ofNat_of_lt' hsmall]
  rfl

theorem le_utf8Bytes_of_not_ascii {c : Char} (h : 0x80 ≤ c.toNat) :
    ∀ b ∈ utf8Bytes c, 0x80 ≤ b := by
  have hval : ¬ c.val.toNat ≤ 127 := Nat.not_le_of_lt h
  rw [utf8Bytes_eq, String.utf8EncodeChar]
  simp only [if_neg hval]
  split_ifs <;> simp [UInt8.toNat_ofNat] <;> omega

theorem utf8Bytes_lt {c : Char} : ∀ b ∈ utf8Bytes c, b < 256 := by
  rw [utf8Bytes_eq]
  intro b hb
  obtain ⟨byte, -, rfl⟩ := List.mem_map.mp hb
  exact byte.toNat_lt

theorem flatMap_utf8Bytes (cs : List Char) :
    (cs.flatMap utf8Bytes).map UInt8.ofNat = cs.flatMap String.utf8EncodeChar := by
  rw [List.map_flatMap]
  refine List.flatMap_congr fun c _ => ?_
  rw [utf8Bytes_eq, List.map_map]
  simp [Function.comp_def]

/-- Without percent signs a text stands for itself. -/
theorem decodeBytes_of_not_mem {cs : List Char} (h : '%' ∉ cs) :
    decodeBytes cs = cs.flatMap utf8Bytes := by
  induction cs with
  | nil => simp [decodeBytes]
  | cons c cs ih =>
    have hc : c ≠ '%' := fun he => h (by simp [he])
    rw [decodeBytes.eq_3 _ _ fun _ _ _ he => absurd he hc, ih fun hmem => h (by simp [hmem]),
      List.flatMap_cons]

theorem decode?_of_not_mem {cs : List Char} (h : '%' ∉ cs) : decode? cs = some cs := by
  have hbytes : (⟨((decodeBytes cs).map UInt8.ofNat).toArray⟩ : ByteArray) =
      (String.ofList cs).toByteArray := by
    rw [decodeBytes_of_not_mem h, flatMap_utf8Bytes, String.toByteArray_ofList, List.utf8Encode,
      ← List.data_toByteArray]
  have hread : String.fromUTF8? (String.ofList cs).toByteArray = some (String.ofList cs) := by
    rw [String.fromUTF8?, dif_pos (String.ofList cs).isValidUTF8]
    rfl
  rw [decode?, hbytes, hread, Option.map_some, String.toList_ofList]

/-! ### Encoding -/

def encodingChars : List Char := "%0123456789ABCDEF".toList

/-- A set of characters to encode that has none of those an encoding is written in. -/
def IsEncoded (inSet : Char → Bool) : Prop := ∀ c ∈ encodingChars, inSet c = false

instance (inSet : Char → Bool) : Decidable (IsEncoded inSet) :=
  List.decidableBAll (fun c => inSet c = false) encodingChars

theorem mem_encodeByte {b : Nat} (hb : b < 256) : ∀ c ∈ encodeByte b, c ∈ encodingChars := by
  have hdigit : ∀ d < 16, d.digitChar.toUpper ∈ encodingChars := by decide
  have hhigh := hdigit (b / 16) (by omega)
  have hlow := hdigit (b % 16) (by omega)
  intro c hc
  simp only [encodeByte, List.mem_cons, List.not_mem_nil, or_false] at hc
  rcases hc with rfl | rfl | rfl
  · decide
  · exact hhigh
  · exact hlow

theorem mem_encode {inSet : Char → Bool} {cs : List Char} {c : Char} (h : c ∈ encode inSet cs) :
    (c ∈ cs ∧ inSet c = false) ∨ c ∈ encodingChars := by
  obtain ⟨d, hd, hc⟩ := List.mem_flatMap.mp h
  unfold encodeChar at hc
  split at hc
  · obtain ⟨b, hb, hc⟩ := List.mem_flatMap.mp hc
    exact .inr (mem_encodeByte (utf8Bytes_lt b hb) c hc)
  · rename_i hnot
    obtain rfl := List.mem_singleton.mp hc
    exact .inl ⟨hd, by simpa using hnot⟩

theorem not_inSet_of_mem_encode {inSet : Char → Bool} (hset : IsEncoded inSet) {cs : List Char}
    {c : Char} (h : c ∈ encode inSet cs) : inSet c = false := by
  rcases mem_encode h with ⟨-, hc⟩ | hc
  · exact hc
  · exact hset c hc

theorem encode_eq_self {inSet : Char → Bool} {cs : List Char} (h : ∀ c ∈ cs, inSet c = false) :
    encode inSet cs = cs := by
  have hchar (c : Char) (hc : c ∈ cs) : encodeChar inSet c = [c] := by simp [encodeChar, h c hc]
  rw [encode, List.flatMap_congr hchar]
  exact List.flatMap_singleton' cs

theorem encode_encode {inSet : Char → Bool} (hset : IsEncoded inSet) (cs : List Char) :
    encode inSet (encode inSet cs) = encode inSet cs :=
  encode_eq_self fun _ hc => not_inSet_of_mem_encode hset hc

theorem isEncoded_inPath : IsEncoded inPath := by decide

theorem isEncoded_inUserinfo : IsEncoded inUserinfo := by decide

theorem isEncoded_inSpecialQuery : IsEncoded inSpecialQuery := by decide

theorem isEncoded_inFragment : IsEncoded inFragment := by decide

end DeviceConsole.Url
