import DeviceConsole.Json.Printer
import DeviceConsole.Json.Reader
import DeviceConsole.Proofs.Decimal
import Mathlib.Tactic.SplitIfs

/-! Strings and integers of JSON text: each reads back as what was written, and the reader stops
right behind it. -/
namespace DeviceConsole.Json

/-! ### Escapes -/

theorem hexEscape_ofNat : ∀ n < 128,
    hexEscape (Char.ofNat n) = ['\\', 'u', '0', '0', (n / 16).digitChar, (n % 16).digitChar] ∧
      hexDigit? (n / 16).digitChar = some (n / 16) ∧
      hexDigit? (n % 16).digitChar = some (n % 16) := by decide

/-- The escape of an ASCII character, its two last digits told. -/
theorem hexEscape_eq {c : Char} (h : c.toNat < 128) :
    ∃ a b, hexEscape c = ['\\', 'u', '0', '0', a, b] ∧ hexDigit? a = some (c.toNat / 16) ∧
      hexDigit? b = some (c.toNat % 16) := by
  have := hexEscape_ofNat c.toNat h
  rw [Char.ofNat_toNat] at this
  exact ⟨_, _, this⟩

theorem readCode_hexEscape {c : Char} (h : c.toNat < 128) (rest : List Char) :
    ∃ cs, hexEscape c = '\\' :: 'u' :: cs ∧ readCode true (cs ++ rest) = .ok (c, rest) := by
  obtain ⟨a, b, he, ha, hb⟩ := hexEscape_eq h
  refine ⟨['0', '0', a, b], he, ?_⟩
  have h0 : hexDigit? '0' = some 0 := by decide
  have hn : ((0 * 16 + 0) * 16 + c.toNat / 16) * 16 + c.toNat % 16 = c.toNat := by omega
  simp only [readCode, List.cons_append, List.nil_append, readHex4, h0, ha, hb, hn]
  simp only [bind, Except.bind, Bool.not_true, Bool.false_eq_true, ↓reduceIte]
  have hs : (decide (c.toNat < 0xD800) || decide (0xE000 ≤ c.toNat)) = true := by
    simp
    omega
  rw [if_pos hs, Char.ofNat_toNat]
  rfl

theorem readStringAux_escapeChar (c : Char) (fuel : Nat) (acc rest : List Char) :
    readStringAux true (fuel + 1) acc (escapeChar c ++ rest) =
      readStringAux true fuel (c :: acc) rest := by
  unfold escapeChar
  split_ifs with hq hb hn hr ht hbs hff hlow
  iterate 7 (· subst c; simp [readStringAux, simpleEscape?])
  · obtain ⟨cs, he, hread⟩ := readCode_hexEscape (c := c) (by omega) rest
    rw [he]
    simp [readStringAux, hread, bind, Except.bind]
  · simp [readStringAux, hq, hb, hlow]

theorem escapeChar_ne_nil (c : Char) : escapeChar c ≠ [] := by
  unfold escapeChar
  split_ifs <;> simp [hexEscape]

theorem length_le_length_escaped (cs : List Char) :
    cs.length ≤ (cs.flatMap escapeChar).length := by
  induction cs with
  | nil => simp
  | cons c cs ih =>
    have := List.length_pos_iff.mpr (escapeChar_ne_nil c)
    simp only [List.length_cons, List.flatMap_cons, List.length_append]
    omega

theorem readStringAux_escaped (cs : List Char) (fuel : Nat) (acc rest : List Char)
    (h : cs.length < fuel) :
    readStringAux true fuel acc (cs.flatMap escapeChar ++ '"' :: rest) =
      .ok (cs.reverse ++ acc, rest) := by
  induction cs generalizing fuel acc with
  | nil =>
    obtain ⟨fuel, rfl⟩ := Nat.exists_eq_add_one_of_ne_zero (Nat.ne_of_gt h)
    simp [readStringAux]
  | cons c cs ih =>
    obtain ⟨fuel, rfl⟩ := Nat.exists_eq_add_one_of_ne_zero (by omega : fuel ≠ 0)
    rw [List.flatMap_cons, List.append_assoc, readStringAux_escapeChar,
      ih fuel (c :: acc) (by simpa using h)]
    simp

/-- A printed string behind its opening quote. -/
theorem readString_stringText (s : String) (rest : List Char) :
    readString true (s.toList.flatMap escapeChar ++ '"' :: rest) = .ok (s, rest) := by
  have hl := length_le_length_escaped s.toList
  rw [readString, readStringAux_escaped _ _ _ _ (by simp only [List.length_append]; omega)]
  simp [bind, Except.bind, pure, Except.pure]

theorem stringText_toList (s : String) :
    (stringText s).toList = '"' :: (s.toList.flatMap escapeChar ++ ['"']) := by
  simp [stringText]

theorem escapeChar_of_plain {c : Char} (h : 0x20 ≤ c.toNat) (hquote : c ≠ '"')
    (hbackslash : c ≠ '\\') : escapeChar c = [c] := by
  have hcontrol {d : Char} (hd : d.toNat < 0x20) : c ≠ d := by
    rintro rfl
    omega
  rw [escapeChar, if_neg hquote, if_neg hbackslash, if_neg (hcontrol (by decide)),
    if_neg (hcontrol (by decide)), if_neg (hcontrol (by decide)), if_neg (hcontrol (by decide)),
    if_neg (hcontrol (by decide)), if_neg (Nat.not_lt.mpr h)]

/-- A text without anything to escape is printed as it stands, in quotes. -/
theorem stringText_of_plain {s : String} (h : ∀ c ∈ s.toList, escapeChar c = [c]) :
    stringText s = "\"" ++ s ++ "\"" := by
  have hmap : s.toList.flatMap escapeChar = s.toList := by
    rw [List.flatMap_def, List.map_congr_left h, ← List.flatMap_def, List.flatMap_singleton']
  apply String.toList_injective
  simp [stringText_toList, hmap]

/-! ### Integers -/

/-- What may follow a value in compact text: the end, a comma or a closing bracket. -/
def Closes : List Char → Prop
  | [] => True
  | c :: _ => c = ',' ∨ c = ']' ∨ c = '\x7d'

theorem Closes.head {c : Char} {cs : List Char} (h : Closes (c :: cs)) :
    c.isDigit = false ∧ c ≠ '.' ∧ c ≠ 'e' ∧ c ≠ 'E' := by
  rcases h with rfl | rfl | rfl <;> decide

theorem takeDigits_append (ds : List Char) (n count : Nat) {rest : List Char}
    (hd : ∀ c ∈ ds, c.isDigit = true) (hr : Closes rest)
    (hn : Nat.ofDigitChars 10 ds n ≤ significandLimit) :
    takeDigits n count (ds ++ rest) = (Nat.ofDigitChars 10 ds n, count + ds.length, rest) := by
  induction ds generalizing n count with
  | nil =>
    cases rest with
    | nil => simp [takeDigits]
    | cons c cs => simp [takeDigits, hr.head.1]
  | cons d ds ih =>
    rw [Nat.ofDigitChars_cons] at hn
    have hle : 10 * n + (d.toNat - 48) ≤ significandLimit :=
      Nat.le_trans (Decimal.le_ofDigitChars ds _) hn
    rw [List.cons_append, takeDigits, hd d (by simp)]
    simp only [Bool.true_and, decide_eq_true_eq, hle, ↓reduceIte]
    rw [ih (10 * n + (d.toNat - 48)) _ (fun c hc => hd c (by simp [hc])) hn]
    simp [Nat.ofDigitChars_cons, Nat.add_comm, Nat.add_left_comm]

theorem readAfterInteger_closes {wanted positive : Bool} {n : Nat} {rest : List Char}
    (hr : Closes rest) :
    readAfterInteger wanted positive n rest =
      if positive then .ok (int n, rest)
      else if n = 0 || twoTo 63 < n then .ok (signed false (Binary64.ofNat n), rest)
      else .ok (int (-(n : Int)), rest) := by
  cases rest with
  | nil => rfl
  | cons c cs =>
    obtain ⟨-, hp, he, hE⟩ := hr.head
    simp [readAfterInteger, hp, he, hE]

theorem readNumber_toDigits {wanted positive : Bool} {n : Nat} {rest : List Char}
    (hn : n ≤ significandLimit) (hr : Closes rest) :
    readNumber wanted positive (Nat.toDigits 10 n ++ rest) =
      readAfterInteger wanted positive n rest := by
  rcases Nat.eq_zero_or_pos n with rfl | hpos
  · rw [Nat.toDigits_zero]
    cases rest with
    | nil => rfl
    | cons c cs => simp [readNumber, hr.head.1]
  · cases hds : Nat.toDigits 10 n with
    | nil => exact absurd hds Nat.toDigits_ne_nil
    | cons d ds =>
      have hd : ∀ c ∈ d :: ds, c.isDigit = true := fun c hc =>
        Nat.isDigit_of_mem_toDigits (by decide) (by decide) (hds ▸ hc)
      have hval : Nat.ofDigitChars 10 ds (d.toNat - 48) = n := by
        have := Nat.ofDigitChars_ten_toDigits (n := n)
        rwa [hds, Nat.ofDigitChars_cons, Nat.mul_zero, Nat.zero_add] at this
      have htake := takeDigits_append ds (d.toNat - 48) 0 (fun c hc => hd c (by simp [hc])) hr
        (by rw [hval]; exact hn)
      rw [hval] at htake
      have hne := Decimal.toDigits_head_ne_zero hpos hds
      cases rest with
      | nil =>
        rw [List.append_nil] at htake
        simp [readNumber, hd d (by simp), htake]
      | cons c cs => simp [readNumber, hd d (by simp), htake, hr.head.1]

theorem compact_int_toList (i : Int) :
    (compact (.int i)).toList =
      if 0 ≤ i then Nat.toDigits 10 i.toNat else '-' :: Nat.toDigits 10 (-i).toNat := by
  rw [compact, Int.toString_eq_repr, Int.repr_eq_if]
  split_ifs <;> simp

end DeviceConsole.Json
