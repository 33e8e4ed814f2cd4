import DeviceConsole.Proofs.Json.Text
import DeviceConsole.Toml.Reader
import Mathlib.Data.List.TakeWhile

/-! Strings and integers of TOML text: what is written on a line reads back, and the reader stops
at the end of the line. -/
namespace DeviceConsole.Toml

/-! ### Strings -/

theorem hexNibble?_of_hexDigit? {c : Char} {n : Nat} (h : Json.hexDigit? c = some n) :
    hexNibble? c = some n := by
  simpa [hexNibble?, Json.hexDigit?] using h

theorem readEscape?_hexEscape {c : Char} (h : c.toNat < 128) (rest : List Char) :
    ∃ cs, Json.hexEscape c = '\\' :: cs ∧ readEscape? (cs ++ rest) = some (c, rest) := by
  obtain ⟨a, b, he, ha, hb⟩ := Json.hexEscape_eq h
  refine ⟨['u', '0', '0', a, b], he, ?_⟩
  have h0 : hexNibble? '0' = some 0 := rfl
  have hn : 16 * (c.toNat / 16) + c.toNat % 16 = c.toNat := Nat.div_add_mod _ 16
  have hv : c.toNat.isValidChar := c.valid
  simp [readEscape?, readCode?, readHex?, h0, hexNibble?_of_hexDigit? ha,
    hexNibble?_of_hexDigit? hb, hn, hv]

theorem readBasic?_escape {cs rest : List Char} {c : Char} (h : readEscape? cs = some (c, rest))
    (fuel : Nat) : readBasic? (fuel + 1) ('\\' :: cs) =
      (readBasic? fuel rest).map fun r => (c :: r.1, r.2) := by
  rw [readBasic?, if_neg (by decide), if_pos rfl, h]
  simp only [Option.bind_eq_bind, Option.bind_some]
  cases readBasic? fuel rest <;> rfl

theorem readBasic?_plain {c : Char} (hquote : c ≠ '"') (hslash : c ≠ '\\')
    (hplain : isPlain c = true) (fuel : Nat) (rest : List Char) : readBasic? (fuel + 1) (c :: rest) =
      (readBasic? fuel rest).map fun r => (c :: r.1, r.2) := by
  rw [readBasic?, if_neg hquote, if_neg hslash, if_pos hplain]
  cases readBasic? fuel rest <;> rfl

/-- What a character is written as is read as that character. -/
theorem readBasic?_escapeChar (c : Char) (fuel : Nat) (rest : List Char) :
    readBasic? (fuel + 1) (escapeChar c ++ rest) =
      (readBasic? fuel rest).map fun r => (c :: r.1, r.2) := by
  unfold escapeChar
  split_ifs with hq hb hc
  · subst c
    exact readBasic?_escape (by rfl) fuel
  · subst c
    exact readBasic?_escape (by rfl) fuel
  · have hlt : c.toNat < 128 := by
      simp only [Bool.or_eq_true, decide_eq_true_eq] at hc
      omega
    obtain ⟨cs, he, hread⟩ := readEscape?_hexEscape hlt rest
    rw [he]
    exact readBasic?_escape hread fuel
  · have hplain : isPlain c = true := by
      simp only [Bool.or_eq_true, decide_eq_true_eq, not_or, Nat.not_lt] at hc
      simp [isPlain, hc.1, hc.2]
    exact readBasic?_plain hq hb hplain fuel rest

theorem escapeChar_ne_nil (c : Char) : escapeChar c ≠ [] := by
  unfold escapeChar
  split_ifs <;> simp [Json.hexEscape]

theorem length_le_length_escaped (cs : List Char) :
    cs.length ≤ (cs.flatMap escapeChar).length := by
  induction cs with
  | nil => simp
  | cons c cs ih =>
    have := List.length_pos_iff.mpr (escapeChar_ne_nil c)
    simp only [List.length_cons, List.flatMap_cons, List.length_append]
    omega

theorem readBasic?_escaped (cs : List Char) (fuel : Nat) (rest : List Char)
    (h : cs.length < fuel) :
    readBasic? fuel (cs.flatMap escapeChar ++ '"' :: rest) = some (cs, rest) := by
  induction cs generalizing fuel with
  | nil =>
    obtain ⟨fuel, rfl⟩ := Nat.exists_eq_add_one_of_ne_zero (Nat.ne_of_gt h)
    simp [readBasic?]
  | cons c cs ih =>
    obtain ⟨fuel, rfl⟩ := Nat.exists_eq_add_one_of_ne_zero (by omega : fuel ≠ 0)
    rw [List.flatMap_cons, List.append_assoc, readBasic?_escapeChar,
      ih fuel (by simpa using h)]
    rfl

theorem quote_toList (s : String) :
    (quote s).toList = '"' :: (s.toList.flatMap escapeChar ++ ['"']) := by
  simp [quote]

/-- Two quotes do not stand at the start of a quoted text with the end of the line behind it. -/
theorem escaped_ne_quotes (cs rest tail : List Char) :
    cs.flatMap escapeChar ++ '"' :: '\n' :: rest ≠ '"' :: '"' :: tail := by
  cases cs with
  | nil => simp
  | cons c cs =>
    rw [List.flatMap_cons, List.append_assoc]
    unfold escapeChar
    split_ifs with hq
    · simp
    · simp
    · simp [Json.hexEscape]
    · simp [hq]

theorem readString?_basic {cs : List Char} (h : ∀ tail, cs ≠ '"' :: '"' :: tail) :
    readString? ('"' :: cs) =
      (readBasic? (cs.length + 1) cs).map fun r => (String.ofList r.1, r.2) := by
  unfold readString?
  split
  · rename_i heq
    exact absurd (List.cons.inj heq).2 (h _)
  · rename_i heq
    obtain ⟨-, rfl⟩ := List.cons.inj heq
    cases readBasic? (cs.length + 1) cs <;> rfl
  · rename_i heq
    exact absurd (List.cons.inj heq).1 (by decide)
  · rename_i heq
    exact absurd (List.cons.inj heq).1 (by decide)
  · rename_i hbasic _ _
    exact absurd rfl (hbasic cs)

/-- A quoted text at the end of a line. -/
theorem readString?_quote (s : String) (rest : List Char) :
    readString? ((quote s).toList ++ '\n' :: rest) = some (s, '\n' :: rest) := by
  have hl := length_le_length_escaped s.toList
  rw [quote_toList, List.cons_append, List.append_assoc, List.cons_append, List.nil_append,
    readString?_basic (escaped_ne_quotes _ _),
    readBasic?_escaped _ _ _ (by simp only [List.length_append]; omega)]
  simp

/-- A quoted text as a part of a key. -/
theorem readPart?_quote (s : String) (rest : List Char) :
    readPart? ((quote s).toList ++ rest) = some (s, rest) := by
  have hl := length_le_length_escaped s.toList
  rw [quote_toList, List.cons_append, List.append_assoc, List.cons_append, List.nil_append,
    readPart?, readBasic?_escaped _ _ _ (by simp only [List.length_append]; omega)]
  simp

/-! ### Integers -/

theorem isDigit_of_mem {n : Nat} {c : Char} (h : c ∈ Nat.toDigits 10 n) : c.isDigit = true :=
  Nat.isDigit_of_mem_toDigits (by decide) (by decide) h

theorem digits?_toDigits (n : Nat) :
    digits? Char.isDigit (Nat.toDigits 10 n) = some (Nat.toDigits 10 n) := by
  have hsplit : (Nat.toDigits 10 n).splitOn '_' = [Nat.toDigits 10 n] := by
    apply List.splitOnP_eq_singleton
    intro c hc
    simpa using Decimal.ne_of_isDigit (isDigit_of_mem hc) (by decide : '_'.isDigit = false)
  have hall : (Nat.toDigits 10 n).all Char.isDigit = true :=
    List.all_eq_true.mpr fun c hc => isDigit_of_mem hc
  simp only [digits?, hsplit, List.all_cons, List.all_nil, hall, Bool.and_true,
    List.flatten_cons, List.flatten_nil, List.append_nil]
  simp [Nat.toDigits_ne_nil]

/-- A zero at the front stands alone. -/
theorem toDigits_zero_head {n : Nat} {cs : List Char} (h : Nat.toDigits 10 n = '0' :: cs) :
    cs = [] := by
  rcases Nat.eq_zero_or_pos n with rfl | hn
  · simpa using h.symm
  · exact absurd rfl (Decimal.toDigits_head_ne_zero hn h)

theorem wholeDigits?_toDigits (n : Nat) :
    wholeDigits? (Nat.toDigits 10 n) = some (Nat.toDigits 10 n) := by
  rw [wholeDigits?, digits?_toDigits]
  simp only [Option.bind_eq_bind, Option.bind_some]
  split_ifs with h
  · cases hd : Nat.toDigits 10 n with
    | nil => exact absurd hd Nat.toDigits_ne_nil
    | cons c cs =>
      rw [hd] at h
      obtain ⟨rfl, hlen⟩ : c = '0' ∧ 0 < cs.length := by simpa using h
      rw [toDigits_zero_head hd] at hlen
      exact absurd hlen (by simp)
  · rfl

theorem splitSign_toDigits (n : Nat) :
    splitSign (Nat.toDigits 10 n) = (false, Nat.toDigits 10 n) := by
  unfold splitSign
  split
  · rename_i heq
    exact absurd (isDigit_of_mem (heq ▸ List.mem_cons_self)) (by decide)
  · rename_i heq
    exact absurd (isDigit_of_mem (heq ▸ List.mem_cons_self)) (by decide)
  · rfl

theorem integer?_toDigits (n : Nat) : integer? (Nat.toDigits 10 n) = int? n := by
  rw [integer?, splitSign_toDigits]
  simp [wholeDigits?_toDigits]

theorem number?_toDigits {n : Nat} {j : Json} (h : int? n = some j) :
    number? (Nat.toDigits 10 n) = some j := by
  unfold number?
  split
  · rename_i heq
    exact absurd (toDigits_zero_head heq) (by simp)
  · rename_i heq
    exact absurd (toDigits_zero_head heq) (by simp)
  · rename_i heq
    exact absurd (toDigits_zero_head heq) (by simp)
  · rw [integer?_toDigits, h]
    rfl

end DeviceConsole.Toml
