import DeviceConsole.Decimal.Integer

/-! Decimal digits of a number: what is written reads back, and a number above zero is written
without a leading zero. -/
namespace DeviceConsole.Decimal

theorem isDigits_iff {cs : List Char} :
    isDigits cs = true ↔ cs ≠ [] ∧ ∀ c ∈ cs, c.isDigit = true := by
  simp only [isDigits, Bool.and_eq_true, Bool.not_eq_true', List.isEmpty_eq_false_iff,
    List.all_eq_true]

theorem readDigits?_eq_some_iff {cs : List Char} {n : Nat} :
    readDigits? cs = some n ↔ isDigits cs = true ∧ Nat.ofDigitChars 10 cs 0 = n := by
  simp [readDigits?]

theorem isDigits_toDigits (n : Nat) : isDigits (Nat.toDigits 10 n) = true :=
  isDigits_iff.mpr ⟨Nat.toDigits_ne_nil, fun _ hc =>
    Nat.isDigit_of_mem_toDigits (by decide) (by decide) hc⟩

@[simp] theorem readDigits?_toDigits (n : Nat) : readDigits? (Nat.toDigits 10 n) = some n :=
  readDigits?_eq_some_iff.mpr ⟨isDigits_toDigits n, Nat.ofDigitChars_ten_toDigits⟩

theorem digit_toNat {c : Char} (h : c.isDigit = true) : 48 ≤ c.toNat ∧ c.toNat ≤ 57 := by
  simpa [Char.isDigit, UInt32.le_iff_toNat_le] using h

theorem ne_of_isDigit {c d : Char} (hc : c.isDigit = true) (hd : d.isDigit = false) : c ≠ d := by
  rintro rfl
  rw [hc] at hd
  exact Bool.noConfusion hd

/-- The first digit of a number above zero is not zero. -/
theorem toDigits_head_ne_zero {n : Nat} (hn : 0 < n) {c : Char} {cs : List Char}
    (h : Nat.toDigits 10 n = c :: cs) : c ≠ '0' := by
  induction n using Nat.strongRecOn generalizing c cs with
  | ind n ih =>
    rcases Nat.lt_or_ge n 10 with hlt | hge
    · rw [Nat.toDigits_of_lt_base hlt] at h
      obtain ⟨rfl, -⟩ := List.cons.inj h
      intro h0
      have := Nat.toNat_digitChar_sub_48_of_lt_ten hlt
      rw [h0] at this
      simp at this
      omega
    · rw [Nat.toDigits_of_base_le (by decide) hge] at h
      cases hd : Nat.toDigits 10 (n / 10) with
      | nil => exact absurd hd Nat.toDigits_ne_nil
      | cons d ds =>
        rw [hd] at h
        obtain ⟨rfl, -⟩ := List.cons.inj h
        exact ih (n / 10) (Nat.div_lt_self hn (by decide))
          (Nat.div_pos hge (by decide)) hd

/-- More digits never make a number smaller. -/
theorem le_ofDigitChars (cs : List Char) (n : Nat) : n ≤ Nat.ofDigitChars 10 cs n := by
  induction cs generalizing n with
  | nil => simp
  | cons c cs ih =>
    rw [Nat.ofDigitChars_cons]
    exact Nat.le_trans (by omega) (ih _)

theorem int64?_toInt (n : Int64) : int64? n.toInt = some n := by
  have h1 := n.le_toInt
  have h2 := n.toInt_lt
  rw [int64?, if_pos ⟨by simp only [minInt64]; omega, by simp only [maxInt64]; omega⟩,
    Int64.ofInt_toInt]

theorem toInt_of_int64? {i : Int} {n : Int64} (h : int64? i = some n) : n.toInt = i := by
  unfold int64? at h
  split at h
  · rename_i hi
    cases h
    rw [Int64.toInt_ofInt_of_le (by simp only [minInt64] at hi; omega)
      (by simp only [maxInt64] at hi; omega)]
  · cases h

theorem int64?_eq_some_iff {i : Int} {n : Int64} : int64? i = some n ↔ n.toInt = i :=
  ⟨toInt_of_int64?, fun h => h ▸ int64?_toInt n⟩

theorem int64?_eq_none_iff {i : Int} : int64? i = none ↔ i < minInt64 ∨ maxInt64 < i := by
  rw [int64?, ite_eq_right_iff]
  simp only [reduceCtorEq, imp_false]
  omega

theorem int64_toList (n : Int64) :
    (toString n).toList =
      if n.toInt < 0 then '-' :: Nat.toDigits 10 n.toInt.natAbs
      else Nat.toDigits 10 n.toInt.natAbs := by
  change (toString n.toInt).toList = _
  cases n.toInt <;> simp [toString, Int.repr]

/-- A number is written in digits, with a minus sign in front if it is negative. -/
theorem mem_int64_toList {n : Int64} {c : Char} (h : c ∈ (toString n).toList) :
    c.isDigit = true ∨ c = '-' := by
  have hd (m : Nat) (hc : c ∈ Nat.toDigits 10 m) : c.isDigit = true :=
    Nat.isDigit_of_mem_toDigits (by decide) (by decide) hc
  rw [int64_toList] at h
  split at h
  · rcases List.mem_cons.mp h with rfl | h
    · exact .inr rfl
    · exact .inl (hd _ h)
  · exact .inl (hd _ h)

end DeviceConsole.Decimal
