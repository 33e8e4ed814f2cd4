import DeviceConsole.Text.LowerCase

/-! Lower case. The lower case of a character is no upper-case letter of ASCII, so within ASCII to
lower a character twice is to lower it once. -/
namespace DeviceConsole.Text

/-- No letter outside ASCII has an upper-case letter of ASCII for its lower case. -/
theorem lowerRuns_above : ∀ r ∈ lowerRuns, 91 ≤ (r.1 : Int) + r.2.2.2 := by
  decide +kernel

theorem toNat_ofNat (n : Nat) : (Char.ofNat n).toNat = n ∨ (Char.ofNat n).toNat = 0 := by
  by_cases h : n.isValidChar
  · exact .inl (congrArg Char.toNat (dif_pos h))
  · exact .inr (congrArg Char.toNat (dif_neg h))

def IsUpper (c : Char) : Prop := 65 ≤ c.toNat ∧ c.toNat ≤ 90

theorem toLower_of_not_isUpper {c : Char} (h : ¬ IsUpper c) : c.toLower = c := by
  refine dif_neg fun hval => h ?_
  simp only [ge_iff_le, UInt32.le_iff_toNat_le] at hval
  exact hval

theorem not_isUpper_toLower (c : Char) : ¬ IsUpper c.toLower := by
  by_cases h : IsUpper c
  · obtain ⟨hlow, hhigh⟩ := h
    have hlower : c.toLower.toNat = c.toNat + 32 := by
      have hval : c.val ≥ 'A'.val ∧ c.val ≤ 'Z'.val := by
        simp only [ge_iff_le, UInt32.le_iff_toNat_le]
        exact ⟨hlow, hhigh⟩
      have hadd : (c.val + ('a'.val - 'A'.val)).toNat = c.toNat + 32 := by
        rw [UInt32.toNat_add]
        exact Nat.mod_eq_of_lt (show c.toNat + 32 < 4294967296 by omega)
      exact (congrArg Char.toNat (dif_pos hval)).trans hadd
    unfold IsUpper
    omega
  · rwa [toLower_of_not_isUpper h]

theorem lowerChar_of_not_isUpper {c : Char} (h : c.toNat < 0x80) (hc : ¬ IsUpper c) :
    lowerChar c = c := by
  rw [lowerChar, if_pos h, toLower_of_not_isUpper hc]

theorem not_isUpper_lowerChar {c : Char} (h : (lowerChar c).toNat < 0x80) :
    ¬ IsUpper (lowerChar c) := by
  unfold lowerChar at h ⊢
  split
  · exact not_isUpper_toLower c
  · rename_i hascii
    simp only [if_neg hascii] at h ⊢
    split
    · rename_i r hr
      have hrun := lowerRuns_above r (List.mem_of_find?_eq_some hr)
      have hfound := List.find?_some hr
      simp only [Bool.and_eq_true, decide_eq_true_eq] at hfound
      have hvalue := toNat_ofNat ((c.toNat : Int) + r.2.2.2).toNat
      unfold IsUpper
      omega
    · rename_i hnone
      simp only [hnone] at h
      omega

theorem lowerChar_lowerChar {c : Char} (h : (lowerChar c).toNat < 0x80) :
    lowerChar (lowerChar c) = lowerChar c :=
  lowerChar_of_not_isUpper h (not_isUpper_lowerChar h)

end DeviceConsole.Text
