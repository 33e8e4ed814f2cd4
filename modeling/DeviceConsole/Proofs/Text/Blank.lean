import DeviceConsole.Proofs.Decimal
import DeviceConsole.Text.Blank
import Mathlib.Data.List.TakeWhile

/-! Trimming: a text is its own trimmed form where neither of its ends is white space, and white
space around it does not matter. -/
namespace DeviceConsole.Text

theorem isBlank_of_isDigit {c : Char} (h : c.isDigit = true) : isBlank c = false := by
  obtain ⟨h1, h2⟩ := Decimal.digit_toNat h
  simp [isBlank, inRanges, blankRanges]
  omega

theorem dropWhile_isBlank {cs : List Char} (h : ∀ c, cs.head? = some c → isBlank c = false) :
    cs.dropWhile isBlank = cs := by
  cases cs with
  | nil => rfl
  | cons c cs => rw [List.dropWhile_cons, h c rfl]; rfl

/-- Where neither end is white space there is nothing to trim. -/
theorem trimChars_eq_self {cs : List Char} (hfirst : ∀ c, cs.head? = some c → isBlank c = false)
    (hlast : ∀ c, cs.getLast? = some c → isBlank c = false) : trimChars cs = cs := by
  have hrev : ∀ c, cs.reverse.head? = some c → isBlank c = false := by
    rwa [List.head?_reverse]
  rw [trimChars, dropEndWhile, dropWhile_isBlank hfirst, dropWhile_isBlank hrev,
    List.reverse_reverse]

theorem trimChars_of_not_blank {cs : List Char} (h : ∀ c ∈ cs, isBlank c = false) :
    trimChars cs = cs :=
  trimChars_eq_self (fun c hc => h c (List.mem_of_head? hc)) fun c hc =>
    h c (List.mem_of_getLast? hc)

theorem trimChars_cons_of_blank {c : Char} (h : isBlank c = true) (cs : List Char) :
    trimChars (c :: cs) = trimChars cs := by
  rw [trimChars, List.dropWhile_cons, if_pos h, trimChars]

theorem dropEndWhile_append_of_pos {p : Char → Bool} (cs : List Char) {after : List Char}
    (h : ∀ c ∈ after, p c = true) : dropEndWhile p (cs ++ after) = dropEndWhile p cs := by
  rw [dropEndWhile, List.reverse_append, List.dropWhile_append_of_pos (by simpa using h),
    dropEndWhile]

/-- White space around any text makes no difference to its trimmed form. -/
theorem trimChars_append_blank {before cs after : List Char}
    (hbefore : ∀ c ∈ before, isBlank c = true) (hafter : ∀ c ∈ after, isBlank c = true) :
    trimChars (before ++ cs ++ after) = trimChars cs := by
  rw [trimChars, List.append_assoc, List.dropWhile_append_of_pos hbefore, trimChars]
  induction cs with
  | nil =>
    rw [List.nil_append, ← List.append_nil after, List.dropWhile_append_of_pos hafter]
  | cons c cs ih =>
    rw [List.cons_append, List.dropWhile_cons, List.dropWhile_cons]
    split
    · exact ih
    · rw [← List.cons_append, dropEndWhile_append_of_pos _ hafter]

/-- White space around a text without any is what trimming takes away. -/
theorem trimChars_padded {before middle after : List Char}
    (hbefore : ∀ c ∈ before, isBlank c = true) (hmiddle : ∀ c ∈ middle, isBlank c = false)
    (hafter : ∀ c ∈ after, isBlank c = true) :
    trimChars (before ++ middle ++ after) = middle := by
  rw [trimChars_append_blank hbefore hafter, trimChars_of_not_blank hmiddle]

/-- What trimming takes away is white space. -/
theorem exists_padded (cs : List Char) : ∃ before after, (∀ c ∈ before, isBlank c = true) ∧
    (∀ c ∈ after, isBlank c = true) ∧ cs = before ++ trimChars cs ++ after := by
  let rest := (cs.dropWhile isBlank).reverse
  refine ⟨cs.takeWhile isBlank, (rest.takeWhile isBlank).reverse,
    fun c hc => List.mem_takeWhile_imp hc,
    fun c hc => List.mem_takeWhile_imp (List.mem_reverse.mp hc), ?_⟩
  have hrest : trimChars cs ++ (rest.takeWhile isBlank).reverse = cs.dropWhile isBlank := by
    rw [trimChars, dropEndWhile, ← List.reverse_append, List.takeWhile_append_dropWhile,
      List.reverse_reverse]
  rw [List.append_assoc, hrest, List.takeWhile_append_dropWhile]

theorem trimChars_eq_nil_iff {cs : List Char} :
    trimChars cs = [] ↔ ∀ c ∈ cs, isBlank c = true := by
  obtain ⟨before, after, hbefore, hafter, hcs⟩ := exists_padded cs
  constructor
  · intro h c hc
    rw [hcs, h, List.append_nil] at hc
    exact (List.mem_append.mp hc).elim (hbefore c) (hafter c)
  · intro h
    have hall : trimChars cs = trimChars (cs ++ [] ++ []) := by simp
    rw [hall, trimChars_padded h (by simp) (by simp)]

theorem mem_of_mem_trimChars {cs : List Char} {c : Char} (h : c ∈ trimChars cs) : c ∈ cs := by
  obtain ⟨before, after, -, -, hcs⟩ := exists_padded cs
  rw [hcs]
  exact List.mem_append_left _ (List.mem_append_right _ h)

theorem trimChars_trimChars (cs : List Char) : trimChars (trimChars cs) = trimChars cs := by
  obtain ⟨before, after, hbefore, hafter, hcs⟩ := exists_padded cs
  calc trimChars (trimChars cs)
      = trimChars (before ++ trimChars cs ++ after) := (trimChars_append_blank hbefore hafter).symm
    _ = trimChars cs := congrArg trimChars hcs.symm

theorem length_trimChars_le (cs : List Char) : (trimChars cs).length ≤ cs.length := by
  obtain ⟨before, after, -, -, hcs⟩ := exists_padded cs
  have hlength := congrArg List.length hcs
  simp only [List.length_append] at hlength
  omega

/-- What is left ends in no character that is to be dropped. -/
theorem getLast?_dropEndWhile {p : Char → Bool} {cs : List Char} {c : Char}
    (h : (dropEndWhile p cs).getLast? = some c) : p c = false := by
  rw [dropEndWhile, List.getLast?_reverse] at h
  simpa [h] using List.head?_dropWhile_not p cs.reverse

/-- A text is its own trimmed form exactly where neither of its ends is white space. -/
theorem trimChars_eq_self_iff {cs : List Char} : trimChars cs = cs ↔
    (∀ c, cs.head? = some c → isBlank c = false) ∧
      ∀ c, cs.getLast? = some c → isBlank c = false := by
  refine ⟨fun h => ⟨fun c hc => ?_, fun c hc => ?_⟩, fun h => trimChars_eq_self h.1 h.2⟩
  · -- With white space in front the trimmed form would be shorter.
    by_contra hblank
    obtain ⟨rest, rfl⟩ := List.head?_eq_some_iff.mp hc
    rw [trimChars_cons_of_blank (Bool.not_eq_false _ ▸ hblank)] at h
    have hlength := length_trimChars_le rest
    rw [h, List.length_cons] at hlength
    omega
  · rw [← h, trimChars] at hc
    exact getLast?_dropEndWhile hc

theorem trim_of_not_blank {s : String} (h : ∀ c ∈ s.toList, isBlank c = false) : trim s = s := by
  rw [trim, trimChars_of_not_blank h, String.ofList_toList]

theorem trim_eq_self_iff {s : String} : trim s = s ↔ trimChars s.toList = s.toList := by
  rw [trim, ← String.toList_inj, String.toList_ofList]

end DeviceConsole.Text
