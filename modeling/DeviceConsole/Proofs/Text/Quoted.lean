import DeviceConsole.Text.Quoted
import Mathlib.Data.List.Basic

/-! Quoting tells texts apart: no character is written as the beginning of another, so that a quoted
text is the writing of one text only. -/
namespace DeviceConsole.Text

/-! ### Hexadecimal numbers -/

/-- The last digit, and before it those of what is left of the number. -/
theorem hexDigits_eq (n : Nat) :
    Nat.toDigits 16 n = (if n < 16 then [] else Nat.toDigits 16 (n / 16)) ++
      [(n % 16).digitChar] := by
  rw [Nat.toDigits_eq_if (by decide)]
  split
  · rw [Nat.mod_eq_of_lt ‹_›, List.nil_append]
  · rfl

theorem digitChar_inj : ∀ m < 16, ∀ n < 16, m.digitChar = n.digitChar → m = n := by decide

theorem digitChar_ne_brace : ∀ n < 16, n.digitChar ≠ '}' := by decide

theorem brace_not_mem_hexDigits (n : Nat) : '}' ∉ Nat.toDigits 16 n := by
  induction n using Nat.strongRecOn with
  | ind n ih =>
    rw [hexDigits_eq, List.mem_append, List.mem_singleton]
    rintro (h | h)
    · split at h
      · cases h
      · exact ih (n / 16) (by omega) h
    · exact digitChar_ne_brace (n % 16) (Nat.mod_lt n (by decide)) h.symm

theorem hexDigits_inj {m n : Nat} (h : Nat.toDigits 16 m = Nat.toDigits 16 n) : m = n := by
  induction m using Nat.strongRecOn generalizing n with
  | ind m ih =>
    rw [hexDigits_eq m, hexDigits_eq n] at h
    obtain ⟨hfront, hlast⟩ := List.append_inj' h rfl
    have hmod : m % 16 = n % 16 :=
      digitChar_inj _ (Nat.mod_lt m (by decide)) _ (Nat.mod_lt n (by decide))
        (List.singleton_inj.mp hlast)
    split_ifs at hfront with hm hn hn
    · omega
    · exact absurd hfront.symm Nat.toDigits_ne_nil
    · exact absurd hfront Nat.toDigits_ne_nil
    · have hdiv := ih (m / 16) (by omega) hfront
      omega

/-- A mark that stands in neither beginning ends both. -/
theorem append_cons_inj {mark : Char} {as bs s t : List Char} (has : mark ∉ as) (hbs : mark ∉ bs)
    (h : as ++ mark :: s = bs ++ mark :: t) : as = bs ∧ s = t := by
  induction as generalizing bs with
  | nil =>
    cases bs with
    | nil => exact ⟨rfl, (List.cons.inj h).2⟩
    | cons b bs => exact absurd ((List.cons.inj h).1 ▸ List.mem_cons_self) hbs
  | cons a as ih =>
    cases bs with
    | nil => exact absurd ((List.cons.inj h).1 ▸ List.mem_cons_self) has
    | cons b bs =>
      obtain ⟨rfl, htail⟩ := List.cons.inj h
      obtain ⟨rfl, hrest⟩ := ih (List.not_mem_of_not_mem_cons has)
        (List.not_mem_of_not_mem_cons hbs) htail
      exact ⟨rfl, hrest⟩

/-! ### Characters -/

/-- The characters that have a letter of their own, each with its letter. -/
def letters : List (Char × Char) :=
  [('"', '"'), ('\\', '\\'), ('\n', 'n'), ('\r', 'r'), ('\t', 't'), ('\x00', '0')]

/-- The ways to write a character. -/
inductive Writes (c : Char) : List Char → Prop
  | plain (h : c ≠ '\\') : Writes c [c]
  | letter {e : Char} (h : (c, e) ∈ letters) : Writes c ['\\', e]
  | code : Writes c (codeEscape c)

theorem writes_quoteChar (c : Char) : Writes c (quoteChar c) := by
  unfold quoteChar
  split_ifs with hquote hbackslash hn hr ht hzero
  · exact .letter (by simp [letters, hquote])
  · exact .letter (by simp [letters, hbackslash])
  · exact .letter (by simp [letters, hn])
  · exact .letter (by simp [letters, hr])
  · exact .letter (by simp [letters, ht])
  · exact .letter (by simp [letters, hzero])
  · exact .plain hbackslash
  · exact .code
  · exact .plain hbackslash

theorem letters_inj : ∀ p ∈ letters, ∀ q ∈ letters, p.2 = q.2 → p.1 = q.1 := by decide

/-- The letter of a code point is none of the others. -/
theorem letters_ne_u : ∀ p ∈ letters, p.2 ≠ 'u' := by decide

theorem codeEscape_append_inj {c d : Char} {s t : List Char}
    (h : codeEscape c ++ s = codeEscape d ++ t) : c = d ∧ s = t := by
  have hdigits : Nat.toDigits 16 c.toNat ++ '}' :: s = Nat.toDigits 16 d.toNat ++ '}' :: t := by
    simpa [codeEscape] using h
  obtain ⟨hcode, hrest⟩ :=
    append_cons_inj (brace_not_mem_hexDigits _) (brace_not_mem_hexDigits _) hdigits
  exact ⟨Char.toNat_inj.mp (hexDigits_inj hcode), hrest⟩

/-- A writing of one character is no beginning of a writing of another. -/
theorem Writes.append_inj {c d : Char} {as bs s t : List Char} (h : Writes c as) (h' : Writes d bs)
    (heq : as ++ s = bs ++ t) : c = d ∧ s = t := by
  cases h with
  | plain hc =>
    cases h' with
    | plain _ => exact List.cons.inj heq
    | letter _ | code => exact absurd (List.cons.inj heq).1 hc
  | letter he =>
    cases h' with
    | plain hd => exact absurd (List.cons.inj heq).1.symm hd
    | letter hf =>
      obtain ⟨-, hletter⟩ := List.cons.inj heq
      obtain ⟨hletter, hrest⟩ := List.cons.inj hletter
      exact ⟨letters_inj _ he _ hf hletter, hrest⟩
    | code => exact absurd (List.cons.inj (List.cons.inj heq).2).1 (letters_ne_u _ he)
  | code =>
    cases h' with
    | plain hd => exact absurd (List.cons.inj heq).1.symm hd
    | letter hf => exact absurd (List.cons.inj (List.cons.inj heq).2).1.symm (letters_ne_u _ hf)
    | code => exact codeEscape_append_inj heq

theorem quoteChar_ne_nil (c : Char) : quoteChar c ≠ [] := by
  intro h
  have hwrites := writes_quoteChar c
  rw [h] at hwrites
  cases hwrites

/-! ### Texts -/

theorem flatMap_quoteChar_inj {s t : List Char} (h : s.flatMap quoteChar = t.flatMap quoteChar) :
    s = t := by
  induction s generalizing t with
  | nil =>
    cases t with
    | nil => rfl
    | cons d t => simp [quoteChar_ne_nil] at h
  | cons c s ih =>
    cases t with
    | nil => simp [quoteChar_ne_nil] at h
    | cons d t =>
      obtain ⟨hchar, hrest⟩ := (writes_quoteChar c).append_inj (writes_quoteChar d) h
      rw [hchar, ih hrest]

theorem quote_injective : Function.Injective quote := by
  intro s t h
  obtain ⟨-, hinner⟩ := List.cons.inj (String.ofList_injective h)
  exact String.toList_inj.mp (flatMap_quoteChar_inj (List.append_cancel_right hinner))

end DeviceConsole.Text
