import DeviceConsole.Proofs.Toml.Text
import DeviceConsole.Settings.File

/-! The lines that settings are stored in, read back as statements. -/
namespace DeviceConsole.Toml

open Settings (valueText? line?)

/-- What is stored after an equals sign: a text, a truth value or a number. -/
def IsStorable : Json → Prop
  | .str _ => True
  | .bool _ => True
  | .int i => 0 ≤ i
  | _ => False

/-- A word of letters and digits at the end of a line. -/
theorem readValue?_word_eq {word : List Char} (hne : word ≠ [])
    (hword : ∀ c ∈ word, c.isAlphanum = true) (fuel : Nat) (rest : List Char) :
    readValue? (fuel + 1) depthLimit (word ++ '\n' :: rest) =
      (token? word).map fun j => (j, '\n' :: rest) := by
  have htoken : ∀ c ∈ word, isTokenChar c = true := fun c hc => by simp [isTokenChar, hword c hc]
  have hend : isTokenChar '\n' = false := rfl
  have hsplit : splitToken (word ++ '\n' :: rest) = (word, '\n' :: rest) := by
    rw [splitToken, List.takeWhile_append_of_pos htoken, List.dropWhile_append_of_pos htoken]
    simp [hend]
  obtain ⟨c, cs, rfl⟩ := List.exists_cons_of_ne_nil hne
  have hc := hword c (by simp)
  have hother (d : Char) (hd : d.isAlphanum = false) : c ≠ d := by
    rintro rfl
    rw [hc] at hd
    exact Bool.noConfusion hd
  rw [List.cons_append] at hsplit ⊢
  simp only [readValue?, hother '"' rfl, hother '\x27' rfl, hother '[' rfl, hother '\x7b' rfl,
    decide_false, Bool.or_self, Bool.false_eq_true, ↓reduceIte, hsplit]
  cases token? (c :: cs) <;> rfl

theorem readValue?_word {word rest : List Char} {j : Json} {fuel : Nat} (hne : word ≠ [])
    (hword : ∀ c ∈ word, c.isAlphanum = true) (ht : token? word = some j) :
    readValue? (fuel + 1) depthLimit (word ++ '\n' :: rest) = some (j, '\n' :: rest) := by
  rw [readValue?_word_eq hne hword, ht]
  rfl

theorem token?_toDigits {n : Nat} {j : Json} (h : int? n = some j) :
    token? (Nat.toDigits 10 n) = some j := by
  have hne {c : Char} {cs : List Char} (hc : c.isDigit = false) :
      Nat.toDigits 10 n ≠ c :: cs := by
    intro he
    have := isDigit_of_mem (n := n) (c := c) (he ▸ List.mem_cons_self)
    rw [hc] at this
    exact Bool.noConfusion this
  rw [token?, if_neg (hne rfl), if_neg (hne rfl), number?_toDigits h]
  rfl

theorem toString_int64?_toList {m : Nat} {n : Int64} (h : Decimal.int64? m = some n) :
    (toString n).toList = Nat.toDigits 10 m := by
  change (toString n.toInt).toList = _
  rw [Decimal.toInt_of_int64? h, Int.toString_eq_repr, Int.repr_eq_if,
    if_pos (Int.natCast_nonneg m)]
  simp

theorem readValue?_valueText {j : Json} (hj : IsStorable j) {value : String}
    (hv : valueText? j = some value) (fuel : Nat) (rest : List Char) :
    readValue? (fuel + 1) depthLimit (value.toList ++ '\n' :: rest) = some (j, '\n' :: rest) := by
  cases j with
  | str s =>
    obtain rfl := Option.some.inj hv
    have hread := readString?_quote s rest
    rw [quote_toList, List.cons_append] at hread ⊢
    rw [readValue?, if_pos (by decide), hread]
    rfl
  | bool b =>
    obtain rfl := Option.some.inj hv
    cases b <;> exact readValue?_word (by decide) (List.all_eq_true.mp (by decide)) rfl
  | int i =>
    obtain ⟨n, hn, rfl⟩ := Option.map_eq_some_iff.mp hv
    obtain ⟨m, rfl⟩ := Int.eq_ofNat_of_zero_le hj
    have hint : int? m = some (.int m) := by
      rw [int?, hn, ← Decimal.toInt_of_int64? hn]
      rfl
    rw [toString_int64?_toList hn]
    have hdigit : ∀ c ∈ Nat.toDigits 10 m, c.isAlphanum = true := fun c hc => by
      simp [Char.isAlphanum, isDigit_of_mem hc]
    exact readValue?_word Nat.toDigits_ne_nil hdigit (token?_toDigits hint)
  | _ => exact absurd hj id

theorem valueText?_head {j : Json} (hj : IsStorable j) {value : String}
    (hv : valueText? j = some value) : ∃ c cs, value.toList = c :: cs ∧ isSpace c = false := by
  cases j with
  | str s =>
    obtain rfl := Option.some.inj hv
    exact ⟨'"', _, quote_toList s, rfl⟩
  | bool b =>
    obtain rfl := Option.some.inj hv
    cases b
    · exact ⟨'f', _, rfl, rfl⟩
    · exact ⟨'t', _, rfl, rfl⟩
  | int i =>
    obtain ⟨n, hn, rfl⟩ := Option.map_eq_some_iff.mp hv
    obtain ⟨m, rfl⟩ := Int.eq_ofNat_of_zero_le hj
    rw [toString_int64?_toList hn]
    obtain ⟨c, cs, hcs⟩ := List.exists_cons_of_ne_nil (Nat.toDigits_ne_nil (b := 10) (n := m))
    refine ⟨c, cs, hcs, ?_⟩
    have hd : c.isDigit = true := isDigit_of_mem (hcs ▸ List.mem_cons_self)
    simp [isSpace, Decimal.ne_of_isDigit hd (by decide : ' '.isDigit = false),
      Decimal.ne_of_isDigit hd (by decide : '\t'.isDigit = false)]
  | _ => exact absurd hj id

/-! ### Keys -/

/-- A key that is written without quotes. -/
def IsBareKey (key : String) : Prop := key.toList ≠ [] ∧ key.toList.all isBare = true

instance (key : String) : Decidable (IsBareKey key) :=
  inferInstanceAs (Decidable (key.toList ≠ [] ∧ key.toList.all isBare = true))

theorem IsBareKey.isBare {key : String} (h : IsBareKey key) {c : Char} (hc : c ∈ key.toList) :
    isBare c = true :=
  List.all_eq_true.mp h.2 c hc

theorem isBare_ne {c d : Char} (hc : isBare c = true) (hd : isBare d = false) : c ≠ d := by
  rintro rfl
  rw [hc] at hd
  exact Bool.noConfusion hd

theorem skipSpace_cons {c : Char} {cs : List Char} (h : isSpace c = false) :
    skipSpace (c :: cs) = c :: cs := by
  simp [skipSpace, h]

theorem readPart?_bare {key : String} (hk : IsBareKey key) {c : Char} (hc : isBare c = false)
    (rest : List Char) : readPart? (key.toList ++ c :: rest) = some (key, c :: rest) := by
  have hbare : ∀ c ∈ key.toList, isBare c = true := fun _ hc => hk.isBare hc
  obtain ⟨d, ds, hd⟩ := List.exists_cons_of_ne_nil hk.1
  have hfirst : isBare d = true := hbare d (hd ▸ List.mem_cons_self)
  unfold readPart?
  split
  · rename_i heq
    rw [hd] at heq
    exact absurd (List.cons.inj heq).1 (isBare_ne hfirst (by decide))
  · rename_i heq
    rw [hd] at heq
    exact absurd (List.cons.inj heq).1 (isBare_ne hfirst (by decide))
  · rw [List.takeWhile_append_of_pos hbare, List.dropWhile_append_of_pos hbare]
    simp [hc, hk.1]

theorem readKey?_last {cs rest : List Char} {key : String} {c : Char} {fuel : Nat}
    (h : readPart? cs = some (key, rest)) (hrest : ∃ tail, skipSpace rest = c :: tail)
    (hc : c ≠ '.') : readKey? (fuel + 1) cs = some (([], key), skipSpace rest) := by
  obtain ⟨tail, ht⟩ := hrest
  rw [readKey?, h]
  simp only [Option.bind_eq_bind, Option.bind_some]
  split
  · rename_i heq
    rw [ht] at heq
    exact absurd (List.cons.inj heq).1 hc
  · rfl

theorem readKey?_dotted {cs rest : List Char} {part : String} {fuel : Nat}
    (h : readPart? cs = some (part, '.' :: rest)) :
    readKey? (fuel + 1) cs =
      (readKey? fuel (skipSpace rest)).map fun r => ((part :: r.1.1, r.1.2), r.2) := by
  rw [readKey?, h]
  simp only [Option.bind_eq_bind, Option.bind_some, skipSpace_cons (by rfl : isSpace '.' = false)]
  rw [Option.map_eq_bind]
  rfl

/-! ### Lines -/

theorem readLine?_blank (rest : List Char) : readLine? ('\n' :: rest) = some (none, rest) := rfl

theorem exists_length_append (cs ds : List Char) (c : Char) :
    ∃ n, (cs ++ c :: ds).length = n + 1 := ⟨cs.length + ds.length, by simp; omega⟩

theorem readAssignment?_eq {key : String} (hk : IsBareKey key) {value : List Char}
    (hv : skipSpace value = value) :
    readAssignment? (key.toList ++ ' ' :: '=' :: ' ' :: value) =
      (readValue? (value.length + 2) depthLimit value).map fun r => (.assign [] key r.1, r.2) := by
  obtain ⟨n, hn⟩ := exists_length_append key.toList ('=' :: ' ' :: value) ' '
  have hpart := readPart?_bare hk (by rfl : isBare ' ' = false) ('=' :: ' ' :: value)
  have hkey : readKey? (n + 1) (key.toList ++ ' ' :: '=' :: ' ' :: value) =
      some (([], key), '=' :: ' ' :: value) :=
    readKey?_last hpart ⟨_, rfl⟩ (by decide)
  have hskip : skipSpace (' ' :: value) = value := hv
  rw [readAssignment?, hn, hkey]
  simp only [Option.bind_eq_bind, Option.bind_some, hskip]
  rw [Option.map_eq_bind]
  rfl

theorem readAssignment?_line {key : String} (hk : IsBareKey key) {j : Json} (hj : IsStorable j)
    {value : String} (hv : valueText? j = some value) (rest : List Char) :
    readAssignment? (key.toList ++ ' ' :: '=' :: ' ' :: (value.toList ++ '\n' :: rest)) =
      some (.assign [] key j, '\n' :: rest) := by
  obtain ⟨c, cs, hc, hspace⟩ := valueText?_head hj hv
  have hskip : skipSpace (value.toList ++ '\n' :: rest) = value.toList ++ '\n' :: rest := by
    rw [hc]
    exact skipSpace_cons hspace
  rw [readAssignment?_eq hk hskip, readValue?_valueText hj hv]
  rfl

theorem newline?_cons {c : Char} {cs : List Char} (hn : c ≠ '\n') (hr : c ≠ '\r') :
    newline? (c :: cs) = none := by
  unfold newline?
  split
  · rename_i heq
    exact absurd (List.cons.inj heq).1 hn
  · rename_i heq
    exact absurd (List.cons.inj heq).1 hr
  · rfl

theorem skipSpace_bare {key : String} (hk : IsBareKey key) (rest : List Char) :
    skipSpace (key.toList ++ rest) = key.toList ++ rest := by
  obtain ⟨c, cs, hc⟩ := List.exists_cons_of_ne_nil hk.1
  have hne (d : Char) (hd : isBare d = false) : c ≠ d :=
    isBare_ne (hk.isBare (hc ▸ List.mem_cons_self)) hd
  rw [hc]
  exact skipSpace_cons (by simp [isSpace, hne ' ' rfl, hne '\t' rfl])

theorem endOfLine?_cons {c : Char} {cs : List Char} (hs : isSpace c = false) (hh : c ≠ '#') :
    endOfLine? (c :: cs) = newline? (c :: cs) := by
  unfold endOfLine?
  rw [skipSpace_cons hs]
  simp only [List.cons.injEq, hh, false_and, imp_self, implies_true]

/-- A line that starts with a bare key is no blank line and no header. -/
theorem readLine?_bare {key : String} (hk : IsBareKey key) (rest : List Char) :
    readLine? (key.toList ++ rest) =
      (readAssignment? (key.toList ++ rest)).bind fun r =>
        (endOfLine? r.2).map fun rest => (some r.1, rest) := by
  obtain ⟨c, cs, hc⟩ := List.exists_cons_of_ne_nil hk.1
  have hne (d : Char) (hd : isBare d = false) : c ≠ d :=
    isBare_ne (hk.isBare (hc ▸ List.mem_cons_self)) hd
  have hend : endOfLine? (key.toList ++ rest) = none := by
    rw [hc]
    exact (endOfLine?_cons (by simp [isSpace, hne ' ' rfl, hne '\t' rfl]) (hne '#' rfl)).trans
      (newline?_cons (hne '\n' rfl) (hne '\r' rfl))
  unfold readLine?
  rw [skipSpace_bare hk]
  split
  · rename_i heq
    rw [hc] at heq
    exact absurd (List.cons.inj heq).1 (hne '[' rfl)
  · rw [hend]
    cases readAssignment? (key.toList ++ rest) with
    | none => rfl
    | some r =>
      cases h : endOfLine? r.2 <;> simp [h]

theorem readLine?_assign {e : String × Json} (hk : IsBareKey e.1) (hj : IsStorable e.2)
    {line : String} (hl : line? e = some line) (rest : List Char) :
    readLine? (line.toList ++ rest) = some (some (.assign [] e.1 e.2), rest) := by
  obtain ⟨value, hv, rfl⟩ := Option.map_eq_some_iff.mp hl
  have hline : (e.1 ++ " = " ++ value ++ "\n").toList ++ rest =
      e.1.toList ++ ' ' :: '=' :: ' ' :: (value.toList ++ '\n' :: rest) := by
    simp
  have hend : endOfLine? ('\n' :: rest) = some rest := rfl
  rw [hline, readLine?_bare hk, readAssignment?_line hk hj hv, Option.bind_some, hend]
  rfl

theorem readLine?_header {cs rest : List Char} {path : List String} {key : String}
    (hopen : ∀ tail, cs ≠ '[' :: tail) (hskip : skipSpace cs = cs)
    (hkey : readKey? cs.length cs = some ((path, key), ']' :: '\n' :: rest)) :
    readLine? ('[' :: cs) = some (some (.openTable path key), rest) := by
  have hend : endOfLine? ('\n' :: rest) = some rest := rfl
  have hheader : readHeader? cs = some (.openTable path key, '\n' :: rest) := by
    unfold readHeader?
    split
    · exact absurd rfl (hopen _)
    · rw [hskip, hkey]
      rfl
  change (readHeader? cs).bind _ = _
  rw [hheader]
  simp [hend]

theorem bare_ne_bracket {key : String} (hk : IsBareKey key) (rest tail : List Char) :
    key.toList ++ rest ≠ '[' :: tail := by
  obtain ⟨c, cs, hc⟩ := List.exists_cons_of_ne_nil hk.1
  rw [hc]
  intro h
  exact isBare_ne (hk.isBare (hc ▸ List.mem_cons_self)) (by rfl : isBare '[' = false)
    (List.cons.inj h).1

theorem readLine?_table {key : String} (hk : IsBareKey key) (rest : List Char) :
    readLine? ('[' :: (key.toList ++ ']' :: '\n' :: rest)) =
      some (some (.openTable [] key), rest) := by
  apply readLine?_header (bare_ne_bracket hk _) (skipSpace_bare hk _)
  obtain ⟨n, hn⟩ := exists_length_append key.toList ('\n' :: rest) ']'
  rw [hn]
  exact readKey?_last (readPart?_bare hk rfl _) ⟨_, rfl⟩ (by decide)

/-- The header of a table within another, its own name quoted. -/
theorem readLine?_subtable {part : String} (hk : IsBareKey part) (key : String)
    (rest : List Char) :
    readLine? ('[' :: (part.toList ++ '.' :: ((quote key).toList ++ ']' :: '\n' :: rest))) =
      some (some (.openTable [part] key), rest) := by
  apply readLine?_header (bare_ne_bracket hk _) (skipSpace_bare hk _)
  obtain ⟨n, hn⟩ : ∃ n, (part.toList ++ '.' :: ((quote key).toList ++ ']' :: '\n' :: rest)).length =
      n + 1 + 1 := by
    refine ⟨part.toList.length + (quote key).toList.length + rest.length + 1, ?_⟩
    simp only [List.length_append, List.length_cons]
    omega
  have hskip : skipSpace ((quote key).toList ++ ']' :: '\n' :: rest) =
      (quote key).toList ++ ']' :: '\n' :: rest := by
    rw [quote_toList]
    rfl
  have hlast : readKey? (n + 1) ((quote key).toList ++ ']' :: '\n' :: rest) =
      some (([], key), ']' :: '\n' :: rest) :=
    readKey?_last (readPart?_quote key _) ⟨_, rfl⟩ (by decide)
  rw [hn, readKey?_dotted (readPart?_bare hk rfl _), hskip, hlast]
  rfl

/-! ### Statements -/

/-- The text reads as these statements whenever the fuel exceeds its length. -/
def Reads (cs : List Char) (statements : List Statement) : Prop :=
  ∀ fuel, cs.length < fuel → readStatements? fuel cs = some statements

theorem Reads.nil : Reads [] [] := by
  intro fuel _
  cases fuel <;> rfl

theorem Reads.line {cs rest : List Char} {s : Option Statement} {statements : List Statement}
    (hlen : rest.length < cs.length) (hline : readLine? cs = some (s, rest))
    (h : Reads rest statements) : Reads cs (s.toList ++ statements) := by
  intro fuel hf
  obtain ⟨fuel, rfl⟩ := Nat.exists_eq_add_one_of_ne_zero (by omega : fuel ≠ 0)
  cases cs with
  | nil => simp at hlen
  | cons c cs =>
    rw [readStatements?.eq_3 _ _ (by simp), hline]
    simp [h fuel (by simp only [List.length_cons] at hf hlen; omega)]

theorem mapM_cons_eq_some {α β : Type} {f : α → Option β} {a : α} {as : List α} {bs : List β}
    (h : (a :: as).mapM f = some bs) :
    ∃ b bs', f a = some b ∧ as.mapM f = some bs' ∧ b :: bs' = bs := by
  simp only [List.mapM_cons, Option.bind_eq_bind, Option.bind_eq_some_iff] at h
  obtain ⟨b, hb, bs', hbs, h⟩ := h
  exact ⟨b, bs', hb, hbs, Option.some.inj h⟩

/-- The assignments that entries are stored as. -/
def assigns (entries : List (String × Json)) : List Statement :=
  entries.map fun e => .assign [] e.1 e.2

theorem Reads.lines {entries : List (String × Json)} {text : String}
    (hk : ∀ e ∈ entries, IsBareKey e.1) (hj : ∀ e ∈ entries, IsStorable e.2)
    (ht : Settings.lines? entries = some text) {rest : List Char} {statements : List Statement}
    (h : Reads rest statements) : Reads (text.toList ++ rest) (assigns entries ++ statements) := by
  obtain ⟨lines, hl, rfl⟩ := Option.map_eq_some_iff.mp ht
  clear ht
  induction entries generalizing lines with
  | nil =>
    obtain rfl : lines = [] := by simpa using hl.symm
    simpa [assigns] using h
  | cons e entries ih =>
    obtain ⟨line, lines, hline, hrest, rfl⟩ := mapM_cons_eq_some hl
    have htail := ih (fun e he => hk e (by simp [he])) (fun e he => hj e (by simp [he]))
      lines hrest
    have hread := readLine?_assign (hk e (by simp)) (hj e (by simp)) hline
      ((String.join lines).toList ++ rest)
    have hpos : 0 < line.toList.length := by
      obtain ⟨value, -, rfl⟩ := Option.map_eq_some_iff.mp hline
      have hend : "\n".toList.length = 1 := rfl
      simp only [String.toList_append, List.length_append, hend]
      omega
    rw [String.join_cons, String.toList_append, List.append_assoc]
    exact Reads.line (by simp only [List.length_append]; omega) hread htail

theorem Reads.headed {header : String} {path : List String} {key : String}
    {entries : List (String × Json)} {text : String}
    (hheader : ∀ rest, readLine? ('[' :: (header.toList ++ ']' :: '\n' :: rest)) =
      some (some (.openTable path key), rest))
    (hk : ∀ e ∈ entries, IsBareKey e.1) (hj : ∀ e ∈ entries, IsStorable e.2)
    (ht : Settings.headed? header entries = some text) {rest : List Char}
    {statements : List Statement} (h : Reads rest statements) :
    Reads (text.toList ++ rest) (.openTable path key :: (assigns entries ++ statements)) := by
  obtain ⟨body, hbody, rfl⟩ := Option.map_eq_some_iff.mp ht
  have htext : ("\n[" ++ header ++ "]\n" ++ body).toList ++ rest =
      '\n' :: '[' :: (header.toList ++ ']' :: '\n' :: (body.toList ++ rest)) := by
    simp
  rw [htext]
  have hlines := Reads.lines hk hj hbody h
  have htable := Reads.line (by simp; omega) (hheader (body.toList ++ rest)) hlines
  exact Reads.line (by simp) (readLine?_blank _) htable

end DeviceConsole.Toml
