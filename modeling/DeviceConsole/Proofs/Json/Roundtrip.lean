import DeviceConsole.Proofs.Json.Text

/-! Reading inverts compact printing: a value whose parts are all wanted, nested no deeper than the
reader goes and free of doubles, is read back from its text as it was. -/
namespace DeviceConsole.Json

mutual

/-- What the reader takes over unchanged: integers of 64 bits, texts and containers only where they
are wanted, containers only as deep as allowed. -/
def Fits : Nat → Want → Json → Prop
  | _, _, null => True
  | _, _, bool _ => True
  | _, _, int i => -(twoTo 63 : Int) ≤ i ∧ i ≤ significandLimit
  | _, _, float _ => False
  | _, want, str _ => want.isNothing = false
  | depth, want, arr items =>
      want.isNothing = false ∧ 0 < depth ∧ FitsItems (depth - 1) want 0 items
  | depth, want, obj fields =>
      want.isNothing = false ∧ 0 < depth ∧ FitsFields (depth - 1) want fields

def FitsItems : Nat → Want → Nat → List Json → Prop
  | _, _, _, [] => True
  | depth, want, i, j :: js => Fits depth (want.ofItem i) j ∧ FitsItems depth want (i + 1) js

def FitsFields : Nat → Want → List (String × Json) → Prop
  | _, _, [] => True
  | depth, want, (k, j) :: fs => Fits depth (want.ofField k) j ∧ FitsFields depth want fs

end

/-! ### Text of the parts -/

/-- The comma that stands before every part but the first. -/
def separator (first : Bool) : List Char := if first then [] else [',']

def itemsText (first : Bool) : List Json → List Char
  | [] => [']']
  | j :: js => separator first ++ (compact j).toList ++ itemsText false js

def fieldText (f : String × Json) : List Char :=
  '"' :: (f.1.toList.flatMap escapeChar ++ '"' :: ':' :: (compact f.2).toList)

def fieldsText (first : Bool) : List (String × Json) → List Char
  | [] => ['\x7d']
  | f :: fs => separator first ++ fieldText f ++ fieldsText false fs

theorem itemsText_false (js : List Json) :
    itemsText false js =
      (compact.compactItems js).flatMap (fun s => ',' :: s.toList) ++ [']'] := by
  induction js with
  | nil => rfl
  | cons j js ih => simp [itemsText, separator, compact.compactItems, ih]

theorem intercalate_comma (s : String) (ss : List String) :
    (",".intercalate (s :: ss)).toList = s.toList ++ ss.flatMap (fun s => ',' :: s.toList) := by
  induction ss generalizing s with
  | nil => simp
  | cons t ts ih => simp [String.intercalate_cons_cons, ih]

theorem compact_arr_toList (items : List Json) :
    (compact (.arr items)).toList = '[' :: itemsText true items := by
  cases items with
  | nil => simp [compact, bracket, compact.compactItems, itemsText]
  | cons j js =>
    rw [compact, bracket, compact.compactItems, String.toList_append, String.toList_append,
      intercalate_comma, itemsText, itemsText_false]
    simp [separator]

theorem fieldsText_false (fs : List (String × Json)) :
    fieldsText false fs =
      (compact.compactFields fs).flatMap (fun s => ',' :: s.toList) ++ ['\x7d'] := by
  induction fs with
  | nil => rfl
  | cons f fs ih =>
    simp [fieldsText, fieldText, separator, compact.compactFields, stringText_toList, ih]

theorem compact_obj_toList (fields : List (String × Json)) :
    (compact (.obj fields)).toList = '\x7b' :: fieldsText true fields := by
  cases fields with
  | nil => simp [compact, bracket, compact.compactFields, fieldsText]
  | cons f fs =>
    rw [compact, bracket, compact.compactFields, String.toList_append, String.toList_append,
      intercalate_comma, fieldsText, fieldsText_false]
    simp [separator, fieldText, stringText_toList]

theorem itemsText_closes {js : List Json} {rest : List Char} :
    Closes (itemsText false js ++ rest) := by
  cases js <;> simp [itemsText, separator, Closes]

theorem fieldsText_closes {fs : List (String × Json)} {rest : List Char} :
    Closes (fieldsText false fs ++ rest) := by
  cases fs <;> simp [fieldsText, separator, Closes]

theorem itemsText_length_pos (js : List Json) : 0 < (itemsText false js).length := by
  cases js <;> simp [itemsText, separator]

theorem fieldsText_length_pos (fs : List (String × Json)) :
    0 < (fieldsText false fs).length := by
  cases fs <;> simp [fieldsText, separator]

/-- A value starts neither with a blank nor with a closing bracket. -/
theorem compact_head {depth : Nat} {want : Want} {j : Json} (h : Fits depth want j) :
    ∃ c cs, (compact j).toList = c :: cs ∧ isSpace c = false ∧ c ≠ ']' := by
  cases j with
  | null => exact ⟨'n', ['u', 'l', 'l'], by simp [compact], by decide, by decide⟩
  | bool b =>
    cases b
    · exact ⟨'f', ['a', 'l', 's', 'e'], by simp [compact], by decide, by decide⟩
    · exact ⟨'t', ['r', 'u', 'e'], by simp [compact], by decide, by decide⟩
  | int i =>
    rw [compact_int_toList]
    split_ifs with hi
    · cases hds : Nat.toDigits 10 i.toNat with
      | nil => exact absurd hds Nat.toDigits_ne_nil
      | cons c cs =>
        have hc : c.isDigit = true :=
          Nat.isDigit_of_mem_toDigits (by decide) (by decide) (hds ▸ List.mem_cons_self)
        refine ⟨c, cs, rfl, ?_, Decimal.ne_of_isDigit hc (by decide)⟩
        have hne (d : Char) (hd : d.isDigit = false) := Decimal.ne_of_isDigit hc hd
        simp [isSpace, hne ' ' (by decide), hne '\n' (by decide), hne '\t' (by decide),
          hne '\r' (by decide)]
    · exact ⟨'-', _, rfl, by decide, by decide⟩
  | float x => simp [Fits] at h
  | str s => exact ⟨'"', _, stringText_toList s, by decide, by decide⟩
  | arr items => exact ⟨'[', _, compact_arr_toList items, by decide, by decide⟩
  | obj fields => exact ⟨'\x7b', _, compact_obj_toList fields, by decide, by decide⟩

theorem skipSpace_cons {c : Char} {cs : List Char} (h : isSpace c = false) :
    skipSpace (c :: cs) = c :: cs := by simp [skipSpace, h]

/-! ### Reading back -/

theorem readNumber_positive (wanted : Bool) {i : Int} {rest : List Char} (h0 : 0 ≤ i)
    (hi : i ≤ significandLimit) (hr : Closes rest) :
    readNumber wanted true (Nat.toDigits 10 i.toNat ++ rest) = .ok (int i, rest) := by
  rw [readNumber_toDigits (by omega) hr, readAfterInteger_closes hr, if_pos rfl,
    Int.toNat_of_nonneg h0]

theorem readNumber_negative (wanted : Bool) {i : Int} {rest : List Char} (h0 : i < 0)
    (hi : -(twoTo 63 : Int) ≤ i) (hr : Closes rest) :
    readNumber wanted false (Nat.toDigits 10 (-i).toNat ++ rest) = .ok (int i, rest) := by
  have hn : (-i).toNat ≠ 0 ∧ (-i).toNat ≤ twoTo 63 := by omega
  have hle : twoTo 63 ≤ significandLimit := by decide
  rw [readNumber_toDigits (by omega) hr, readAfterInteger_closes hr, if_neg (by simp),
    if_neg (by simp only [Bool.or_eq_true, decide_eq_true_eq]; omega)]
  congr
  omega

mutual

theorem readValue_compact (j : Json) (fuel depth : Nat) (want : Want) (rest : List Char)
    (hf : Fits depth want j) (hr : Closes rest) (hfuel : (compact j).toList.length < fuel) :
    readValue fuel depth want ((compact j).toList ++ rest) = .ok (j, rest) := by
  obtain ⟨fuel, rfl⟩ := Nat.exists_eq_add_one_of_ne_zero (by omega : fuel ≠ 0)
  match j with
  | .null => simp [compact, readValue, skipSpace, isSpace, readKeyword]
  | .bool b => cases b <;> simp [compact, readValue, skipSpace, isSpace, readKeyword]
  | .int i =>
    obtain ⟨hlow, hhigh⟩ : -(twoTo 63 : Int) ≤ i ∧ i ≤ significandLimit := by simpa [Fits] using hf
    rw [compact_int_toList]
    split_ifs with hi
    · have hread := readNumber_positive (!want.isNothing) hi hhigh hr
      cases hds : Nat.toDigits 10 i.toNat with
      | nil => exact absurd hds Nat.toDigits_ne_nil
      | cons c cs =>
        have hc : c.isDigit = true :=
          Nat.isDigit_of_mem_toDigits (by decide) (by decide) (hds ▸ List.mem_cons_self)
        have hne (d : Char) (hd : d.isDigit = false) := Decimal.ne_of_isDigit hc hd
        rw [hds, List.cons_append] at hread
        rw [List.cons_append, readValue]
        simp [skipSpace, isSpace, hne ' ' (by decide), hne '\n' (by decide), hne '\t' (by decide),
          hne '\r' (by decide), hne 'n' (by decide), hne 't' (by decide), hne 'f' (by decide),
          hne '-' (by decide), hc, hread]
    · have hread := readNumber_negative (!want.isNothing) (by omega) hlow hr
      rw [List.cons_append, readValue, skipSpace_cons (by decide)]
      simp [hread]
  | .float x => simp [Fits] at hf
  | .str s =>
    have hw : want.isNothing = false := by simpa [Fits] using hf
    have hread := readString_stringText s rest
    rw [compact, stringText_toList, List.cons_append, readValue, skipSpace_cons (by decide)]
    simp [hw, hread, bind, Except.bind, pure, Except.pure]
  | .arr items =>
    obtain ⟨hw, hd, hitems⟩ : want.isNothing = false ∧ 0 < depth ∧
      FitsItems (depth - 1) want 0 items := by simpa [Fits] using hf
    rw [compact_arr_toList] at hfuel ⊢
    have hread := readItems_itemsText items fuel (depth - 1) want 0 rest hitems
      (by simpa using hfuel)
    rw [List.cons_append, readValue, skipSpace_cons (by decide)]
    simp only [decide_true] at hread
    simp [Nat.ne_of_gt hd, hread, bind, Except.bind, pure, Except.pure]
  | .obj fields =>
    obtain ⟨hw, hd, hfields⟩ : want.isNothing = false ∧ 0 < depth ∧
      FitsFields (depth - 1) want fields := by simpa [Fits] using hf
    rw [compact_obj_toList] at hfuel ⊢
    have hread := readFields_fieldsText fields fuel (depth - 1) want true rest hw hfields
      (by simpa using hfuel)
    rw [List.cons_append, readValue, skipSpace_cons (by decide)]
    simp [Nat.ne_of_gt hd, hread, bind, Except.bind, pure, Except.pure]

theorem readItems_itemsText (items : List Json) (fuel depth : Nat) (want : Want) (i : Nat)
    (rest : List Char) (hf : FitsItems depth want i items)
    (hfuel : (itemsText (i = 0) items).length < fuel) :
    readItems fuel depth want i (itemsText (i = 0) items ++ rest) = .ok (items, rest) := by
  obtain ⟨fuel, rfl⟩ := Nat.exists_eq_add_one_of_ne_zero (by omega : fuel ≠ 0)
  match items with
  | [] => simp [itemsText, readItems, skipSpace, isSpace]
  | j :: js =>
    obtain ⟨hj, hjs⟩ : Fits depth (want.ofItem i) j ∧ FitsItems depth want (i + 1) js := by
      simpa [FitsItems] using hf
    obtain ⟨c, cs, hc, hspace, hclose⟩ := compact_head hj
    simp only [itemsText, List.length_append] at hfuel
    have hj0 : 0 < (compact j).toList.length := by simp [hc]
    have hjs0 := itemsText_length_pos js
    have hvalue := readValue_compact j fuel depth (want.ofItem i) (itemsText false js ++ rest) hj
      itemsText_closes (by omega)
    have hrest := readItems_itemsText js fuel depth want (i + 1) rest hjs
      (by simp only [Nat.add_one_ne_zero, decide_false]; omega)
    simp only [Nat.add_one_ne_zero, decide_false] at hrest
    rw [hc, List.cons_append] at hvalue
    by_cases hi : i = 0
    · subst hi
      rw [itemsText, hc]
      simp [readItems, separator, skipSpace_cons hspace, hvalue, hrest, bind, Except.bind, pure,
        Except.pure]
    · rw [itemsText, hc]
      simp [readItems, separator, hi, skipSpace_cons (show isSpace ',' = false by decide),
        skipSpace_cons hspace, hclose, hvalue, hrest, bind, Except.bind, pure, Except.pure]

theorem readFields_fieldsText (fields : List (String × Json)) (fuel depth : Nat) (want : Want)
    (first : Bool) (rest : List Char) (hw : want.isNothing = false)
    (hf : FitsFields depth want fields)
    (hfuel : (fieldsText first fields).length < fuel) :
    readFields fuel depth want first (fieldsText first fields ++ rest) = .ok (fields, rest) := by
  obtain ⟨fuel, rfl⟩ := Nat.exists_eq_add_one_of_ne_zero (by omega : fuel ≠ 0)
  match fields with
  | [] => simp [fieldsText, readFields, skipSpace, isSpace]
  | (k, j) :: fs =>
    obtain ⟨hj, hfs⟩ : Fits depth (want.ofField k) j ∧ FitsFields depth want fs := by
      simpa [FitsFields] using hf
    simp only [fieldsText, fieldText, List.length_append, List.length_cons] at hfuel
    have hfs0 := fieldsText_length_pos fs
    have hvalue := readValue_compact j fuel depth (want.ofField k) (fieldsText false fs ++ rest) hj
      fieldsText_closes (by omega)
    have hrest := readFields_fieldsText fs fuel depth want false rest hw hfs (by omega)
    have hkey := readString_stringText k
      (':' :: ((compact j).toList ++ (fieldsText false fs ++ rest)))
    have hcomma (cs : List Char) : skipSpace (',' :: cs) = ',' :: cs := skipSpace_cons (by decide)
    have hquote (cs : List Char) : skipSpace ('"' :: cs) = '"' :: cs := skipSpace_cons (by decide)
    have hcolon (cs : List Char) : skipSpace (':' :: cs) = ':' :: cs := skipSpace_cons (by decide)
    rw [fieldsText, fieldText]
    cases first
    · simp [readFields, separator, hcomma, hquote, hcolon, hw, hkey, hvalue, hrest, bind,
        Except.bind, pure, Except.pure]
    · simp [readFields, separator, hquote, hcolon, hw, hkey, hvalue, hrest, bind, Except.bind,
        pure, Except.pure]

end

/-- A value that fits is read back from its compact text. -/
theorem read_compact {want : Want} {j : Json} (h : Fits depthLimit want j) :
    read want (compact j) = .ok j := by
  have hv := readValue_compact j ((compact j).toList.length + 1) depthLimit want [] h trivial
    (Nat.lt_succ_self _)
  rw [List.append_nil] at hv
  simp [read, readChars, hv, skipSpace, bind, Except.bind, pure, Except.pure, Except.mapError]

end DeviceConsole.Json
