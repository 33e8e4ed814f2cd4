import DeviceConsole.Command.View
import DeviceConsole.Proofs.Json.Path
import DeviceConsole.Proofs.Toml.Verbatim

/-! Lines of settings as they are shown. A header or an assignment that has nothing to escape reads
as it was meant. Any other reads as something else, if it reads at all, and the reader goes on at
the start of a later line. -/
namespace DeviceConsole.Toml

/-! ### Ends of lines -/

/-- What a reader leaves of a text when it stops behind a line. -/
def IsBelow (cs rest : List Char) : Prop := rest = [] ∨ ∃ front, cs = front ++ '\n' :: rest

theorem IsBelow.of_suffix {cs middle rest : List Char} (h : IsBelow middle rest)
    (hmiddle : middle <:+ cs) : IsBelow cs rest := by
  refine h.imp_right ?_
  rintro ⟨front, rfl⟩
  obtain ⟨before, rfl⟩ := hmiddle
  exact ⟨before ++ front, by simp⟩

theorem endOfLine?_below {cs rest : List Char} (h : endOfLine? cs = some rest) :
    IsBelow cs rest := by
  have hskip : skipSpace cs <:+ cs := List.dropWhile_suffix _
  have hend {after : List Char} (hafter : after <:+ cs)
      (h : (if after = [] then some [] else newline? after) = some rest) : IsBelow cs rest := by
    split at h
    · exact .inl (Option.some.inj h).symm
    · obtain ⟨front, hfront, -⟩ := newline?_raw h
      exact IsBelow.of_suffix (.inr ⟨front, hfront⟩) hafter
  unfold endOfLine? at h
  split at h
  · rename_i comment heq
    have hcomment : comment.dropWhile isPlain <:+ cs := (List.dropWhile_suffix _).trans
      ((List.suffix_cons '#' comment).trans (heq ▸ hskip))
    refine hend hcomment ?_
    cases hc : comment.dropWhile isPlain with
    | nil => rwa [hc] at h
    | cons c after => rwa [hc] at h
  · refine hend hskip ?_
    cases hc : skipSpace cs with
    | nil => rwa [hc] at h
    | cons c after => rwa [hc] at h

/-! ### Keys -/

theorem readPart?_suffix {cs rest : List Char} {part : String}
    (h : readPart? cs = some (part, rest)) : rest <:+ cs := by
  unfold readPart? at h
  split at h
  · obtain ⟨⟨text, after⟩, hread, h⟩ := Option.bind_eq_some_iff.mp h
    cases h
    obtain ⟨raw, rfl, -, -⟩ := readBasic?_raw hread
    exact ⟨'"' :: raw ++ ['"'], by simp⟩
  · obtain ⟨⟨text, after⟩, hread, h⟩ := Option.bind_eq_some_iff.mp h
    cases h
    obtain ⟨rfl, -⟩ := readLiteral?_raw hread
    exact ⟨'\x27' :: text ++ ['\x27'], by simp⟩
  · dsimp only at h
    split at h
    · cases h
    · cases h
      exact List.dropWhile_suffix _

theorem readKey?_suffix {fuel : Nat} {cs rest : List Char} {key : List String × String}
    (h : readKey? fuel cs = some (key, rest)) : rest <:+ cs := by
  induction fuel generalizing cs key with
  | zero => cases h
  | succ fuel ih =>
    obtain ⟨⟨part, after⟩, hpart, h⟩ := Option.bind_eq_some_iff.mp h
    have hafter : skipSpace after <:+ cs :=
      (List.dropWhile_suffix _).trans (readPart?_suffix hpart)
    dsimp only at h
    split at h
    · rename_i below heq
      obtain ⟨⟨⟨path, last⟩, end'⟩, hkey, h⟩ := Option.bind_eq_some_iff.mp h
      cases h
      exact (ih hkey).trans ((List.dropWhile_suffix _).trans
        ((List.suffix_cons '.' below).trans (heq ▸ hafter)))
    · cases h
      exact hafter

/-- A key without a path is its first part. -/
theorem readKey?_first {fuel : Nat} {cs rest : List Char} {path : List String} {key : String}
    (h : readKey? fuel cs = some ((path, key), rest)) :
    ∃ part after, readPart? cs = some (part, after) ∧ (path = [] → key = part) := by
  cases fuel with
  | zero => cases h
  | succ fuel =>
    obtain ⟨⟨part, after⟩, hpart, h⟩ := Option.bind_eq_some_iff.mp h
    refine ⟨part, after, hpart, ?_⟩
    dsimp only at h
    split at h
    · obtain ⟨⟨⟨below, last⟩, end'⟩, -, h⟩ := Option.bind_eq_some_iff.mp h
      cases h
      exact fun hpath => absurd hpath (List.cons_ne_nil _ _)
    · cases h
      exact fun _ => rfl

/-- The first part of a name that is not bare has fewer characters than the name. -/
theorem readPart?_shorter {name below rest : List Char} {part : String}
    (hbare : ¬ ∀ c ∈ name, isBare c = true)
    (h : readPart? (name ++ ']' :: '\n' :: below) = some (part, rest)) :
    part.length < name.length := by
  -- a part in quotes loses the quotes, and a bare part ends where the name is not bare
  have hquoted {mark : Char} {raw after : List Char} (hraw : '\n' ∉ mark :: raw ++ [mark])
      (heq : name ++ ']' :: '\n' :: below = mark :: (raw ++ mark :: after)) :
      raw.length < name.length := by
    obtain ⟨tail, htail, -⟩ : ∃ tail, name ++ [']'] = (mark :: raw ++ [mark]) ++ tail ∧ _ :=
      exists_rest_of_line hraw (by simpa using heq.symm)
    have hlength := congrArg List.length htail
    simp only [List.length_append, List.length_cons, List.length_nil] at hlength
    omega
  unfold readPart? at h
  split at h
  · rename_i cs heq
    obtain ⟨⟨text, after⟩, hread, h⟩ := Option.bind_eq_some_iff.mp h
    cases h
    obtain ⟨raw, rfl, hraw, hcases⟩ := readBasic?_raw hread
    have hlt := hquoted (by simpa using hraw) heq
    rw [String.length_ofList]
    rcases hcases with ⟨rfl, -⟩ | hshort
    · exact hlt
    · exact hshort.trans hlt
  · rename_i cs heq
    obtain ⟨⟨text, after⟩, hread, h⟩ := Option.bind_eq_some_iff.mp h
    cases h
    obtain ⟨rfl, hraw⟩ := readLiteral?_raw hread
    rw [String.length_ofList]
    exact hquoted (by simpa using hraw) heq
  · dsimp only at h
    split at h
    · cases h
    · cases h
      rw [String.length_ofList]
      have hne : (name.takeWhile isBare).length ≠ name.length := fun hlength =>
        hbare fun c hc => by
          have hall := (List.takeWhile_prefix isBare).eq_of_length hlength
          exact List.mem_takeWhile_imp (hall ▸ hc)
      have hle := (List.takeWhile_prefix (p := isBare) (l := name)).length_le
      rw [List.takeWhile_append, if_neg hne]
      omega

/-! ### Headers -/

theorem readHeader?_suffix {cs rest : List Char} {statement : Statement}
    (h : readHeader? cs = some (statement, rest)) : rest <:+ cs := by
  unfold readHeader? at h
  split at h
  · rename_i tail
    obtain ⟨⟨⟨path, key⟩, after⟩, hkey, h⟩ := Option.bind_eq_some_iff.mp h
    dsimp only at h
    split at h
    · cases h
      have hafter := (readKey?_suffix hkey).trans (List.dropWhile_suffix isSpace)
      exact ((List.suffix_append [']', ']'] rest).trans hafter).trans (List.suffix_cons '[' tail)
    · cases h
  · obtain ⟨⟨⟨path, key⟩, after⟩, hkey, h⟩ := Option.bind_eq_some_iff.mp h
    dsimp only at h
    split at h
    · cases h
      have hafter := (readKey?_suffix hkey).trans (List.dropWhile_suffix isSpace)
      exact (List.suffix_cons ']' rest).trans hafter
    · cases h

/-- The header of a table within another, as it is shown. -/
def subheader (part : String) (name below : List Char) : List Char :=
  '[' :: (part.toList ++ '.' :: (name ++ ']' :: '\n' :: below))

theorem readLine?_subheader {part name : String} (hpart : IsBareKey part) (hname : IsBareKey name)
    (below : List Char) : readLine? (subheader part name.toList below) =
      some (some (.openTable [part] name), below) := by
  apply readLine?_header (bare_ne_bracket hpart _) (skipSpace_bare hpart _)
  obtain ⟨n, hn⟩ : ∃ n, (part.toList ++ '.' :: (name.toList ++ ']' :: '\n' :: below)).length =
      n + 1 + 1 := by
    refine ⟨part.toList.length + name.toList.length + below.length + 1, ?_⟩
    simp only [List.length_append, List.length_cons]
    omega
  have hlast : readKey? (n + 1) (name.toList ++ ']' :: '\n' :: below) =
      some (([], name), ']' :: '\n' :: below) :=
    readKey?_last (readPart?_bare hname rfl _) ⟨_, rfl⟩ (by decide)
  rw [hn, readKey?_dotted (readPart?_bare hpart rfl _), skipSpace_bare hname, hlast]
  rfl

theorem skipSpace_name (name below : List Char) :
    skipSpace (name ++ ']' :: below) = skipSpace name ++ ']' :: below := by
  rw [skipSpace, skipSpace, List.dropWhile_append]
  split
  · rename_i hnil
    rw [List.isEmpty_iff.mp hnil]
    rfl
  · rfl

/-- The first part of a name that is not bare is shorter, also behind blanks. -/
theorem readPart?_skipSpace {name : String} {below rest : List Char} {part : String}
    (hname : ¬ IsBareKey name)
    (h : readPart? (skipSpace (name.toList ++ ']' :: '\n' :: below)) = some (part, rest)) :
    part.length < name.length := by
  rw [skipSpace_name] at h
  have hsuffix : skipSpace name.toList <:+ name.toList := List.dropWhile_suffix _
  rw [← String.length_toList (s := name)]
  by_cases hbare : ∀ c ∈ skipSpace name.toList, isBare c = true
  · have hne : skipSpace name.toList ≠ [] := by
      intro hnil
      rw [hnil] at h
      cases h
    have hkey : IsBareKey (String.ofList (skipSpace name.toList)) := by
      simpa [IsBareKey] using And.intro hne hbare
    have hread := readPart?_bare hkey (by rfl : isBare ']' = false) ('\n' :: below)
    rw [String.toList_ofList, h] at hread
    cases hread
    rw [String.length_ofList]
    refine lt_of_le_of_ne hsuffix.length_le fun hlength => hname ?_
    rwa [hsuffix.eq_of_length hlength, String.ofList_toList] at hkey
  · exact Nat.lt_of_lt_of_le (readPart?_shorter hbare h) hsuffix.length_le

/-- A header whose name is not bare opens no table of that name or of a longer one. -/
theorem readLine?_subheader_shorter {part name : String} (hpart : IsBareKey part)
    (hname : ¬ IsBareKey name) {below rest : List Char} {statement : Option Statement}
    (h : readLine? (subheader part name.toList below) = some (statement, rest)) :
    IsBelow (subheader part name.toList below) rest ∧ ∃ path key,
      statement = some (.openTable (part :: path) key) ∧
        (path = [] → key.length < name.length) := by
  obtain ⟨⟨header, after⟩, hheader, h⟩ : ∃ r, readHeader? _ = some r ∧ _ :=
    Option.bind_eq_some_iff.mp h
  obtain ⟨last, hlast, h⟩ := Option.bind_eq_some_iff.mp h
  cases h
  have hbelow := (endOfLine?_below hlast).of_suffix
    ((readHeader?_suffix hheader).trans (List.suffix_cons '[' _))
  refine ⟨hbelow, ?_⟩
  unfold readHeader? at hheader
  split at hheader
  · rename_i heq
    exact absurd heq (bare_ne_bracket hpart _ _)
  · obtain ⟨⟨⟨path, key⟩, mid⟩, hkey, hheader⟩ := Option.bind_eq_some_iff.mp hheader
    dsimp only at hheader
    split at hheader
    · cases hheader
      rw [skipSpace_bare hpart] at hkey
      cases hn : (part.toList ++ '.' :: (name.toList ++ ']' :: '\n' :: below)).length with
      | zero => simp at hn
      | succ n =>
        rw [hn, readKey?_dotted (readPart?_bare hpart rfl _)] at hkey
        obtain ⟨⟨⟨inner, last⟩, end'⟩, hinner, hkey⟩ := Option.map_eq_some_iff.mp hkey
        cases hkey
        obtain ⟨first, left, hfirst, hkey⟩ := readKey?_first hinner
        exact ⟨inner, last, rfl, fun hpath => hkey hpath ▸ readPart?_skipSpace hname hfirst⟩
    · cases hheader

/-! ### Assignments -/

/-- The value reads as it was meant when it is shown: a text with nothing to escape, or a number
within the range of the file. -/
def IsShownAsIs : Json → Prop
  | .str s => ∀ c ∈ s.toList, IsVerbatim c
  | .bool _ => True
  | .int i => i ≤ Decimal.maxInt64
  | _ => False

theorem splitAtChar_of_not {p : Char → Bool} {cs : List Char} (h : ∀ c ∈ cs, p c = false) :
    splitAtChar p cs = (cs, none) := by
  have hall : ∀ c ∈ cs, (!p c) = true := fun c hc => by simp [h c hc]
  have htake : cs.takeWhile (fun c => !p c) = cs := List.takeWhile_eq_self_iff.mpr hall
  have hdrop : cs.dropWhile (fun c => !p c) = [] := List.dropWhile_eq_nil_iff.mpr hall
  simp [splitAtChar, htake, hdrop]

theorem isDate_of_digits {cs : List Char} (h : ∀ c ∈ cs, c.isDigit = true) : isDate cs = false := by
  have hsplit : cs.splitOn '-' = [cs] := List.splitOnP_eq_singleton fun c hc => by
    simpa using Decimal.ne_of_isDigit (h c hc) (by decide : '-'.isDigit = false)
  rw [isDate, hsplit]

theorem isTime_of_digits {cs : List Char} (h : ∀ c ∈ cs, c.isDigit = true) : isTime cs = false := by
  have hsplit : cs.splitOn ':' = [cs] := List.splitOnP_eq_singleton fun c hc => by
    simpa using Decimal.ne_of_isDigit (h c hc) (by decide : ':'.isDigit = false)
  rw [isTime, hsplit]

theorem date?_of_digits {cs : List Char} (h : ∀ c ∈ cs, c.isDigit = true) : date? cs = none := by
  have hfront : isDate (cs.take 10) = false :=
    isDate_of_digits fun c hc => h c (List.mem_of_mem_take hc)
  have hdate : isDateTime cs = false := by
    rw [isDateTime]
    split <;> simp [isDate_of_digits h, isTime_of_digits h, hfront]
  rw [date?, hdate]
  rfl

theorem float?_toDigits (n : Nat) : float? (Nat.toDigits 10 n) = none := by
  have hne {c d : Char} (hc : c ∈ Nat.toDigits 10 n) (hd : d.isDigit = false) : c ≠ d :=
    Decimal.ne_of_isDigit (isDigit_of_mem hc) hd
  have hword {c : Char} {cs : List Char} (hc : c.isDigit = false) :
      Nat.toDigits 10 n ≠ c :: cs := fun heq => hne (heq ▸ List.mem_cons_self) hc rfl
  have hpower : splitAtChar (fun c => c = 'e' || c = 'E') (Nat.toDigits 10 n) =
      (Nat.toDigits 10 n, none) :=
    splitAtChar_of_not fun c hc => by simp [hne hc (by rfl : 'e'.isDigit = false),
      hne hc (by rfl : 'E'.isDigit = false)]
  have hfraction : splitAtChar (· = '.') (Nat.toDigits 10 n) = (Nat.toDigits 10 n, none) :=
    splitAtChar_of_not fun c hc => by simp [hne hc (by rfl : '.'.isDigit = false)]
  rw [float?, splitSign_toDigits]
  dsimp only
  rw [if_neg (hword rfl), if_neg (hword rfl), decimalFloat?, hpower]
  dsimp only
  rw [hfraction]
  rfl

/-- Digits are no other number than the integer they make. -/
theorem token?_toDigits_eq_none {n : Nat} (h : int? n = none) :
    token? (Nat.toDigits 10 n) = none := by
  have hword {c : Char} {cs : List Char} (hc : c.isDigit = false) :
      Nat.toDigits 10 n ≠ c :: cs := fun heq =>
    Decimal.ne_of_isDigit (isDigit_of_mem (heq ▸ List.mem_cons_self)) hc rfl
  have hnumber : number? (Nat.toDigits 10 n) = none := by
    unfold number?
    split
    · rename_i heq
      exact absurd (toDigits_zero_head heq) (by simp)
    · rename_i heq
      exact absurd (toDigits_zero_head heq) (by simp)
    · rename_i heq
      exact absurd (toDigits_zero_head heq) (by simp)
    · rw [integer?_toDigits, h, float?_toDigits]
      rfl
  rw [token?, if_neg (hword rfl), if_neg (hword rfl), hnumber,
    date?_of_digits fun _ => isDigit_of_mem]
  rfl

theorem readLine?_assignment {key : String} (hk : IsBareKey key) {value : List Char}
    (hv : skipSpace value = value) :
    readLine? (key.toList ++ ' ' :: '=' :: ' ' :: value) =
      (readValue? (value.length + 2) depthLimit value).bind fun r =>
        (endOfLine? r.2).map fun rest => (some (.assign [] key r.1), rest) := by
  rw [readLine?_bare hk, readAssignment?_eq hk hv, Option.bind_map]
  rfl

theorem readLine?_quotedLine {key : String} (hk : IsBareKey key) (cs below : List Char) :
    readLine? (key.toList ++ ' ' :: '=' :: ' ' :: quotedLine cs below) =
      (readString? (quotedLine cs below)).bind fun r =>
        (endOfLine? r.2).map fun rest => (some (.assign [] key (.str r.1)), rest) := by
  have hvalue (fuel : Nat) : readValue? (fuel + 1) depthLimit (quotedLine cs below) =
      (readString? (quotedLine cs below)).map fun r => (.str r.1, r.2) := by
    rw [quotedLine, readValue?, if_pos (by decide), Option.map_eq_bind]
    rfl
  have hskip : skipSpace (quotedLine cs below) = quotedLine cs below := skipSpace_cons rfl
  rw [readLine?_assignment hk hskip, hvalue, Option.bind_map]
  rfl

theorem readLine?_word {key : String} (hk : IsBareKey key) {word : List Char} (hne : word ≠ [])
    (hword : ∀ c ∈ word, c.isAlphanum = true) (below : List Char) :
    readLine? (key.toList ++ ' ' :: '=' :: ' ' :: (word ++ '\n' :: below)) =
      (token? word).map fun j => (some (.assign [] key j), below) := by
  have hskip : skipSpace (word ++ '\n' :: below) = word ++ '\n' :: below := by
    obtain ⟨c, cs, rfl⟩ := List.exists_cons_of_ne_nil hne
    refine skipSpace_cons ?_
    have hc := hword c (by simp)
    have hother (d : Char) (hd : d.isAlphanum = false) : c ≠ d := by
      rintro rfl
      rw [hc] at hd
      exact Bool.noConfusion hd
    simp [isSpace, hother ' ' rfl, hother '\t' rfl]
  rw [readLine?_assignment hk hskip, readValue?_word_eq hne hword]
  cases token? word <;> rfl

theorem settingLine_str (key s : String) (below : List Char) :
    (View.settingLine (key, .str s)).toList ++ below =
      key.toList ++ ' ' :: '=' :: ' ' :: quotedLine s.toList below := by
  simp [View.settingLine, quotedLine]

theorem int?_of_le {n : Nat} (h : (n : Int) ≤ Decimal.maxInt64) : int? n = some (.int n) := by
  have hlow : Decimal.minInt64 ≤ (n : Int) := by
    rw [Decimal.minInt64]
    omega
  have hint : Decimal.int64? n = some (Int64.ofInt n) := if_pos ⟨hlow, h⟩
  rw [int?, hint, ← Decimal.toInt_of_int64? hint]
  simp

theorem int?_of_lt {n : Nat} (h : Decimal.maxInt64 < n) : int? n = none := by
  rw [int?, Decimal.int64?_eq_none_iff.mpr (.inr h)]
  rfl

/-- A value that is no text is shown as a word, which stands for it or for nothing. -/
theorem exists_shownWord {j : Json} (hj : IsStorable j) (htext : ∀ s, j ≠ .str s) :
    ∃ word : List Char, word ≠ [] ∧ (∀ c ∈ word, c.isAlphanum = true) ∧
      (∀ key below, (View.settingLine (key, j)).toList ++ below =
        key.toList ++ ' ' :: '=' :: ' ' :: (word ++ '\n' :: below)) ∧
      (IsShownAsIs j → token? word = some j) ∧ (¬ IsShownAsIs j → token? word = none) := by
  cases j with
  | str s => exact absurd rfl (htext s)
  | bool b =>
    have hline (key : String) (below : List Char) :
        (View.settingLine (key, .bool b)).toList ++ below = key.toList ++ ' ' :: '=' :: ' ' ::
          ((if b then "true" else "false").toList ++ '\n' :: below) := by
      simp [View.settingLine, Json.compact]
    refine ⟨_, ?_, ?_, hline, fun _ => ?_, fun h => absurd trivial h⟩
    · cases b <;> decide
    · cases b <;> exact List.all_eq_true.mp (by decide)
    · cases b <;> rfl
  | int i =>
    obtain ⟨n, rfl⟩ := Int.eq_ofNat_of_zero_le hj
    have hcompact := Json.compact_int_toList n
    rw [if_pos (Int.natCast_nonneg n), Int.toNat_natCast] at hcompact
    refine ⟨Nat.toDigits 10 n, Nat.toDigits_ne_nil, fun c hc => ?_, fun key below => ?_,
      fun h => token?_toDigits (int?_of_le h),
      fun h => token?_toDigits_eq_none (int?_of_lt (Int.not_le.mp h))⟩
    · simp [Char.isAlphanum, isDigit_of_mem hc]
    · simp [View.settingLine, hcompact]
  | _ => exact absurd hj id

/-- A line whose value is shown as it is reads as its assignment. -/
theorem readLine?_settingLine {e : String × Json} (hk : IsBareKey e.1) (hj : IsStorable e.2)
    (h : IsShownAsIs e.2) (below : List Char) :
    readLine? ((View.settingLine e).toList ++ below) =
      some (some (.assign [] e.1 e.2), below) := by
  obtain ⟨key, j⟩ := e
  by_cases htext : ∃ s, j = .str s
  · obtain ⟨s, rfl⟩ := htext
    rw [settingLine_str, readLine?_quotedLine hk, readString?_verbatim h, String.ofList_toList]
    rfl
  · obtain ⟨word, hne, hword, hline, htoken, -⟩ := exists_shownWord hj (not_exists.mp htext)
    rw [hline, readLine?_word hk hne hword, htoken h]
    rfl

/-- Any other line assigns something else under the same key, or does not read. -/
theorem readLine?_settingLine_ne {e : String × Json} (hk : IsBareKey e.1) (hj : IsStorable e.2)
    (h : ¬ IsShownAsIs e.2) (hnewline : ∀ s, e.2 = .str s → '\n' ∉ s.toList)
    {below rest : List Char} (hquote : below.head? ≠ some '"') (hslash : below.head? ≠ some '\\')
    {statement : Option Statement}
    (hread : readLine? ((View.settingLine e).toList ++ below) = some (statement, rest)) :
    IsBelow ((View.settingLine e).toList ++ below) rest ∧
      ∃ v, statement = some (.assign [] e.1 v) ∧ v ≠ e.2 ∧ v.isTable = false := by
  obtain ⟨key, j⟩ := e
  by_cases htext : ∃ s, j = .str s
  · obtain ⟨s, rfl⟩ := htext
    rw [settingLine_str, readLine?_quotedLine hk] at hread
    obtain ⟨⟨text, after⟩, hstring, hread⟩ := Option.bind_eq_some_iff.mp hread
    obtain ⟨last, hlast, hread⟩ := Option.map_eq_some_iff.mp hread
    cases hread
    obtain ⟨hsuffix, hcases⟩ := readString?_quotedLine (hnewline s rfl) hquote hslash hstring
    refine ⟨?_, .str text, rfl, fun heq => ?_, rfl⟩
    · rw [settingLine_str]
      exact (endOfLine?_below hlast).of_suffix
        (hsuffix.trans ⟨key.toList ++ [' ', '=', ' '], by simp⟩)
    · cases heq
      exact hcases.elim h fun hne => hne rfl
  · obtain ⟨word, hne, hword, hline, -, htoken⟩ := exists_shownWord hj (not_exists.mp htext)
    rw [hline, readLine?_word hk hne hword, htoken h] at hread
    cases hread

end DeviceConsole.Toml
