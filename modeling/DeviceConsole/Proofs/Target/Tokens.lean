import DeviceConsole.Proofs.Text.Blank
import DeviceConsole.Proofs.Text.Parts
import DeviceConsole.Target

/-! How a list text is read. Texts joined by commas have the tokens of each in turn, and a text
without commas is one token, or none where it is blank; all else about tokens follows from these two. -/
namespace DeviceConsole.TargetSpec

/-- A text between commas as it is read: not empty, without commas, without white space around. -/
structure IsToken (t : String) : Prop where
  ne_empty : t ≠ ""
  comma_not_mem : ',' ∉ t.toList
  trim_eq : Text.trim t = t

instance (t : String) : Decidable (IsToken t) :=
  decidable_of_iff (t ≠ "" ∧ ',' ∉ t.toList ∧ Text.trim t = t)
    ⟨fun h => ⟨h.1, h.2.1, h.2.2⟩, fun h => ⟨h.ne_empty, h.comma_not_mem, h.trim_eq⟩⟩

theorem mem_tokens {text t : String} :
    t ∈ tokens text ↔
      ∃ part ∈ text.toList.splitOn ',', Text.trimChars part ≠ [] ∧
        String.ofList (Text.trimChars part) = t := by
  simp [tokens]

theorem isToken_iff {t : String} : IsToken t ↔ t ≠ "" ∧ ',' ∉ t.toList ∧
    (∀ c, t.toList.head? = some c → Text.isBlank c = false) ∧
      ∀ c, t.toList.getLast? = some c → Text.isBlank c = false := by
  rw [← Text.trimChars_eq_self_iff, ← Text.trim_eq_self_iff]
  exact ⟨fun h => ⟨h.ne_empty, h.comma_not_mem, h.trim_eq⟩, fun h => ⟨h.1, h.2.1, h.2.2⟩⟩

/-- Trimming takes characters away and makes none up, so what is read has no comma either. -/
theorem isToken_of_mem_tokens {text t : String} (h : t ∈ tokens text) : IsToken t := by
  obtain ⟨part, hpart, hne, rfl⟩ := mem_tokens.mp h
  refine ⟨?_, ?_, ?_⟩
  · rwa [ne_eq, String.ofList_eq_empty_iff]
  · intro hcomma
    rw [String.toList_ofList] at hcomma
    obtain ⟨-, hcut⟩ := Text.mem_splitOnP hpart (Text.mem_of_mem_trimChars hcomma)
    simp at hcut
  · rw [Text.trim, String.toList_ofList, Text.trimChars_trimChars]

/-! ### Texts and their tokens -/

theorem tokens_append_comma (s t : String) : tokens (s ++ "," ++ t) = tokens s ++ tokens t := by
  have hsplit : (s ++ "," ++ t).toList.splitOn ',' =
      s.toList.splitOn ',' ++ t.toList.splitOn ',' := by
    rw [String.toList_append, String.toList_append, List.append_assoc]
    exact List.splitOn_append_cons_self _ _
  rw [tokens, hsplit, List.map_append, List.filterMap_append, tokens, tokens]

theorem tokens_of_comma_not_mem {text : String} (h : ',' ∉ text.toList) :
    tokens text = if Text.trim text = "" then [] else [Text.trim text] := by
  rw [tokens, List.splitOn_eq_singleton h, Text.trim, List.map_singleton]
  simp only [String.ofList_eq_empty_iff]
  cases Text.trimChars text.toList <;> rfl

theorem comma_not_mem_of_blank {text : String} (h : ∀ c ∈ text.toList, Text.isBlank c = true) :
    ',' ∉ text.toList :=
  fun hcomma => absurd (h _ hcomma) (by decide)

theorem tokens_blank {text : String} (h : ∀ c ∈ text.toList, Text.isBlank c = true) :
    tokens text = [] := by
  have htrim : Text.trim text = "" := by rw [Text.trim, Text.trimChars_eq_nil_iff.mpr h]
  rw [tokens_of_comma_not_mem (comma_not_mem_of_blank h), if_pos htrim]

theorem tokens_padded (before : String) {t : String} (after : String)
    (hbefore : ∀ c ∈ before.toList, Text.isBlank c = true) (h : IsToken t)
    (hafter : ∀ c ∈ after.toList, Text.isBlank c = true) :
    tokens (before ++ t ++ after) = [t] := by
  have hcomma : ',' ∉ (before ++ t ++ after).toList := by
    simp only [String.toList_append, List.mem_append, not_or]
    exact ⟨⟨comma_not_mem_of_blank hbefore, h.comma_not_mem⟩, comma_not_mem_of_blank hafter⟩
  have htrim : Text.trim (before ++ t ++ after) = t := by
    rw [Text.trim, String.toList_append, String.toList_append,
      Text.trimChars_append_blank hbefore hafter, ← Text.trim, h.trim_eq]
  rw [tokens_of_comma_not_mem hcomma, htrim, if_neg h.ne_empty]

/-- Texts that are joined by commas are read one after the other. -/
theorem tokens_intercalate (texts : List String) :
    tokens (",".intercalate texts) = texts.flatMap tokens := by
  induction texts with
  | nil => rfl
  | cons s rest ih =>
    cases rest with
    | nil => simp
    | cons t rest => rw [String.intercalate_cons_cons, tokens_append_comma, ih, ← List.flatMap_cons]

/-! ### Tokens and their texts -/

/-- White space behind a comma belongs to no token. -/
theorem tokens_blank_intercalate (before gap : String)
    (hbefore : ∀ c ∈ before.toList, Text.isBlank c = true)
    (hgap : ∀ c ∈ gap.toList, Text.isBlank c = true)
    {ts : List String} (h : ∀ t ∈ ts, IsToken t) :
    tokens (before ++ ("," ++ gap).intercalate ts) = ts := by
  -- Behind a comma the gap is what stands before the rest, so the induction is over any such text.
  induction ts generalizing before with
  | nil =>
    rw [String.intercalate_nil, String.append_empty]
    exact tokens_blank hbefore
  | cons t rest ih =>
    have ht : tokens (before ++ t) = [t] := by
      simpa using tokens_padded before "" hbefore (h t (by simp)) (by simp)
    cases rest with
    | nil => rwa [String.intercalate_singleton]
    | cons u rest =>
      have hrest := ih gap hgap fun v hv => h v (List.mem_cons_of_mem _ hv)
      calc tokens (before ++ ("," ++ gap).intercalate (t :: u :: rest))
          = tokens (before ++ t ++ "," ++ (gap ++ ("," ++ gap).intercalate (u :: rest))) := by
            simp only [String.intercalate_cons_cons, String.append_assoc]
        _ = [t] ++ u :: rest := by rw [tokens_append_comma, ht, hrest]

/-- Tokens joined by a comma and a space are read as these tokens. -/
theorem tokens_join {ts : List String} (h : ∀ t ∈ ts, IsToken t) :
    tokens (", ".intercalate ts) = ts := by
  simpa using tokens_blank_intercalate "" " " (by simp) (List.all_eq_true.mp rfl) h

/-- Tokens joined by commas alone are read as these tokens. -/
theorem tokens_join_comma {ts : List String} (h : ∀ t ∈ ts, IsToken t) :
    tokens (",".intercalate ts) = ts := by
  simpa using tokens_blank_intercalate "" "" (by simp) (by simp) h

/-- A list text is read as tokens, which are neither empty nor have a comma or white space at an end.
The tokens of two texts with a comma between them are those of the one and then those of the other;
a blank text has none, and a token is read as itself whatever white space is around it. So any
tokens joined by commas, or by a comma and a space, are read back. -/
theorem tokens_joined :
    (∀ text, ofInput .list text = .list (tokens text) ∧ ∀ t ∈ tokens text, IsToken t) ∧
    (∀ t, IsToken t ↔ t ≠ "" ∧ ',' ∉ t.toList ∧
      (∀ c, t.toList.head? = some c → Text.isBlank c = false) ∧
      ∀ c, t.toList.getLast? = some c → Text.isBlank c = false) ∧
    (∀ s t, tokens (s ++ "," ++ t) = tokens s ++ tokens t) ∧
    (∀ before after, (∀ c ∈ before.toList, Text.isBlank c = true) →
      (∀ c ∈ after.toList, Text.isBlank c = true) →
        tokens before = [] ∧ ∀ t, IsToken t → tokens (before ++ t ++ after) = [t]) ∧
    ∀ ts, (∀ t ∈ ts, IsToken t) →
      tokens (",".intercalate ts) = ts ∧ tokens (", ".intercalate ts) = ts := by
  refine ⟨fun text => ⟨rfl, fun t => isToken_of_mem_tokens⟩, fun t => isToken_iff,
    tokens_append_comma, fun before after hbefore hafter => ⟨tokens_blank hbefore, fun t h => ?_⟩,
    fun ts h => ⟨tokens_join_comma h, tokens_join h⟩⟩
  exact tokens_padded before after hbefore h hafter

/-- White space that is not ASCII around a token with a space in it, and the same token behind it in
a list of two. -/
theorem tokens_joined_padded :
    let ts := ["a b", "10.0.0.1"]
    tokens "\u2003" = [] ∧ tokens "\u2003a b\u00a0" = ["a b"] ∧
      tokens "a b,10.0.0.1" = ts ∧ tokens "a b, 10.0.0.1" = ts ∧
      tokens "\u2003a b\u00a0,a b, 10.0.0.1" = "a b" :: ts ∧ ∀ t ∈ ts, IsToken t := by
  intro ts
  have hts : ∀ t ∈ ts, IsToken t := by decide +kernel
  obtain ⟨hshape, -, happend, hpadded, hjoined⟩ := tokens_joined
  obtain ⟨hblank, htoken⟩ :=
    hpadded "\u2003" "\u00a0" (List.all_eq_true.mp rfl) (List.all_eq_true.mp rfl)
  have hpad : tokens "\u2003a b\u00a0" = ["a b"] := htoken "a b" (hts _ List.mem_cons_self)
  obtain ⟨hcomma, hspace⟩ : tokens "a b,10.0.0.1" = ts ∧ tokens "a b, 10.0.0.1" = ts :=
    hjoined ts hts
  have hall : tokens "\u2003a b\u00a0,a b, 10.0.0.1" = ["a b"] ++ ts := by
    rw [← hpad, ← hspace]
    exact happend "\u2003a b\u00a0" "a b, 10.0.0.1"
  exact ⟨hblank, hpad, hcomma, hspace, hall, fun t ht => (hshape "a b, 10.0.0.1").2 t (hspace ▸ ht)⟩

end DeviceConsole.TargetSpec
