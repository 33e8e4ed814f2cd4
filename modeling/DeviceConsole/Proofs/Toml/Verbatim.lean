import DeviceConsole.Proofs.Text.Quoted
import DeviceConsole.Proofs.Toml.Lines

/-! Texts put between quotes without escapes. One that needs none is read as it is. Any other text
of one line is read as something else, if it is read at all: an escape makes it shorter, a quote
ends it early, and three quotes in a row open a long text that goes on in the lines below. -/
namespace DeviceConsole.Toml

/-- A character that stands for itself between quotes. -/
def IsVerbatim (c : Char) : Prop := isPlain c = true ∧ c ≠ '"' ∧ c ≠ '\\'

instance (c : Char) : Decidable (IsVerbatim c) := inferInstanceAs (Decidable (_ ∧ _))

/-- A part of a line ends with the line at the latest. -/
theorem exists_rest_of_line {front after line rest : List Char} (hfront : '\n' ∉ front)
    (h : front ++ after = line ++ '\n' :: rest) :
    ∃ tail, line = front ++ tail ∧ after = tail ++ '\n' :: rest := by
  rcases List.append_eq_append_iff.mp h with ⟨tail, hline, hafter⟩ | ⟨tail, hline, hafter⟩
  · exact ⟨tail, hline, hafter⟩
  · cases tail with
    | nil => exact ⟨[], by simpa using hline.symm, by simpa using hafter.symm⟩
    | cons c tail =>
      obtain ⟨rfl, -⟩ := List.cons.inj hafter
      exact absurd (hline ▸ by simp) hfront

/-! ### What readers take -/

theorem readHex?_raw {count n m : Nat} {cs rest : List Char}
    (h : readHex? count n cs = some (m, rest)) : ∃ raw, cs = raw ++ rest ∧ '\n' ∉ raw := by
  induction count generalizing n cs with
  | zero =>
    cases h
    exact ⟨[], rfl, by simp⟩
  | succ count ih =>
    cases cs with
    | nil => cases h
    | cons c cs =>
      obtain ⟨d, hd, h⟩ := Option.bind_eq_some_iff.mp h
      obtain ⟨raw, rfl, hraw⟩ := ih h
      refine ⟨c :: raw, rfl, ?_⟩
      have hc : c ≠ '\n' := by
        rintro rfl
        cases hd
      simpa [hraw] using hc.symm

theorem readCode?_raw {count : Nat} {c : Char} {cs rest : List Char}
    (h : readCode? count cs = some (c, rest)) : ∃ raw, cs = raw ++ rest ∧ '\n' ∉ raw := by
  obtain ⟨⟨n, after⟩, hhex, h⟩ := Option.bind_eq_some_iff.mp h
  dsimp only at h
  split at h
  · cases h
    exact readHex?_raw hhex
  · cases h

theorem readEscape?_raw {c : Char} {cs rest : List Char}
    (h : readEscape? cs = some (c, rest)) :
    ∃ raw, cs = raw ++ rest ∧ raw ≠ [] ∧ '\n' ∉ raw := by
  unfold readEscape? at h
  split at h
  case h_8 =>
    obtain ⟨raw, rfl, hraw⟩ := readCode?_raw h
    exact ⟨'u' :: raw, rfl, by simp, by simpa using hraw⟩
  case h_9 =>
    obtain ⟨raw, rfl, hraw⟩ := readCode?_raw h
    exact ⟨'U' :: raw, rfl, by simp, by simpa using hraw⟩
  case h_10 => cases h
  all_goals
    cases h
    exact ⟨[_], rfl, by simp, by simp⟩

theorem newline_ne_of_isPlain {c : Char} (h : isPlain c = true) : c ≠ '\n' := by
  rintro rfl
  cases h

/-- A text between quotes is read as itself, or it loses a character. -/
theorem readBasic?_raw {fuel : Nat} {cs text rest : List Char}
    (h : readBasic? fuel cs = some (text, rest)) : ∃ raw, cs = raw ++ '"' :: rest ∧ '\n' ∉ raw ∧
      (text = raw ∧ (∀ c ∈ raw, IsVerbatim c) ∨ text.length < raw.length) := by
  induction fuel generalizing cs text with
  | zero => cases h
  | succ fuel ih =>
    cases cs with
    | nil => cases h
    | cons c cs =>
      rw [readBasic?] at h
      split_ifs at h with hq hb hp
      · cases h
        exact ⟨[], by rw [hq]; rfl, by simp, .inl ⟨rfl, by simp⟩⟩
      · obtain ⟨⟨d, after⟩, hescape, h⟩ := Option.bind_eq_some_iff.mp h
        obtain ⟨⟨tail, last⟩, htail, h⟩ := Option.bind_eq_some_iff.mp h
        cases h
        obtain ⟨front, rfl, hne, hfront⟩ := readEscape?_raw hescape
        obtain ⟨raw, rfl, hraw, hlength⟩ := ih htail
        refine ⟨c :: (front ++ raw), by simp, by simp [hb, hfront, hraw], .inr ?_⟩
        have hpos := List.length_pos_iff.mpr hne
        have hle : tail.length ≤ raw.length := by
          rcases hlength with ⟨rfl, -⟩ | hlt
          · exact Nat.le_refl _
          · exact Nat.le_of_lt hlt
        simp only [List.length_cons, List.length_append]
        omega
      · obtain ⟨⟨tail, last⟩, htail, h⟩ := Option.bind_eq_some_iff.mp h
        cases h
        obtain ⟨raw, rfl, hraw, hlength⟩ := ih htail
        refine ⟨c :: raw, rfl, by simp [hraw, (newline_ne_of_isPlain hp).symm], ?_⟩
        rcases hlength with ⟨rfl, hall⟩ | hlt
        · exact .inl ⟨rfl, List.forall_mem_cons.mpr ⟨⟨hp, hq, hb⟩, hall⟩⟩
        · exact .inr (Nat.succ_lt_succ hlt)

theorem readLiteral?_raw {cs text rest : List Char} (h : readLiteral? cs = some (text, rest)) :
    cs = text ++ '\x27' :: rest ∧ '\n' ∉ text := by
  induction cs generalizing text with
  | nil => cases h
  | cons c cs ih =>
    rw [readLiteral?] at h
    split_ifs at h with hq hp
    · cases h
      exact ⟨by rw [hq]; rfl, by simp⟩
    · obtain ⟨⟨tail, last⟩, htail, h⟩ := Option.bind_eq_some_iff.mp h
      cases h
      obtain ⟨rfl, hraw⟩ := ih htail
      exact ⟨rfl, by simp [hraw, (newline_ne_of_isPlain hp).symm]⟩

theorem newline?_raw {cs rest : List Char} (h : newline? cs = some rest) :
    ∃ front, cs = front ++ '\n' :: rest ∧ (front = [] ∨ front = ['\r']) := by
  unfold newline? at h
  split at h
  · cases h
    exact ⟨[], rfl, .inl rfl⟩
  · cases h
    exact ⟨['\r'], rfl, .inr rfl⟩
  · cases h

theorem newline?_suffix {cs rest : List Char} (h : newline? cs = some rest) : rest <:+ cs := by
  obtain ⟨front, rfl, -⟩ := newline?_raw h
  exact (List.suffix_cons _ _).trans (List.suffix_append _ _)

theorem closing?_eq_some {quote : Char} {cs text rest : List Char}
    (h : closing? quote cs = some (text, rest)) :
    rest <:+ cs ∧ text.length + 3 ≤ (cs.takeWhile (· = quote)).length := by
  unfold closing? at h
  dsimp only at h
  split at h
  · cases h
  · rename_i hrun
    cases h
    refine ⟨List.drop_suffix _ _, ?_⟩
    rw [List.length_replicate]
    omega

theorem lineContinuation?_suffix {cs rest : List Char} (h : lineContinuation? cs = some rest) :
    rest <:+ cs := by
  obtain ⟨after, hafter, h⟩ := Option.bind_eq_some_iff.mp h
  cases h
  exact (List.dropWhile_suffix _).trans ((newline?_suffix hafter).trans (List.dropWhile_suffix _))

/-- What the reader of a long text does at its first character: the quotes close it, a line goes on
in the next one, or the text has one character more. -/
inductive LongStep (fuel : Nat) (c : Char) (cs rest : List Char) : List Char → Prop
  | close {text : List Char} (hc : c = '"') (hclose : closing? '"' (c :: cs) = some (text, rest)) :
      LongStep fuel c cs rest text
  | skip {text after : List Char} (hc : c = '\\') (hskip : lineContinuation? cs = some after)
      (htail : readLongBasic? fuel after = some (text, rest)) : LongStep fuel c cs rest text
  | newline {tail after : List Char} (hc : c ≠ '"') (hnewline : newline? (c :: cs) = some after)
      (htail : readLongBasic? fuel after = some (tail, rest)) :
      LongStep fuel c cs rest ('\n' :: tail)
  | char {d : Char} {raw tail after : List Char} (hd : c = '\\' ∨ d = c) (hcs : cs = raw ++ after)
      (hraw : '\n' ∉ c :: raw) (htail : readLongBasic? fuel after = some (tail, rest)) :
      LongStep fuel c cs rest (d :: tail)

theorem readLongBasic?_step {fuel : Nat} {c : Char} {cs text rest : List Char}
    (h : readLongBasic? (fuel + 1) (c :: cs) = some (text, rest)) :
    LongStep fuel c cs rest text := by
  rw [readLongBasic?] at h
  split at h
  · rename_i hc
    split at h
    · rename_i hclose
      exact .close hc (h ▸ hclose)
    · obtain ⟨⟨tail, last⟩, htail, h⟩ := Option.bind_eq_some_iff.mp h
      cases h
      exact .char (.inr hc.symm) (List.nil_append cs).symm (by simp [hc]) htail
  · rename_i hquote
    split at h
    · rename_i hc
      split at h
      · rename_i hskip
        exact .skip hc hskip h
      · obtain ⟨⟨d, after⟩, hescape, h⟩ := Option.bind_eq_some_iff.mp h
        obtain ⟨⟨tail, last⟩, htail, h⟩ := Option.bind_eq_some_iff.mp h
        cases h
        obtain ⟨raw, hcs, -, hraw⟩ := readEscape?_raw hescape
        exact .char (.inl hc) hcs (by simp [hc, hraw]) htail
    · split at h
      · rename_i hnewline
        obtain ⟨⟨tail, last⟩, htail, h⟩ := Option.bind_eq_some_iff.mp h
        cases h
        exact .newline hquote hnewline htail
      · split at h
        · rename_i hplain
          obtain ⟨⟨tail, last⟩, htail, h⟩ := Option.bind_eq_some_iff.mp h
          cases h
          exact .char (.inr rfl) (List.nil_append cs).symm
            (by simp [(newline_ne_of_isPlain hplain).symm]) htail
        · cases h

theorem readLongBasic?_suffix {fuel : Nat} {cs text rest : List Char}
    (h : readLongBasic? fuel cs = some (text, rest)) : rest <:+ cs := by
  induction fuel generalizing cs text with
  | zero => cases h
  | succ fuel ih =>
    cases cs with
    | nil => cases h
    | cons c cs =>
      cases readLongBasic?_step h with
      | close _ hclose => exact (closing?_eq_some hclose).1
      | skip _ hskip htail =>
        exact (ih htail).trans ((lineContinuation?_suffix hskip).trans (List.suffix_cons c cs))
      | newline _ hnewline htail => exact (ih htail).trans (newline?_suffix hnewline)
      | char _ hcs _ htail =>
        exact (ih htail).trans ((hcs ▸ List.suffix_append _ _).trans (List.suffix_cons c cs))

/-- A line that ends with a quote does not go on in the next one. -/
theorem lineContinuation?_eq_none {line below : List Char} (hline : '\n' ∉ line)
    (hend : line.getLast? = some '"') : lineContinuation? (line ++ '\n' :: below) = none := by
  let blank : Char → Bool := fun c => c = ' ' || c = '\t'
  have hne : line.dropWhile blank ≠ [] := by
    intro hnil
    have hquote := List.dropWhile_eq_nil_iff.mp hnil '"' (List.mem_of_getLast? hend)
    simp [blank] at hquote
  have hdrop : (line ++ '\n' :: below).dropWhile blank =
      line.dropWhile blank ++ '\n' :: below := by
    rw [List.dropWhile_append, if_neg (by simpa using hne)]
  have hlast : (line.dropWhile blank).getLast? = some '"' := by
    have hsplit := congrArg List.getLast? (List.takeWhile_append_dropWhile (p := blank) (l := line))
    rw [List.getLast?_append, hend] at hsplit
    cases hrest : (line.dropWhile blank).getLast? with
    | none => exact absurd (List.getLast?_eq_none_iff.mp hrest) hne
    | some c => rwa [hrest] at hsplit
  have hfree : '\n' ∉ line.dropWhile blank := fun hmem =>
    hline ((List.dropWhile_suffix _).subset hmem)
  cases hnewline : newline? ((line ++ '\n' :: below).dropWhile blank) with
  | none => rw [lineContinuation?, hnewline]; rfl
  | some rest =>
    obtain ⟨front, hfront, hcases⟩ := newline?_raw hnewline
    rw [hdrop] at hfront
    obtain ⟨heq, -⟩ := Text.append_cons_inj hfree (by rcases hcases with rfl | rfl <;> simp) hfront
    rw [heq] at hlast
    rcases hcases with rfl | rfl <;> cases hlast

/-- A long text that ends behind a line holds the newline, and one that ends within it is shorter
than its part of the line by the quotes around it. -/
theorem readLongBasic?_line {fuel : Nat} {text rest line below : List Char}
    (h : readLongBasic? fuel (line ++ '\n' :: below) = some (text, rest)) (hline : '\n' ∉ line)
    (hend : line = [] ∨ line.getLast? = some '"') :
    '\n' ∈ text ∨ text.length + 3 ≤ line.length := by
  induction fuel generalizing line text with
  | zero => cases h
  | succ fuel ih =>
    cases line with
    | nil =>
      rw [List.nil_append, readLongBasic?, if_neg (by decide), if_neg (by decide)] at h
      obtain ⟨⟨tail, last⟩, -, h⟩ := Option.bind_eq_some_iff.mp h
      cases h
      exact .inl List.mem_cons_self
    | cons c line =>
      replace hend := hend.resolve_left (by simp)
      rw [List.cons_append] at h
      cases readLongBasic?_step h with
      | close hc hclose =>
        obtain ⟨-, hlength⟩ := closing?_eq_some hclose
        have hsplit : (c :: (line ++ '\n' :: below)).takeWhile (· = '"') ++
            (c :: (line ++ '\n' :: below)).dropWhile (· = '"') = (c :: line) ++ '\n' :: below :=
          List.takeWhile_append_dropWhile
        obtain ⟨tail, htail, -⟩ := exists_rest_of_line (fun hmem => by
          simpa using List.mem_takeWhile_imp hmem) hsplit
        have hle := congrArg List.length htail
        rw [List.length_append] at hle
        exact .inr (by omega)
      | skip hc hskip htail =>
        cases line with
        | nil => simp [hc] at hend
        | cons d line =>
          rw [List.getLast?_cons_cons] at hend
          rw [lineContinuation?_eq_none (fun hmem => hline (List.mem_cons_of_mem c hmem)) hend]
            at hskip
          cases hskip
      | newline => exact .inl List.mem_cons_self
      | @char d raw tail after hd hcs hraw htail =>
        obtain ⟨left, rfl, rfl⟩ :=
          exists_rest_of_line (fun hmem => hraw (List.mem_cons_of_mem _ hmem)) hcs.symm
        have hleft : left = [] ∨ left.getLast? = some '"' := by
          refine (List.eq_nil_or_concat left).imp_right ?_
          rintro ⟨front, x, rfl⟩
          rw [← List.cons_append, List.getLast?_append] at hend
          simpa using hend
        rcases ih htail (fun hmem => hline (by simp [hmem])) hleft with hmem | hlength
        · exact .inl (List.mem_cons_of_mem _ hmem)
        · refine .inr ?_
          simp only [List.length_cons, List.length_append]
          omega

theorem newline?_line {line below : List Char} (hline : '\n' ∉ line)
    (hend : line.getLast? = some '"') : newline? (line ++ '\n' :: below) = none := by
  cases hnewline : newline? (line ++ '\n' :: below) with
  | none => rfl
  | some rest =>
    obtain ⟨front, hfront, hcases⟩ := newline?_raw hnewline
    obtain ⟨rfl, -⟩ := Text.append_cons_inj hline (by rcases hcases with rfl | rfl <;> simp) hfront
    rcases hcases with rfl | rfl <;> cases hend

/-! ### Texts in quotes -/

theorem readBasic?_verbatim {cs : List Char} (h : ∀ c ∈ cs, IsVerbatim c) {fuel : Nat}
    (hfuel : cs.length < fuel) (rest : List Char) :
    readBasic? fuel (cs ++ '"' :: rest) = some (cs, rest) := by
  induction cs generalizing fuel with
  | nil =>
    obtain ⟨fuel, rfl⟩ := Nat.exists_eq_add_one_of_ne_zero (Nat.ne_of_gt hfuel)
    simp [readBasic?]
  | cons c cs ih =>
    obtain ⟨fuel, rfl⟩ := Nat.exists_eq_add_one_of_ne_zero (by omega : fuel ≠ 0)
    obtain ⟨⟨hplain, hquote, hslash⟩, hcs⟩ := List.forall_mem_cons.mp h
    rw [List.cons_append, readBasic?_plain hquote hslash hplain, ih hcs (by simpa using hfuel)]
    rfl

/-- The text stands between quotes at the end of a line. -/
def quotedLine (cs below : List Char) : List Char := '"' :: (cs ++ '"' :: '\n' :: below)

theorem readString?_verbatim {cs : List Char} (h : ∀ c ∈ cs, IsVerbatim c) (below : List Char) :
    readString? (quotedLine cs below) = some (String.ofList cs, '\n' :: below) := by
  have hopen (tail : List Char) : cs ++ '"' :: '\n' :: below ≠ '"' :: '"' :: tail := by
    cases cs with
    | nil => simp
    | cons c cs =>
      intro heq
      exact (h c (by simp)).2.1 (List.cons.inj heq).1
  rw [quotedLine, readString?_basic hopen,
    readBasic?_verbatim h (by simp only [List.length_append]; omega)]
  rfl

theorem readLongBasic?_head {fuel : Nat} {cs text rest : List Char}
    (h : readLongBasic? fuel cs = some (text, rest)) (hquote : cs.head? ≠ some '"')
    (hslash : cs.head? ≠ some '\\') : text.head? ≠ some '"' := by
  cases fuel with
  | zero => cases h
  | succ fuel =>
    cases cs with
    | nil => cases h
    | cons c cs =>
      have hc : c ≠ '"' := fun hc => hquote (congrArg some hc)
      cases readLongBasic?_step h with
      | close hc' => exact absurd hc' hc
      | skip hc' => exact absurd (congrArg some hc') hslash
      | newline => simp
      | char hd =>
        obtain rfl := hd.resolve_left fun hc' => hslash (congrArg some hc')
        exact hquote

theorem skipNewline_suffix (cs : List Char) : skipNewline cs <:+ cs := by
  unfold skipNewline
  cases hnewline : newline? cs with
  | none => exact List.suffix_rfl
  | some rest => exact newline?_suffix hnewline

/-- Two quotes at the start of a text, or one that is all of it, open a long text. -/
theorem opens_long {cs below tail : List Char}
    (h : cs ++ '"' :: '\n' :: below = '"' :: '"' :: tail) : cs = ['"'] ∧ tail = '\n' :: below ∨
      ∃ inner, cs = '"' :: '"' :: inner ∧ tail = inner ++ '"' :: '\n' :: below := by
  match cs with
  | [] => cases h
  | [c] =>
    simp only [List.cons_append, List.nil_append, List.cons.injEq, true_and] at h
    exact .inl ⟨congrArg (fun c => [c]) h.1, h.2.symm⟩
  | c :: d :: inner =>
    simp only [List.cons_append, List.cons.injEq] at h
    obtain ⟨rfl, rfl, rfl⟩ := h
    exact .inr ⟨inner, rfl, rfl⟩

/-- A long text is never the one that was put between the quotes. -/
theorem readLongBasic?_ne {fuel : Nat} {cs below tail text rest : List Char} (hcs : '\n' ∉ cs)
    (hquote : below.head? ≠ some '"') (hslash : below.head? ≠ some '\\')
    (htail : cs ++ '"' :: '\n' :: below = '"' :: '"' :: tail)
    (h : readLongBasic? fuel (skipNewline tail) = some (text, rest)) : text ≠ cs := by
  rcases opens_long htail with ⟨rfl, rfl⟩ | ⟨inner, rfl, rfl⟩
  · rintro rfl
    exact readLongBasic?_head h hquote hslash rfl
  · have hline : '\n' ∉ inner ++ ['"'] := by simpa using hcs
    have hend : (inner ++ ['"']).getLast? = some '"' := by simp
    have hsplit : inner ++ '"' :: '\n' :: below = (inner ++ ['"']) ++ '\n' :: below := by simp
    rw [hsplit, skipNewline, newline?_line hline hend] at h
    rintro rfl
    rcases readLongBasic?_line h hline (.inr hend) with hmem | hlength
    · exact hcs hmem
    · simp only [List.length_cons, List.length_append, List.length_nil] at hlength
      omega

theorem readBasic?_ne {fuel : Nat} {cs below text rest : List Char}
    (hraw : ¬ ∀ c ∈ cs, IsVerbatim c)
    (h : readBasic? fuel (cs ++ '"' :: '\n' :: below) = some (text, rest)) : text ≠ cs := by
  obtain ⟨raw, hcut, hfree, hcases⟩ := readBasic?_raw h
  obtain ⟨tail, htail, -⟩ : ∃ tail, cs ++ ['"'] = (raw ++ ['"']) ++ tail ∧ _ :=
    exists_rest_of_line (by simpa using hfree) (by simpa using hcut.symm)
  have hlength := congrArg List.length htail
  simp only [List.length_append, List.length_cons, List.length_nil] at hlength
  rintro rfl
  rcases hcases with ⟨rfl, hall⟩ | hlt
  · exact hraw hall
  · omega

/-- Whatever is read of a text between quotes, a text of one line that does not stand for itself is
not read back. The line below must not begin with a quote. -/
theorem readString?_quotedLine {cs below rest : List Char} {text : String} (hcs : '\n' ∉ cs)
    (hquote : below.head? ≠ some '"') (hslash : below.head? ≠ some '\\')
    (h : readString? (quotedLine cs below) = some (text, rest)) :
    rest <:+ quotedLine cs below ∧ ((∀ c ∈ cs, IsVerbatim c) ∨ text.toList ≠ cs) := by
  by_cases hlong : ∃ tail, cs ++ '"' :: '\n' :: below = '"' :: '"' :: tail
  · obtain ⟨tail, htail⟩ := hlong
    rw [quotedLine, htail] at h ⊢
    obtain ⟨⟨long, last⟩, hread, h⟩ := Option.bind_eq_some_iff.mp h
    cases h
    have hopen : tail <:+ '"' :: '"' :: '"' :: tail := ⟨['"', '"', '"'], rfl⟩
    refine ⟨(readLongBasic?_suffix hread).trans ((skipNewline_suffix tail).trans hopen), .inr ?_⟩
    rw [String.toList_ofList]
    exact readLongBasic?_ne hcs hquote hslash htail hread
  · rw [quotedLine, readString?_basic (not_exists.mp hlong)] at h
    obtain ⟨⟨basic, last⟩, hread, h⟩ := Option.map_eq_some_iff.mp h
    cases h
    obtain ⟨raw, hraw, -, -⟩ := readBasic?_raw hread
    have hrest : last <:+ quotedLine cs below :=
      ⟨'"' :: raw ++ ['"'], by simp [quotedLine, hraw]⟩
    refine ⟨hrest, or_iff_not_imp_left.mpr fun hne => ?_⟩
    rw [String.toList_ofList]
    exact readBasic?_ne hne hread

end DeviceConsole.Toml
