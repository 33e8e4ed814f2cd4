import DeviceConsole.Proofs.Settings.Layered
import DeviceConsole.Proofs.Settings.Shown
import DeviceConsole.Proofs.Toml.Assigned
import Mathlib.Data.Finset.Dedup
import Mathlib.Data.Finset.Max

/-! What is read from shown settings, whatever stands in their names and texts. A line that is not
shown as it would have to be written is read as something else, and what it says is then missing: no
other line says it. So settings load back only where every line is shown as it would be written. -/
namespace DeviceConsole

open Toml

namespace ShownLine

/-- Nothing in it starts a new line. -/
def IsOneLine : ShownLine → Prop
  | profile name => '\n' ∉ name.toList
  | entry e => ∀ t, e.2 = .str t → '\n' ∉ t.toList
  | _ => True

/-- The statement is not what the line is meant to say: another value under the same key, or a
header whose name is shorter or stands deeper. -/
def Misreads : ShownLine → Statement → Prop
  | profile name, s => ∃ path key, s = .openTable ("profiles" :: path) key ∧
      (path = [] → key.length < name.length)
  | entry e, s => ∃ v, s = .assign [] e.1 v ∧ v ≠ e.2 ∧ v.isTable = false
  | _, _ => False

theorem readLine?_misreads {l : ShownLine} (hl : l.IsSetting) (hone : l.IsOneLine)
    (hplain : ¬ l.IsPlain) {below rest : List Char} (hquote : below.head? ≠ some '"')
    (hslash : below.head? ≠ some '\\') {statement : Option Statement}
    (h : readLine? (l.chars ++ below) = some (statement, rest)) :
    IsBelow (l.chars ++ below) rest ∧ ∃ s, statement = some s ∧ l.Misreads s := by
  cases l with
  | blank => exact absurd trivial hplain
  | defaults => exact absurd trivial hplain
  | profile name =>
    have hchars : (profile name).chars ++ below = subheader "profiles" name.toList below := by
      simp [chars, subheader]
    rw [hchars] at h ⊢
    obtain ⟨hbelow, path, key, rfl, hkey⟩ := readLine?_subheader_shorter (by decide) hplain h
    exact ⟨hbelow, _, rfl, path, key, rfl, hkey⟩
  | entry e =>
    obtain ⟨hbelow, v, rfl, hv⟩ :=
      readLine?_settingLine_ne hl.1 hl.2 hplain hone hquote hslash h
    exact ⟨hbelow, _, rfl, v, rfl, hv⟩

/-! ### Lines of a text -/

theorem chars_line {l : ShownLine} (hl : l.IsSetting) (hone : l.IsOneLine) :
    ∃ line, l.chars = line ++ ['\n'] ∧ '\n' ∉ line := by
  cases l with
  | blank => exact ⟨[], rfl, by simp⟩
  | defaults => exact ⟨'[' :: ("defaults".toList ++ [']']), rfl, by decide⟩
  | profile name =>
    have hname : '\n' ∉ name.toList := hone
    exact ⟨'[' :: ("profiles".toList ++ '.' :: (name.toList ++ [']'])), by simp [chars, subheader],
      by simpa using hname⟩
  | entry e =>
    obtain ⟨key, j⟩ := e
    have hkey : '\n' ∉ key.toList := fun hmem => isBare_ne (hl.1.isBare hmem) rfl rfl
    by_cases htext : ∃ t, j = .str t
    · obtain ⟨t, rfl⟩ := htext
      refine ⟨key.toList ++ [' ', '=', ' ', '"'] ++ t.toList ++ ['"'], ?_, ?_⟩
      · simp [chars, View.settingLine]
      · simpa using ⟨hkey, hone t rfl⟩
    · obtain ⟨word, -, hword, hline, -⟩ := exists_shownWord hl.2 (not_exists.mp htext)
      have hfree : '\n' ∉ word := fun hmem => absurd (hword _ hmem) (by decide)
      refine ⟨key.toList ++ [' ', '=', ' '] ++ word, ?_, by simpa using ⟨hkey, hfree⟩⟩
      have hchars := hline key []
      rw [List.append_nil] at hchars
      simp [chars, hchars]

theorem text_cons (l : ShownLine) (ls : List ShownLine) : text (l :: ls) = l.chars ++ text ls :=
  List.flatMap_cons

/-- What stands behind a newline in the text of lines is the text of later ones. -/
theorem text_below {ls : List ShownLine} (hls : ∀ l ∈ ls, l.IsSetting ∧ l.IsOneLine)
    {front rest : List Char} (h : text ls = front ++ '\n' :: rest) :
    ∃ ms, ms <:+ ls.tail ∧ rest = text ms := by
  induction ls generalizing front with
  | nil => simp [text] at h
  | cons l ls ih =>
    obtain ⟨⟨hl, hone⟩, hbelow⟩ := List.forall_mem_cons.mp hls
    obtain ⟨line, hline, hfree⟩ := chars_line hl hone
    rw [text_cons, hline, List.append_assoc, List.singleton_append] at h
    by_cases hmem : '\n' ∈ front
    · -- the newline stands in a line behind the first one
      obtain ⟨before, after, rfl, hbefore⟩ := List.eq_append_cons_of_mem hmem
      rw [List.append_assoc, List.cons_append] at h
      obtain ⟨ms, hms, hrest⟩ := ih hbelow (Text.append_cons_inj hfree hbefore h).2
      exact ⟨ms, hms.trans (List.tail_suffix ls), hrest⟩
    · exact ⟨ls, List.suffix_refl ls, (Text.append_cons_inj hfree hmem h).2.symm⟩

/-- The text of lines starts with a bare character, a bracket or a newline. -/
theorem text_head {ls : List ShownLine} (hls : ∀ l ∈ ls, l.IsSetting) {c : Char}
    (hc : isBare c = false) (hopen : c ≠ '[') (hnewline : c ≠ '\n') : (text ls).head? ≠ some c := by
  cases ls with
  | nil => simp [text]
  | cons l ls =>
    have hl := hls l List.mem_cons_self
    rw [text_cons, ne_eq, List.head?_eq_some_iff]
    rintro ⟨tail, htail⟩
    cases l with
    | blank => exact hnewline (List.cons.inj htail).1.symm
    | defaults => exact hopen (List.cons.inj htail).1.symm
    | profile name => exact hopen (List.cons.inj htail).1.symm
    | entry e =>
      obtain ⟨d, ds, hkey⟩ := List.exists_cons_of_ne_nil hl.1.1
      have hd : isBare d = true := hl.1.isBare (hkey ▸ List.mem_cons_self)
      simp only [chars, View.settingLine, String.toList_append, hkey, List.cons_append] at htail
      exact isBare_ne hd hc (List.cons.inj htail).1

/-! ### Statements -/

/-- What a reader makes of lines: it takes each as it was meant, or takes something else from it and
goes on at some later line. -/
inductive Heard : List ShownLine → List Statement → Prop
  | nil : Heard [] []
  | plain {l : ShownLine} {ls : List ShownLine} {statements : List Statement} (hl : l.IsPlain)
      (h : Heard ls statements) : Heard (l :: ls) (l.statement?.toList ++ statements)
  | misread {l : ShownLine} {ls ms : List ShownLine} {s : Statement} {statements : List Statement}
      (hl : ¬ l.IsPlain) (hs : l.Misreads s) (hms : ms <:+ ls) (h : Heard ms statements) :
      Heard (l :: ls) (s :: statements)

/-- One line: it is taken as it was meant, or the reader goes on at a later one. -/
theorem readLine?_text {l : ShownLine} {ls : List ShownLine}
    (hls : ∀ m ∈ l :: ls, m.IsSetting ∧ m.IsOneLine) {statement : Option Statement}
    {rest : List Char} (h : readLine? (text (l :: ls)) = some (statement, rest)) :
    l.IsPlain ∧ statement = l.statement? ∧ rest = text ls ∨
      ¬ l.IsPlain ∧ ∃ s ms, statement = some s ∧ l.Misreads s ∧ ms <:+ ls ∧ rest = text ms := by
  obtain ⟨⟨hl, hone⟩, hbelow⟩ := List.forall_mem_cons.mp hls
  rw [text_cons] at h
  by_cases hplain : l.IsPlain
  · rw [readLine?_plain hl hplain] at h
    cases h
    exact .inl ⟨hplain, rfl, rfl⟩
  · have hhead {c : Char} (hc : isBare c = false) (hopen : c ≠ '[') (hnewline : c ≠ '\n') :=
      text_head (fun m hm => (hbelow m hm).1) hc hopen hnewline
    obtain ⟨hrest, s, rfl, hs⟩ := readLine?_misreads hl hone hplain
      (hhead rfl (by decide) (by decide)) (hhead rfl (by decide) (by decide)) h
    refine .inr ⟨hplain, s, ?_⟩
    rcases hrest with rfl | ⟨front, hfront⟩
    · exact ⟨[], rfl, hs, List.nil_suffix, rfl⟩
    · obtain ⟨ms, hms, rfl⟩ := text_below hls ((text_cons l ls).trans hfront)
      exact ⟨ms, rfl, hs, hms, rfl⟩

theorem heard_of_readStatements? {fuel : Nat} {ls : List ShownLine} {statements : List Statement}
    (hls : ∀ l ∈ ls, l.IsSetting ∧ l.IsOneLine)
    (h : readStatements? fuel (text ls) = some statements) : Heard ls statements := by
  have hne (l : ShownLine) (ls : List ShownLine) : text (l :: ls) ≠ [] := by
    rw [text_cons]
    exact List.append_ne_nil_of_left_ne_nil (List.length_pos_iff.mp l.chars_length_pos) _
  induction fuel generalizing ls statements with
  | zero =>
    cases ls with
    | nil =>
      cases h
      exact .nil
    | cons l ls =>
      rw [readStatements?.eq_2 _ (hne l ls)] at h
      cases h
  | succ fuel ih =>
    cases ls with
    | nil =>
      cases h
      exact .nil
    | cons l ls =>
      rw [readStatements?.eq_3 _ _ (hne l ls)] at h
      obtain ⟨⟨statement, rest⟩, hline, h⟩ := Option.bind_eq_some_iff.mp h
      obtain ⟨tail, htail, h⟩ := Option.bind_eq_some_iff.mp h
      cases h
      obtain ⟨-, hbelow⟩ := List.forall_mem_cons.mp hls
      rcases readLine?_text hls hline with
        ⟨hplain, rfl, rfl⟩ | ⟨hplain, s, ms, rfl, hs, hms, rfl⟩
      · exact .plain hplain (ih hbelow htail)
      · exact .misread hplain hs hms (ih (fun m hm => hbelow m (hms.subset hm)) htail)

variable {ls : List ShownLine} {statements : List Statement}

/-- What a reader may take from lines. A header with nothing in between is that of a bare name as it
stands, or shorter than a name that is not bare. -/
inductive MayBeHeard (ls : List ShownLine) : Statement → Prop
  | assign {key : String} {v : Json} (hv : v.isTable = false) : MayBeHeard ls (.assign [] key v)
  | defaults : MayBeHeard ls (.openTable [] "defaults")
  | profile {name : String} {inner : List String} {key : String} (hname : .profile name ∈ ls)
      (hkey : inner = [] →
        key = name ∧ IsBareKey name ∨ key.length < name.length ∧ ¬ IsBareKey name) :
      MayBeHeard ls (.openTable ("profiles" :: inner) key)

theorem mayBeHeard_of_plain {l : ShownLine} (hl : l ∈ ls) (hsetting : l.IsSetting)
    (hplain : l.IsPlain) {s : Statement} (hs : l.statement? = some s) : MayBeHeard ls s := by
  cases l with
  | blank => cases hs
  | defaults =>
    cases hs
    exact .defaults
  | profile name =>
    cases hs
    exact .profile hl fun _ => .inl ⟨rfl, hplain⟩
  | entry e =>
    cases hs
    exact .assign hsetting.2.isTable_eq_false

theorem mayBeHeard_of_misreads {l : ShownLine} (hl : l ∈ ls) (hplain : ¬ l.IsPlain) {s : Statement}
    (hs : l.Misreads s) : MayBeHeard ls s := by
  cases l with
  | blank => exact hs.elim
  | defaults => exact hs.elim
  | profile name =>
    obtain ⟨inner, key, rfl, hkey⟩ := hs
    exact .profile hl fun hinner => .inr ⟨hkey hinner, hplain⟩
  | entry e =>
    obtain ⟨v, rfl, -, hv⟩ := hs
    exact .assign hv

theorem Heard.forall_mem (h : Heard ls statements) (hls : ∀ l ∈ ls, l.IsSetting) :
    ∀ s ∈ statements, MayBeHeard ls s := by
  have hmono {ls ms : List ShownLine} (hms : ms ⊆ ls) {s : Statement} (h : MayBeHeard ms s) :
      MayBeHeard ls s := by
    cases h with
    | assign hv => exact .assign hv
    | defaults => exact .defaults
    | profile hname hkey => exact .profile (hms hname) hkey
  induction h with
  | nil => simp
  | @plain l ls statements hl _ ih =>
    obtain ⟨hsetting, hls⟩ := List.forall_mem_cons.mp hls
    refine List.forall_mem_append.mpr ⟨fun s hs => ?_, fun s hs => ?_⟩
    · exact mayBeHeard_of_plain List.mem_cons_self hsetting hl (Option.mem_toList.mp hs)
    · exact hmono (List.subset_cons_self l ls) (ih hls s hs)
  | @misread l ls ms s statements hl hs hms _ ih =>
    have hsubset : ms ⊆ l :: ls := fun m hm => List.mem_cons_of_mem l (hms.subset hm)
    exact List.forall_mem_cons.mpr ⟨mayBeHeard_of_misreads List.mem_cons_self hl hs, fun s hs =>
      hmono hsubset (ih (fun m hm => hls m (hsubset hm)) s hs)⟩

theorem MayBeHeard.not_isOpenItem {s : Statement} (h : MayBeHeard ls s) : ¬ s.IsOpenItem := by
  intro hitem
  cases h <;> cases hitem

theorem isTable_of_mayBeHeard (h : ∀ s ∈ statements, MayBeHeard ls s) {a : List String × Json}
    (ha : a ∈ assigned [] statements) : a.2.isTable = false := by
  obtain ⟨table, path, key, -, hassign, -⟩ := mem_assigned ha
  cases h _ hassign with
  | assign hv => exact hv

/-- A value below the profiles stands under a header, which is the rest of its path. -/
theorem exists_header_of_mayBeHeard (h : ∀ s ∈ statements, MayBeHeard ls s) {first : String}
    {rest : List String} {v : Json}
    (ha : ("profiles" :: first :: rest, v) ∈ assigned [] statements) : ∃ inner name key,
      first :: rest = inner ++ [name, key] ∧ .openTable ("profiles" :: inner) name ∈ statements := by
  obtain ⟨table, path, key, hpath, hassign, htable⟩ := mem_assigned ha
  cases h _ hassign with
  | assign hv =>
    rcases htable with rfl | ⟨above, name, rfl, hopen⟩
    · cases hpath
    · have hopen : .openTable above name ∈ statements :=
        hopen.resolve_right fun hitem => (h _ hitem).not_isOpenItem trivial
      cases h _ hopen with
      | defaults => exact absurd (List.cons.inj hpath).1 (by decide)
      | @profile _ inner _ _ _ => exact ⟨inner, name, key, by simpa using hpath, hopen⟩

/-- Unless all lines are taken as they were meant, there is a first that is not. -/
theorem Heard.plain_or_misread (h : Heard ls statements) : (∀ l ∈ ls, l.IsPlain) ∨
    ∃ front l back s rest, ls = front ++ l :: back ∧ ¬ l.IsPlain ∧ l.Misreads s ∧
      statements = told front ++ s :: rest := by
  induction h with
  | nil => exact .inl (by simp)
  | @plain l ls statements hl _ ih =>
    refine ih.imp (fun hls => List.forall_mem_cons.mpr ⟨hl, hls⟩) ?_
    rintro ⟨front, m, back, s, rest, rfl, hm, hs, rfl⟩
    exact ⟨l :: front, m, back, s, rest, rfl, hm, hs, by rw [told_cons, List.append_assoc]⟩
  | @misread l ls ms s statements hl hs _ _ _ => exact .inr ⟨[], l, ls, s, _, rfl, hl, hs, rfl⟩

end ShownLine

/-! ### Settings that load back -/

namespace Settings

open ShownLine (text told IsOneLine Heard MayBeHeard)

variable {s : Settings} {name : String} {environment : List (String × String)}

theorem assigned_opened (here path : List String) (name : String) (entries : List (String × Json))
    (rest : List Statement) : assigned here (opened path name entries ++ rest) =
      (entries.map fun e => (path ++ [name] ++ [e.1], e.2)) ++ assigned (path ++ [name]) rest := by
  have hassigns (there : List String) : assigned there (assigns entries) =
      entries.map (fun e => (there ++ [e.1], e.2)) ∧ openAfter there (assigns entries) = there := by
    induction entries with
    | nil => exact ⟨rfl, rfl⟩
    | cons e entries ih =>
      obtain ⟨hassigned, hopen⟩ := ih
      simp only [assigns, List.map_cons, assigned, openAfter, List.append_nil] at hassigned hopen ⊢
      exact ⟨congrArg _ hassigned, hopen⟩
  obtain ⟨hassigned, hopen⟩ := hassigns (path ++ [name])
  rw [opened, List.cons_append, assigned, assigned_append, hassigned, hopen]

theorem mem_assigned_profiles {here : List String} {profiles : List (String × Profile)}
    {a : List String × Json} (ha : a ∈ assigned here
      (profiles.flatMap fun e => opened ["profiles"] e.1 e.2.entries)) :
    ∃ e ∈ profiles, ∃ f ∈ e.2.entries, a = (["profiles", e.1, f.1], f.2) := by
  induction profiles generalizing here with
  | nil => cases ha
  | cons e profiles ih =>
    rw [List.flatMap_cons, assigned_opened] at ha
    rcases List.mem_append.mp ha with ha | ha
    · obtain ⟨f, hf, rfl⟩ := List.mem_map.mp ha
      exact ⟨e, List.mem_cons_self, f, hf, rfl⟩
    · obtain ⟨e', he', hf⟩ := ih ha
      exact ⟨e', List.mem_cons_of_mem e he', hf⟩

/-- What the lines are meant to assign are the settings themselves. -/
theorem exists_leaf_of_assigned (hname : s.defaultProfile = some name) {a : List String × Json}
    (ha : a ∈ assigned [] (told (s.shownLines name))) :
    ∃ leaf : Leaf, leaf.path = a.1 ∧ s.value? leaf = some a.2 := by
  rw [told_shownLines, assigned, assigned_opened] at ha
  rcases List.mem_cons.mp ha with rfl | ha
  · exact ⟨.defaultProfile, rfl, congrArg (Option.map Json.str) hname⟩
  · rcases List.mem_append.mp ha with ha | ha
    · obtain ⟨e, he, rfl⟩ := List.mem_map.mp ha
      rw [Defaults.entries_eq_present] at he
      obtain ⟨i, hi, hvalue⟩ := Json.exists_index_of_mem_present he
      exact ⟨.default i, congrArg (["defaults", ·]) hi, hvalue⟩
    · obtain ⟨e, he, f, hf, rfl⟩ := mem_assigned_profiles ha
      rw [Profile.entries_eq_present] at hf
      obtain ⟨i, hi, hvalue⟩ := Json.exists_index_of_mem_present hf
      refine ⟨.profile e.1 i, congrArg (["profiles", e.1, ·]) hi, ?_⟩
      rw [value?, Dictionary.get?_of_mem he]
      exact hvalue

/-! What a file assigns is what its settings have, and the other way round. -/

section Loaded

variable {file : Option String} {statements : List Statement} {entries : Entries} {leaf : Leaf}

theorem value?_of_file {layer : Json} (h : load file environment = .ok s)
    (henv : ∀ e ∈ environment, Variable.place? e.1 = none) (hfile : fileLayer? file = some layer)
    (hrecord : ¬ layer.EndsAt leaf.record) :
    s.value? leaf = (layer.at? leaf.path).or (builtIn? leaf) := by
  have hvars := Variable.layer_eq_nil henv
  have hends : ¬ (Json.obj []).EndsAt leaf.record := by cases leaf <;> rintro ⟨⟩
  have hnone : (Json.obj []).at? leaf.path = none := by cases leaf <;> rfl
  rw [value?_of_tables h hfile (hvars ▸ hends) hrecord, hvars, hnone]
  simp

theorem value?_of_assigned (h : load file environment = .ok s)
    (henv : ∀ e ∈ environment, Variable.place? e.1 = none)
    (hfile : fileLayer? file = some (Toml.toJson entries))
    (hitems : ∀ s ∈ statements, ¬ s.IsOpenItem) (hentries : ofStatements? statements = some entries)
    {v : Json} (hv : v.isTable = false)
    (hassigned : (leaf.path, v) ∈ assigned [] statements) : s.value? leaf = some v := by
  have hleaf : (Toml.toJson entries).HasLeaf leaf.path v :=
    (hasLeaf_iff_assigned hitems hentries _ _).mpr
      ⟨_, hassigned, [], (List.append_nil _).symm, by rw [Json.at?_nil], hv⟩
  have hrecord : ¬ (Toml.toJson entries).EndsAt leaf.record := fun hends =>
    absurd (hleaf.1.symm.trans (Leaf.at?_of_endsAt hends)) (Option.some_ne_none v)
  rw [value?_of_file h henv hfile hrecord, hleaf.1, Option.some_or]

theorem mem_assigned_of_hasLeaf (hitems : ∀ s ∈ statements, ¬ s.IsOpenItem)
    (hentries : ofStatements? statements = some entries)
    (hvalues : ∀ a ∈ assigned [] statements, a.2.isTable = false) {path : List String} {v : Json}
    (h : (Toml.toJson entries).HasLeaf path v) : (path, v) ∈ assigned [] statements := by
  obtain ⟨⟨above, j⟩, ha, rest, rfl, hrest⟩ := (hasLeaf_iff_assigned hitems hentries path v).mp h
  obtain ⟨rfl, rfl⟩ := (Json.hasLeaf_of_isTable_eq_false (hvalues _ ha)).mp hrest
  rwa [List.append_nil]

end Loaded

theorem exists_heard_of_load (hname : s.defaultProfile = some name)
    (hone : ∀ l ∈ s.shownLines name, l.IsOneLine) {s' : Settings}
    (h : load (some (View.settingsText s ++ "\n")) environment = .ok s') :
    ∃ statements entries, Heard (s.shownLines name) statements ∧
      ofStatements? statements = some entries ∧
      fileLayer? (some (View.settingsText s ++ "\n")) = some (Toml.toJson entries) := by
  obtain ⟨layer, hfile⟩ := exists_fileLayer h
  obtain ⟨tail, htail⟩ := exists_shownText_tail hname
  have hparse : Toml.parse? (View.settingsText s ++ "\n") = some layer := hfile
  rw [parse?_eq htail (by decide)] at hparse
  obtain ⟨statements, hread, hparse⟩ := Option.bind_eq_some_iff.mp hparse
  obtain ⟨entries, hentries, rfl⟩ := Option.map_eq_some_iff.mp hparse
  rw [shownText_toList hname] at hread
  exact ⟨statements, entries, ShownLine.heard_of_readStatements?
    (fun l hl => ⟨s.isSetting_shownLines name l hl, hone l hl⟩) hread, hentries, hfile⟩

theorem exists_of_profile_mem {key : String} (h : .profile key ∈ s.shownLines name) :
    ∃ e ∈ s.profiles.entries, e.1 = key := by
  have hall : ∀ l ∈ s.shownLines name, ∀ k, l = .profile k →
      ∃ e ∈ s.profiles.entries, e.1 = k := by
    refine forall_mem_shownLines.mpr ⟨by simp, by simp, by simp, by simp, fun e he => ⟨?_, by simp⟩⟩
    rintro k ⟨⟩
    exact ⟨e, he, rfl⟩
  exact hall _ h key rfl

section Heard

variable {statements : List Statement} {entries : Entries}

/-- Every profile has a header of its own, since nothing else gives it a server. -/
theorem openTable_mem_of_load {file : Option String} {ls : List ShownLine}
    (h : load file environment = .ok s) (henv : ∀ e ∈ environment, Variable.place? e.1 = none)
    (hfile : fileLayer? file = some (Toml.toJson entries))
    (hentries : ofStatements? statements = some entries)
    (hforms : ∀ s ∈ statements, MayBeHeard ls s) :
    ∀ e ∈ s.profiles.entries, .openTable ["profiles"] e.1 ∈ statements := by
  intro e he
  have hmem {path : List String} {v : Json} (hleaf : (Toml.toJson entries).HasLeaf path v) :=
    mem_assigned_of_hasLeaf (fun s hs => (hforms s hs).not_isOpenItem) hentries
      (fun a => ShownLine.isTable_of_mayBeHeard hforms) hleaf
  let leaf : Leaf := .profile e.1 ⟨0, by decide⟩
  have hrecord : ¬ (Toml.toJson entries).EndsAt leaf.record := by
    intro hends
    obtain ⟨v, hv⟩ := Json.endsAt_iff.mp hends
    obtain ⟨inner, last, key, hpath, -⟩ := ShownLine.exists_header_of_mayBeHeard hforms (hmem hv)
    simpa using congrArg List.length hpath
  have hserver : s.value? leaf = some (.str e.2.server) := by
    rw [value?, Dictionary.get?_of_mem he]
    rfl
  have hbuilt : builtIn? leaf = none := rfl
  rw [value?_of_file h henv hfile hrecord, hbuilt, Option.or_none] at hserver
  obtain ⟨inner, last, key, hpath, hopen⟩ :=
    ShownLine.exists_header_of_mayBeHeard hforms (hmem ⟨hserver, rfl⟩)
  change [e.1, leaf.key] = inner ++ [last, key] at hpath
  have hlength := congrArg List.length hpath
  simp only [List.length_append, List.length_cons, List.length_nil] at hlength
  obtain rfl : inner = [] := List.length_eq_zero_iff.mp (by omega)
  obtain rfl : e.1 = last := (List.cons.inj hpath).1
  exact hopen

/-- Names that load back are bare: the header of the longest that is not can only be that of one
still longer. -/
theorem isBareKey_of_openTable_mem (hforms : ∀ st ∈ statements, MayBeHeard (s.shownLines name) st)
    (hheaders : ∀ e ∈ s.profiles.entries, .openTable ["profiles"] e.1 ∈ statements) :
    ∀ e ∈ s.profiles.entries, IsBareKey e.1 := by
  by_contra! hbad
  obtain ⟨e, he, hnot⟩ := hbad
  obtain ⟨longest, hlongest, hmax⟩ :=
    (s.profiles.entries.toFinset.filter fun e => ¬ IsBareKey e.1).exists_max_image
      (fun e => e.1.length) ⟨e, by simpa using ⟨he, hnot⟩⟩
  obtain ⟨hmem, hlongest⟩ : longest ∈ s.profiles.entries ∧ ¬ IsBareKey longest.1 := by
    simpa using hlongest
  cases hforms _ (hheaders longest hmem) with
  | profile hother hkey =>
    rcases hkey rfl with ⟨rfl, hbare⟩ | ⟨hlt, hother'⟩
    · exact hlongest hbare
    · obtain ⟨other, hin, rfl⟩ := exists_of_profile_mem hother
      exact absurd (hmax other (by simpa using ⟨hin, hother'⟩)) (Nat.not_le.mpr hlt)

end Heard

/-- Settings of one-line texts that load back have only lines that are shown as they would have to
be written. -/
theorem forall_isPlain_of_load (hname : s.defaultProfile = some name)
    (hone : ∀ l ∈ s.shownLines name, l.IsOneLine)
    (h : load (some (View.settingsText s ++ "\n")) environment = .ok s)
    (henv : ∀ e ∈ environment, Variable.place? e.1 = none) :
    ∀ l ∈ s.shownLines name, l.IsPlain := by
  obtain ⟨statements, entries, hheard, hentries, hfile⟩ := exists_heard_of_load hname hone h
  have hforms := hheard.forall_mem (s.isSetting_shownLines name)
  have hbare := isBareKey_of_openTable_mem hforms
    (openTable_mem_of_load h henv hfile hentries hforms)
  rcases hheard.plain_or_misread with hplain | ⟨front, l, back, st, rest, hls, hnot, hmis, rfl⟩
  · exact hplain
  · have hmem : l ∈ s.shownLines name := hls ▸ List.mem_append_right front List.mem_cons_self
    exfalso
    cases l with
    | blank => exact hmis
    | defaults => exact hmis
    | profile key =>
      obtain ⟨e, he, rfl⟩ := exists_of_profile_mem hmem
      exact hnot (hbare e he)
    | entry e =>
      -- the wrong value stands where the right one would have
      obtain ⟨v, rfl, hne, hv⟩ := hmis
      have hmeant : (openAfter [] (told front) ++ [e.1], e.2) ∈
          assigned [] (told (s.shownLines name)) := by
        rw [hls, told_append, assigned_append, ShownLine.told_cons]
        simp [ShownLine.statement?, assigned]
      obtain ⟨leaf, hpath, hvalue⟩ := exists_leaf_of_assigned hname hmeant
      have hheard : (leaf.path, v) ∈
          assigned [] (told front ++ Statement.assign [] e.1 v :: rest) := by
        rw [hpath, assigned_append]
        simp [assigned]
      have hloaded := value?_of_assigned h henv hfile
        (fun st hst => (hforms st hst).not_isOpenItem) hentries hv hheard
      exact hne (Option.some.inj (hloaded.symm.trans hvalue))

theorem forall_isOneLine {s : Settings} (hname : s.defaultProfile = some name)
    (h : ∀ t ∈ s.profiles.entries.map (·.1) ++ s.texts, '\n' ∉ t.toList) :
    ∀ l ∈ s.shownLines name, l.IsOneLine := by
  obtain ⟨hnames, htexts⟩ := List.forall_mem_append.mp h
  obtain ⟨hdefault, houtput, hprofiles⟩ := (forall_mem_texts hname).mp htexts
  refine forall_mem_shownLines.mpr ⟨trivial, trivial, ?_, ?_, fun e he => ⟨?_, ?_⟩⟩
  · rintro t ⟨⟩
    exact hdefault
  · simp [Defaults.entries, IsOneLine, Json.ofNat, houtput]
  · exact hnames _ (List.mem_map_of_mem he)
  · simpa [Profile.entries, IsOneLine, Json.ofNat, or_imp, forall_and] using hprofiles e he

end Settings

namespace SettingsCommand

open Settings

theorem shown_settings {s : Settings} {name : String} (hname : s.defaultProfile = some name)
    {g : GlobalOptions} (houtput : g.output = .table) (hquiet : g.quiet = false) :
    (g.display (View.settings s)).shown = View.settingsText s ++ "\n" := by
  have hne : (View.settingsText s).isEmpty = false := by
    obtain ⟨tail, htail⟩ := exists_shownText_tail hname
    by_contra hempty
    rw [String.isEmpty_iff.mp (Bool.eq_true_of_not_eq_false hempty)] at htail
    cases htail
  rw [GlobalOptions.display, GlobalOptions.print, houtput, hquiet]
  change (if (false || (View.settingsText s).isEmpty) = true then _ else _) = _
  rw [hne]
  rfl

/-- What is shown of settings with a default profile loads to them if every part is shown as it
would have to be written. If no name and no text starts a new line, it does so only then. -/
theorem run_show_loads {s : Settings} {name : String} (hname : s.defaultProfile = some name)
    {g : GlobalOptions} (houtput : g.output = .table) (hquiet : g.quiet = false)
    {environment : List (String × String)}
    (henv : ∀ e ∈ environment, Variable.place? e.1 = none) :
    let text := (g.display (View.settings s)).shown
    (∀ w : Surroundings, w.settings = s → (run w g .show).shown = text) ∧
    (s.IsShownAsIs → load (some text) environment = .ok s) ∧
    ((∀ t ∈ s.profiles.entries.map (·.1) ++ s.texts, '\n' ∉ t.toList) →
      (load (some text) environment = .ok s ↔ s.IsShownAsIs)) := by
  intro text
  have htext : text = View.settingsText s ++ "\n" := shown_settings hname houtput hquiet
  have hload (h : s.IsShownAsIs) : load (some text) environment = .ok s := by
    rw [htext]
    exact load_shown hname ((forall_isPlain_iff hname).mpr h) henv
  refine ⟨?_, hload, fun hone => ⟨fun h => ?_, hload⟩⟩
  · rintro w rfl
    rfl
  · rw [htext] at h
    exact (forall_isPlain_iff hname).mp
      (forall_isPlain_of_load hname (forall_isOneLine hname hone) h henv)

def oneProfile (name : String) : Settings :=
  { defaultProfile := some name, profiles := .ofList [(name, { server := "http://h" })] }

/-- A name with a dot would have to stand in quotes. -/
theorem run_show_loads_lab :
    load (some (({} : GlobalOptions).display (View.settings (oneProfile "lab"))).shown)
      [("HOME", "/root")] = .ok (oneProfile "lab") ∧
    load (some (({} : GlobalOptions).display (View.settings (oneProfile "a.b"))).shown)
      [("HOME", "/root")] ≠ .ok (oneProfile "a.b") := by
  have henv : ∀ e ∈ [("HOME", "/root")], Variable.place? e.1 = none := by
    simp only [List.forall_mem_cons]
    exact ⟨by decide, by simp⟩
  have hshown : (oneProfile "lab").IsShownAsIs := by decide +kernel
  have hdotted : ¬ (oneProfile "a.b").IsShownAsIs := by decide +kernel
  have hone : ∀ t ∈ (oneProfile "a.b").profiles.entries.map (·.1) ++ (oneProfile "a.b").texts,
      '\n' ∉ t.toList := by decide +kernel
  obtain ⟨-, hloads, -⟩ := @run_show_loads (oneProfile "lab") "lab" rfl {} rfl rfl _ henv
  obtain ⟨-, -, hexact⟩ := @run_show_loads (oneProfile "a.b") "a.b" rfl {} rfl rfl _ henv
  exact ⟨hloads hshown, fun h => hdotted ((hexact hone).mp h)⟩

def dottedText : String :=
  "default_profile = \"a.b\"\n[profiles.\"a.b\"]\nserver = \"http://h\"\n"

/-- The file with the name in quotes loads, and what is shown of it does not load back. -/
theorem run_show_dotted :
    let w := ofFile dottedText
    Settings.load w.settingsFile w.environment = .ok (oneProfile "a.b") ∧
    w.settings = oneProfile "a.b" ∧ (oneProfile "a.b").defaultProfile = some "a.b" ∧
    Settings.load (some (run w {} .show).shown) w.environment ≠ .ok (oneProfile "a.b") := by
  intro w
  have hload : Settings.load w.settingsFile w.environment = .ok (oneProfile "a.b") := by
    decide +kernel
  have hsettings : w.settings = oneProfile "a.b" := by
    rw [Surroundings.settings, loadOrDefault, hload]
  have hshown : (run w {} .show).shown = View.settingsText (oneProfile "a.b") ++ "\n" := by
    rw [run, hsettings]
    exact shown_settings rfl rfl rfl
  refine ⟨hload, hsettings, rfl, fun h => ?_⟩
  rw [hshown] at h
  have hone : ∀ l ∈ (oneProfile "a.b").shownLines "a.b", l.IsOneLine :=
    forall_isOneLine rfl (by decide +kernel)
  have hplain := forall_isPlain_of_load rfl hone h (by simp [w, ofFile])
  exact absurd ((forall_isPlain_iff rfl).mp hplain) (by decide +kernel)

end SettingsCommand
end DeviceConsole
