import DeviceConsole.Proofs.Settings.Kept
import DeviceConsole.Proofs.Toml.Shown

/-! Settings as they are shown, line by line. Where every line is shown as it would have to be
written, the text is a file that loads to the settings. -/
namespace DeviceConsole

open Toml Layer Layer.overlay

/-! ### Lines -/

/-- A line of shown settings. -/
inductive ShownLine where
  | blank
  | defaults
  | profile (name : String)
  | entry (e : String × Json)

namespace ShownLine

/-- Its characters, with the newline. -/
def chars : ShownLine → List Char
  | blank => ['\n']
  | defaults => '[' :: ("defaults".toList ++ [']', '\n'])
  | profile name => subheader "profiles" name.toList []
  | entry e => (View.settingLine e).toList

/-- What it is meant to say. -/
def statement? : ShownLine → Option Statement
  | blank => none
  | defaults => some (.openTable [] "defaults")
  | profile name => some (.openTable ["profiles"] name)
  | entry e => some (.assign [] e.1 e.2)

/-- It says so as it stands. -/
def IsPlain : ShownLine → Prop
  | blank => True
  | defaults => True
  | profile name => IsBareKey name
  | entry e => IsShownAsIs e.2

/-- An assignment in it is one of a setting. -/
def IsSetting : ShownLine → Prop
  | entry e => IsBareKey e.1 ∧ IsStorable e.2
  | _ => True

theorem readLine?_plain {l : ShownLine} (hl : l.IsSetting) (hplain : l.IsPlain)
    (below : List Char) : readLine? (l.chars ++ below) = some (l.statement?, below) := by
  cases l with
  | blank => exact readLine?_blank below
  | defaults =>
    have hheader := @readLine?_table "defaults" (by decide) below
    simpa only [chars, statement?, List.cons_append, List.append_assoc, List.nil_append]
      using hheader
  | profile name =>
    have hheader := @readLine?_subheader "profiles" name (by decide) hplain below
    simpa [chars, subheader, statement?] using hheader
  | entry e => exact readLine?_settingLine hl.1 hl.2 hplain below

theorem chars_length_pos (l : ShownLine) : 0 < l.chars.length := by
  cases l with
  | blank => decide
  | defaults => exact Nat.succ_pos _
  | profile name => exact Nat.succ_pos _
  | entry e =>
    have hend : "\n".toList.length = 1 := rfl
    simp only [chars, View.settingLine, String.toList_append, List.length_append, hend]
    omega

/-- The characters of lines one below the other. -/
def text (ls : List ShownLine) : List Char := ls.flatMap chars

/-- What lines are meant to say. -/
def told (ls : List ShownLine) : List Statement := ls.filterMap statement?

theorem told_cons (l : ShownLine) (ls : List ShownLine) :
    told (l :: ls) = l.statement?.toList ++ told ls := by
  rw [told, List.filterMap_cons]
  cases l.statement? <;> rfl

theorem reads_text {ls : List ShownLine} (hls : ∀ l ∈ ls, l.IsSetting)
    (hplain : ∀ l ∈ ls, l.IsPlain) : Toml.Reads (text ls) (told ls) := by
  induction ls with
  | nil => exact Toml.Reads.nil
  | cons l ls ih =>
    obtain ⟨hl, hls⟩ := List.forall_mem_cons.mp hls
    obtain ⟨hfirst, hplain⟩ := List.forall_mem_cons.mp hplain
    have hlen : (text ls).length < (l.chars ++ text ls).length := by
      have hpos := l.chars_length_pos
      simp only [List.length_append]
      omega
    rw [told_cons]
    exact Toml.Reads.line hlen (readLine?_plain hl hfirst _) (ih hls hplain)

end ShownLine

namespace Settings

open ShownLine (text told)

def profileLines (e : String × Profile) : List ShownLine :=
  .blank :: .profile e.1 :: e.2.entries.map .entry

/-- The lines of settings with a default profile, and the empty one that printing adds. -/
def shownLines (s : Settings) (name : String) : List ShownLine :=
  .entry ("default_profile", .str name) :: .blank :: .defaults ::
    (s.defaults.entries.map .entry ++ (s.profiles.entries.flatMap profileLines ++ [.blank]))

theorem text_append (ls ms : List ShownLine) : text (ls ++ ms) = text ls ++ text ms :=
  List.flatMap_append

theorem text_entries (entries : List (String × Json)) :
    text (entries.map .entry) = (View.settingLines entries).toList := by
  induction entries with
  | nil => rfl
  | cons e entries ih =>
    rw [View.settingLines, List.map_cons, List.map_cons, String.join_cons, String.toList_append]
    exact congrArg _ ih

theorem text_profileLines (e : String × Profile) : text (profileLines e) =
    ("\n[profiles." ++ e.1 ++ "]\n" ++ View.settingLines e.2.entries).toList := by
  have hheader : ("\n[profiles." ++ e.1 ++ "]\n").toList =
      '\n' :: subheader "profiles" e.1.toList [] := by
    simp [subheader]
  rw [String.toList_append, hheader, ← text_entries]
  rfl

theorem shownText_toList {s : Settings} {name : String} (hname : s.defaultProfile = some name) :
    (View.settingsText s ++ "\n").toList = text (s.shownLines name) := by
  have hprofiles (profiles : List (String × Profile)) : text (profiles.flatMap profileLines) =
      (String.join (profiles.map fun e =>
        "\n[profiles." ++ e.1 ++ "]\n" ++ View.settingLines e.2.entries)).toList := by
    induction profiles with
    | nil => rfl
    | cons e profiles ih =>
      rw [List.flatMap_cons, text_append, text_profileLines, ih, ← String.toList_append,
        List.map_cons, String.join_cons]
  have hdefaults : "\n[defaults]\n".toList =
      '\n' :: '[' :: ("defaults".toList ++ [']', '\n']) := rfl
  have hfirst := text_entries [("default_profile", .str name)]
  rw [View.settingsText, hname]
  simp only [String.toList_append, Option.map_some, Option.toList_some, ← hfirst, ← text_entries,
    ← hprofiles, hdefaults, shownLines]
  simp [text, ShownLine.chars]

theorem forall_mem_shownLines {s : Settings} {name : String} {P : ShownLine → Prop} :
    (∀ l ∈ s.shownLines name, P l) ↔ P .blank ∧ P .defaults ∧
      P (.entry ("default_profile", .str name)) ∧ (∀ e ∈ s.defaults.entries, P (.entry e)) ∧
      ∀ e ∈ s.profiles.entries, P (.profile e.1) ∧ ∀ f ∈ e.2.entries, P (.entry f) := by
  simp only [shownLines, profileLines, List.forall_mem_cons, List.forall_mem_append,
    List.forall_mem_map, List.forall_mem_flatMap, List.not_mem_nil, false_imp_iff, implies_true]
  constructor
  · rintro ⟨hname, hblank, hdefaults, hentries, hprofiles, -⟩
    exact ⟨hblank, hdefaults, hname, hentries, fun e he => (hprofiles e he).2⟩
  · rintro ⟨hblank, hdefaults, hname, hentries, hprofiles⟩
    exact ⟨hname, hblank, hdefaults, hentries, fun e he => ⟨hblank, hprofiles e he⟩, hblank,
      trivial⟩

theorem isSetting_shownLines (s : Settings) (name : String) :
    ∀ l ∈ s.shownLines name, l.IsSetting := by
  have hentries {entries : List (String × Json)} (h : IsTable entries) :
      ∀ e ∈ entries, (ShownLine.entry e).IsSetting := fun e he => ⟨h.bare e he, h.storable e he⟩
  exact forall_mem_shownLines.mpr ⟨trivial, trivial,
    ⟨(by decide : IsBareKey "default_profile"), trivial⟩, hentries s.defaults.entries_isTable,
    fun e _ => ⟨trivial, hentries e.2.entries_isTable⟩⟩

/-- The texts that are shown between quotes. -/
def texts (s : Settings) : List String :=
  s.defaultProfile.toList ++ s.defaults.output ::
    s.profiles.entries.flatMap fun e => e.2.server :: e.2.caCert.toList

/-- Every part is shown as it would have to be written: numbers that fit the file, names without
quotes, and texts without anything to escape. -/
structure IsShownAsIs (s : Settings) : Prop where
  fits : s.FitsFile
  names : ∀ e ∈ s.profiles.entries, IsBareKey e.1
  texts : ∀ t ∈ s.texts, ∀ c ∈ t.toList, IsVerbatim c

instance (s : Settings) : Decidable s.IsShownAsIs :=
  decidable_of_iff (s.FitsFile ∧ (s.profiles.entries.all fun e => decide (IsBareKey e.1)) = true ∧
      (s.texts.all fun t => t.toList.all fun c => decide (IsVerbatim c)) = true) <| by
    simp only [List.all_eq_true, decide_eq_true_eq]
    exact ⟨fun h => ⟨h.1, h.2.1, h.2.2⟩, fun h => ⟨h.fits, h.names, h.texts⟩⟩

theorem forall_mem_texts {s : Settings} {name : String} (hname : s.defaultProfile = some name)
    {P : String → Prop} : (∀ t ∈ s.texts, P t) ↔ P name ∧ P s.defaults.output ∧
      ∀ e ∈ s.profiles.entries, P e.2.server ∧ ∀ t ∈ e.2.caCert, P t := by
  simp only [texts, hname, Option.toList_some, List.singleton_append, List.forall_mem_cons,
    List.forall_mem_flatMap, Option.mem_toList, Option.mem_def]

theorem isShownAsIs_ofNat_iff {n : Nat} :
    Toml.IsShownAsIs (.ofNat n) ↔ n ≤ 9223372036854775807 := by
  rw [Json.ofNat, Toml.IsShownAsIs, Decimal.maxInt64]
  omega

theorem forall_isPlain_defaults_iff {d : Defaults} :
    (∀ e ∈ d.entries, (ShownLine.entry e).IsPlain) ↔
      (∀ c ∈ d.output.toList, IsVerbatim c) ∧ d.FitsFile := by
  simp only [Defaults.entries, List.forall_mem_cons, ShownLine.IsPlain, isShownAsIs_ofNat_iff]
  constructor
  · rintro ⟨houtput, htimeout, hceiling, -⟩
    exact ⟨houtput, htimeout, hceiling⟩
  · rintro ⟨houtput, htimeout, hceiling⟩
    exact ⟨houtput, htimeout, hceiling, trivial, by simp⟩

theorem forall_isPlain_profile_iff {p : Profile} :
    (∀ e ∈ p.entries, (ShownLine.entry e).IsPlain) ↔
      ((∀ c ∈ p.server.toList, IsVerbatim c) ∧
        ∀ t ∈ p.caCert, ∀ c ∈ t.toList, IsVerbatim c) ∧ p.FitsFile := by
  -- counters are so small that they always fit
  have hcounter (n : UInt16) : n.toNat ≤ 9223372036854775807 := by
    have := n.toNat_lt
    omega
  have htext (key t : String) : (ShownLine.entry (key, .str t)).IsPlain ↔
      ∀ c ∈ t.toList, IsVerbatim c := Iff.rfl
  have hnumber (key : String) (n : Nat) : (ShownLine.entry (key, .ofNat n)).IsPlain ↔
      n ≤ 9223372036854775807 := isShownAsIs_ofNat_iff
  have hbool (key : String) (b : Bool) : (ShownLine.entry (key, .bool b)).IsPlain := trivial
  have hentries : (∀ e ∈ p.entries, (ShownLine.entry e).IsPlain) ↔
      (∀ c ∈ p.server.toList, IsVerbatim c) ∧ (∀ n ∈ p.timeout, DeviceConsole.FitsFile n) ∧
        (∀ n ∈ p.expansionCeiling, DeviceConsole.FitsFile n) ∧
          ∀ t ∈ p.caCert, ∀ c ∈ t.toList, IsVerbatim c := by
    simp [Profile.entries, or_imp, forall_and, htext, hnumber, hbool, hcounter,
      DeviceConsole.FitsFile]
  rw [hentries]
  constructor
  · rintro ⟨hserver, htimeout, hceiling, hcaCert⟩
    exact ⟨⟨hserver, hcaCert⟩, htimeout, hceiling⟩
  · rintro ⟨⟨hserver, hcaCert⟩, htimeout, hceiling⟩
    exact ⟨hserver, htimeout, hceiling, hcaCert⟩

theorem forall_isPlain_iff {s : Settings} {name : String} (hname : s.defaultProfile = some name) :
    (∀ l ∈ s.shownLines name, l.IsPlain) ↔ s.IsShownAsIs := by
  have htexts := @forall_mem_texts s name hname fun t => ∀ c ∈ t.toList, IsVerbatim c
  rw [forall_mem_shownLines]
  simp only [forall_isPlain_defaults_iff, forall_isPlain_profile_iff]
  constructor
  · rintro ⟨-, -, hdefault, ⟨houtput, hdefaults⟩, hprofiles⟩
    exact ⟨⟨hdefaults, fun e he => (hprofiles e he).2.2⟩, fun e he => (hprofiles e he).1,
      htexts.mpr ⟨hdefault, houtput, fun e he => (hprofiles e he).2.1⟩⟩
  · rintro ⟨⟨hdefaults, hprofiles⟩, hnames, hall⟩
    obtain ⟨hdefault, houtput, hservers⟩ := htexts.mp hall
    exact ⟨trivial, trivial, hdefault, ⟨houtput, hdefaults⟩,
      fun e he => ⟨hnames e he, hservers e he, hprofiles e he⟩⟩

theorem told_append (ls ms : List ShownLine) : told (ls ++ ms) = told ls ++ told ms :=
  List.filterMap_append

theorem told_entries (entries : List (String × Json)) :
    told (entries.map .entry) = assigns entries := by
  have hstatement : ShownLine.statement? ∘ ShownLine.entry =
      some ∘ fun e => Statement.assign [] e.1 e.2 := rfl
  rw [told, List.filterMap_map, hstatement, List.filterMap_eq_map, assigns]

theorem told_profileLines (e : String × Profile) :
    told (profileLines e) = opened ["profiles"] e.1 e.2.entries := by
  rw [opened, ← told_entries]
  rfl

/-- The headers and assignments, in order, without a header for all profiles. -/
theorem told_shownLines (s : Settings) (name : String) :
    told (s.shownLines name) = .assign [] "default_profile" (.str name) ::
      (opened [] "defaults" s.defaults.entries ++
        s.profiles.entries.flatMap fun e => opened ["profiles"] e.1 e.2.entries) := by
  have hprofiles (profiles : List (String × Profile)) : told (profiles.flatMap profileLines) =
      profiles.flatMap fun e => opened ["profiles"] e.1 e.2.entries := by
    induction profiles with
    | nil => rfl
    | cons e profiles ih =>
      rw [List.flatMap_cons, told_append, told_profileLines, ih, List.flatMap_cons]
  have hblank : told [.blank] = [] := rfl
  simp only [shownLines, ShownLine.told_cons, told_append, told_entries, hprofiles, hblank,
    List.append_nil, opened]
  rfl

/-! ### The tree of the lines -/

/-- The tree that the lines build. The tables of profiles stand in one that has no header. -/
def shownTree (s : Settings) (name : String) : Entries :=
  [("default_profile", .value (.str name)),
    ("defaults", .table .header (Toml.values s.defaults.entries))] ++
    if s.profiles.entries.isEmpty then [] else [("profiles", .table .headerPath
      (s.profiles.entries.map fun e => (e.1, .table .header (Toml.values e.2.entries))))]

theorem ofStatements?_shownLines (s : Settings) (name : String) :
    ofStatements? (told (s.shownLines name)) = some (s.shownTree name) := by
  have hname : add? ([], []) (.assign [] "default_profile" (.str name)) =
      some ([], [("default_profile", .value (.str name))]) := rfl
  have hdefaults := @Focus.add_opened _ _ Focus.root "defaults"
    [("default_profile", .value (.str name))] (by simp) _ s.defaults.entries_isTable.distinct []
  obtain ⟨there, hprofiles⟩ := @Focus.add_path _ _ Focus.root "profiles"
    [("default_profile", .value (.str name)),
      ("defaults", .table .header (Toml.values s.defaults.entries))] (by simp)
    (s.profiles.entries.map fun e => (e.1, e.2.entries))
    (by rw [List.map_map]; exact s.profiles.nodup_keys)
    (by
      intro t ht
      obtain ⟨e, -, rfl⟩ := List.mem_map.mp ht
      exact e.2.entries_isTable.distinct)
    ["defaults"]
  simp only [id_eq, List.nil_append, List.flatMap_map, List.cons_append] at hdefaults hprofiles
  rw [told_shownLines, ofStatements?, List.foldlM_cons, hname, Option.bind_eq_bind,
    Option.bind_some, List.foldlM_append, hdefaults]
  change ((List.foldlM add? (["defaults"], _) _).map _) = _
  rw [hprofiles]
  simp [shownTree, Function.comp_def]

/-- The tables of the lines, as a layer. -/
def shownFields (s : Settings) (name : String) : List (String × Json) :=
  [("default_profile", .str name), ("defaults", .obj (Json.sortFields s.defaults.entries))] ++
    if s.profiles.entries.isEmpty then [] else [("profiles", .obj s.profilesJson)]

theorem shownFields_ascending (s : Settings) (name : String) :
    (s.shownFields name).Pairwise (·.1 < ·.1) := by
  rw [shownFields]
  split <;> simp only [List.cons_append, List.nil_append, List.pairwise_cons,
    List.forall_mem_cons] <;> decide +revert

theorem toJson_shownTree (s : Settings) (name : String) :
    Toml.toJson (s.shownTree name) = .obj (s.shownFields name) := by
  have hname : (Toml.Node.value (.str name)).toJson = .str name := by rw [Toml.Node.toJson]
  have hfields : Toml.Node.toJson.ofEntries (s.shownTree name) = s.shownFields name := by
    rw [Toml.ofEntries_eq_map, shownTree, shownFields]
    split <;> simp [hname, toJson_valuesTable, toJson_profilesTable]
  rw [Toml.toJson, Toml.Node.toJson, hfields,
    sortFields_of_ascending (shownFields_ascending s name)]

theorem exists_shownText_tail {s : Settings} {name : String}
    (hname : s.defaultProfile = some name) :
    ∃ tail, (View.settingsText s ++ "\n").toList = 'd' :: tail := by
  rw [View.settingsText, hname]
  simp [View.settingLines, View.settingLine]

/-- Lines that are shown as they would have to be written load to the settings. -/
theorem load_shown {s : Settings} {name : String} (hname : s.defaultProfile = some name)
    (hplain : ∀ l ∈ s.shownLines name, l.IsPlain) {environment : List (String × String)}
    (henv : ∀ e ∈ environment, Variable.place? e.1 = none) :
    load (some (View.settingsText s ++ "\n")) environment = .ok s := by
  obtain ⟨tail, htail⟩ := exists_shownText_tail hname
  have hread := ShownLine.reads_text (s.isSetting_shownLines name) hplain
  rw [← shownText_toList hname] at hread
  have hfile : fileLayer? (some (View.settingsText s ++ "\n")) = some (.obj (s.shownFields name)) :=
    (parse?_of_reads htail (by decide) hread (ofStatements?_shownLines s name)).trans
      (congrArg some (toJson_shownTree s name))
  have hkeys : ((s.shownFields name).map (·.1)).Nodup :=
    Dictionary.nodup_keys ⟨_, shownFields_ascending s name⟩
  have hdefaults : (s.shownFields name).lookup "defaults" =
      some (.obj (Json.sortFields s.defaults.entries)) := rfl
  have hdefault : Profile.optional? Json.toText?
      ((overlayFields unstored (s.shownFields name)).lookup "default_profile") =
        some s.defaultProfile := by
    rw [lookup_overlayFields hkeys, hname]
    rfl
  by_cases hempty : s.profiles.entries.isEmpty
  · -- no header makes the table of profiles, and the one that is built in stands
    have hnone : s.profilesJson = [] := by
      rw [profilesJson, List.isEmpty_iff.mp hempty, List.map_nil]
    have hbuilt := s.profilesOfJson?_profilesJson
    refine load_fields henv hfile hkeys hdefaults ?_ hdefault
    rw [lookup_overlayFields hkeys, shownFields, if_pos hempty]
    rwa [hnone] at hbuilt
  · refine load_tables henv hfile hkeys hdefaults ?_ hdefault
    rw [shownFields, if_neg hempty]
    rfl

end Settings
end DeviceConsole
