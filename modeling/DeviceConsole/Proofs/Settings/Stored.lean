import DeviceConsole.Proofs.Json.Record
import DeviceConsole.Proofs.Toml.Document
import DeviceConsole.Settings.Edit

/-! The text that settings are stored as, read back as a tree of tables. -/
namespace DeviceConsole

open Toml

/-- Entries that fill one table of a file. -/
structure IsTable (entries : List (String × Json)) : Prop where
  bare : ∀ e ∈ entries, IsBareKey e.1
  storable : ∀ e ∈ entries, IsStorable e.2
  distinct : (entries.map (·.1)).Nodup

theorem isTable_present {names : List String} {values : List (Option Json)}
    (hnames : ∀ name ∈ names, IsBareKey name) (hn : names.Nodup)
    (hvalues : ∀ j, some j ∈ values → IsStorable j) : IsTable (Json.present names values) where
  bare e he := hnames e.1
    ((Json.present_keys_sublist names values).subset (List.mem_map_of_mem he))
  storable e he := hvalues e.2 (Json.mem_present he)
  distinct := (Json.present_keys_sublist names values).nodup hn

namespace Defaults

def values (d : Defaults) : List (Option Json) :=
  [some (.str d.output), some (.ofNat d.timeout.toNat), some (.ofNat d.expansionCeiling.toNat),
    some (.bool d.insecure)]

theorem entries_eq_present (d : Defaults) : d.entries = Json.present fields d.values := rfl

theorem entries_isTable (d : Defaults) : IsTable d.entries := by
  rw [entries_eq_present]
  refine isTable_present (by decide) (by decide) ?_
  simp [values, IsStorable, Json.ofNat]

end Defaults

namespace Profile

/-- The stored form of what is set for a key. -/
def value? (p : Profile) : SettingKey → Option Json
  | .server => some (.str p.server)
  | .timeout => p.timeout.map fun n => .ofNat n.toNat
  | .expansionCeiling => p.expansionCeiling.map fun n => .ofNat n.toNat
  | .insecure => p.insecure.map .bool
  | .caCert => p.caCert.map .str
  | .diskCounter => p.diskCounter.map fun n => .ofNat n.toNat
  | .cpuCounter => p.cpuCounter.map fun n => .ofNat n.toNat

def values (p : Profile) : List (Option Json) := SettingKey.all.map p.value?

theorem entries_eq_present (p : Profile) : p.entries = Json.present fields p.values := by
  rw [Json.present_eq_filterMap_id]
  refine congrArg (List.filterMap id) ?_
  simp [fields, values, SettingKey.all, value?, Option.map_map, Function.comp_def]

theorem value?_isStorable {p : Profile} {k : SettingKey} {j : Json} (h : p.value? k = some j) :
    IsStorable j := by
  cases k
  case server =>
    cases h
    trivial
  all_goals
    obtain ⟨v, -, rfl⟩ := Option.map_eq_some_iff.mp h
    simp [IsStorable, Json.ofNat]

theorem entries_isTable (p : Profile) : IsTable p.entries := by
  rw [entries_eq_present]
  refine isTable_present (by decide) (by decide) fun j hj => ?_
  obtain ⟨k, -, hk⟩ := List.mem_map.mp hj
  exact value?_isStorable hk

end Profile

namespace Settings

/-- What the stored text says, statement by statement. -/
def statements (s : Settings) (name : String) : List Statement :=
  .assign [] "default_profile" (.str name) ::
    (opened [] "defaults" s.defaults.entries ++ (opened [] "profiles" [] ++
      s.profiles.entries.flatMap fun e => opened ["profiles"] e.1 e.2.entries))

def tree (s : Settings) (name : String) : Entries :=
  [("default_profile", .value (.str name)),
    ("defaults", .table .header (Toml.values s.defaults.entries)),
    ("profiles", .table .header
      (s.profiles.entries.map fun e => (e.1, .table .header (Toml.values e.2.entries))))]

/-- The tables alone, without the name of the default profile in front. -/
def tableStatements (s : Settings) : List Statement :=
  opened [] "defaults" s.defaults.entries ++ (opened [] "profiles" [] ++
    s.profiles.entries.flatMap fun e => opened ["profiles"] e.1 e.2.entries)

def tables (s : Settings) : Entries :=
  [("defaults", .table .header (Toml.values s.defaults.entries)),
    ("profiles", .table .header
      (s.profiles.entries.map fun e => (e.1, .table .header (Toml.values e.2.entries))))]

theorem add_tableStatements (s : Settings) (before : Entries)
    (h : ∀ e ∈ before, e.1 ≠ "defaults" ∧ e.1 ≠ "profiles") :
    ∃ there, s.tableStatements.foldlM add? ([], before) = some (there, before ++ s.tables) := by
  have hdefaults := @Focus.add_opened _ _ Focus.root "defaults" before (fun e he => (h e he).1) _
    s.defaults.entries_isTable.distinct []
  have hnames : (s.profiles.entries.map fun e => (e.1, e.2.entries)).map (·.1) =
      s.profiles.entries.map (·.1) := List.map_map
  obtain ⟨there, hprofiles⟩ := @Focus.add_group _ _ Focus.root "profiles"
    (before ++ [("defaults", .table .header (Toml.values s.defaults.entries))])
    (by simpa [or_imp, forall_and] using fun e he => (h e he).2)
    (s.profiles.entries.map fun e => (e.1, e.2.entries)) (hnames ▸ s.profiles.nodup_keys)
    (by
      intro t ht
      obtain ⟨e, -, rfl⟩ := List.mem_map.mp ht
      exact e.2.entries_isTable.distinct)
    ["defaults"]
  simp only [id_eq, List.nil_append, List.flatMap_map] at hdefaults hprofiles
  refine ⟨there, ?_⟩
  rw [tableStatements, List.foldlM_append, hdefaults]
  change List.foldlM add? (["defaults"], _) _ = _
  rw [hprofiles]
  simp [tables]

theorem ofStatements?_statements (s : Settings) (name : String) :
    ofStatements? (s.statements name) = some (s.tree name) := by
  have hname : add? ([], []) (.assign [] "default_profile" (.str name)) =
      some ([], [("default_profile", .value (.str name))]) := rfl
  obtain ⟨there, htables⟩ :=
    s.add_tableStatements [("default_profile", .value (.str name))] (by simp)
  change (List.foldlM add? ([], []) (_ :: s.tableStatements)).map _ = _
  rw [List.foldlM_cons, hname, Option.bind_eq_bind, Option.bind_some, htables]
  rfl

theorem reads_profiles {profiles : List (String × Profile)} {texts : List String}
    (h : profiles.mapM (fun e => headed? ("profiles." ++ quote e.1) e.2.entries) = some texts) :
    Reads (String.join texts).toList
      (profiles.flatMap fun e => opened ["profiles"] e.1 e.2.entries) := by
  induction profiles generalizing texts with
  | nil =>
    obtain rfl : texts = [] := by simpa using h.symm
    exact Reads.nil
  | cons e profiles ih =>
    obtain ⟨text, texts, htext, htexts, rfl⟩ := mapM_cons_eq_some h
    have hheader (rest : List Char) :
        readLine? ('[' :: (("profiles." ++ quote e.1).toList ++ ']' :: '\n' :: rest)) =
          some (some (.openTable ["profiles"] e.1), rest) := by
      simpa using @readLine?_subtable "profiles" (by decide) e.1 rest
    have htable := e.2.entries_isTable
    rw [String.join_cons, String.toList_append]
    exact Reads.headed hheader htable.bare htable.storable htext (ih htexts)

theorem store_eq_ok {s : Settings} {text : String} (h : s.store = .ok text) :
    ∃ first defaults profiles,
      lines? ((s.defaultProfile.map fun n => ("default_profile", Json.str n)).toList) =
        some first ∧
      headed? "defaults" s.defaults.entries = some defaults ∧
      s.profiles.entries.mapM (fun e => headed? ("profiles." ++ quote e.1) e.2.entries) =
        some profiles ∧
      first ++ defaults ++ "\n[profiles]\n" ++ String.join profiles = text := by
  simp only [store] at h
  split at h
  · rename_i whole hwhole
    obtain rfl := Except.ok.inj h
    simpa [Option.bind_eq_some_iff] using hwhole
  · cases h

theorem reads_tables {s : Settings} {defaults : String} {profiles : List String}
    (hdefaults : headed? "defaults" s.defaults.entries = some defaults)
    (hprofiles : s.profiles.entries.mapM
      (fun e => headed? ("profiles." ++ quote e.1) e.2.entries) = some profiles) :
    Reads (defaults ++ "\n[profiles]\n" ++ String.join profiles).toList s.tableStatements := by
  have hd := s.defaults.entries_isTable
  simp only [String.toList_append, List.append_assoc]
  have hempty : headed? "profiles" [] = some "\n[profiles]\n" := rfl
  have hgroup := Reads.headed (fun rest => @readLine?_table "profiles" (by decide) rest)
    (by simp) (by simp) hempty (reads_profiles hprofiles)
  exact Reads.headed (fun rest => @readLine?_table "defaults" (by decide) rest)
    hd.bare hd.storable hdefaults hgroup

/-- A text that starts with a character of its own is read from there. -/
theorem parse?_eq {text : String} {c : Char} {tail : List Char} (htext : text.toList = c :: tail)
    (hc : c ≠ '\uFEFF') : Toml.parse? text =
      (readStatements? (text.toList.length + 1) text.toList).bind fun statements =>
        (ofStatements? statements).map Toml.toJson := by
  rw [Toml.parse?, htext]
  split
  · rename_i heq
    exact absurd (List.cons.inj heq).1 hc
  · rfl

theorem parse?_of_reads {text : String} {c : Char} {tail : List Char} {statements : List Statement}
    {entries : Entries} (htext : text.toList = c :: tail) (hc : c ≠ '\uFEFF')
    (hread : Reads text.toList statements) (hentries : ofStatements? statements = some entries) :
    Toml.parse? text = some (Toml.toJson entries) := by
  rw [parse?_eq htext hc, hread _ (Nat.lt_succ_self _), Option.bind_some, hentries]
  rfl

/-- The stored text is read as what it was written from. -/
theorem parse?_store {s : Settings} {name : String} (hname : s.defaultProfile = some name)
    {text : String} (h : s.store = .ok text) :
    Toml.parse? text = some (Toml.toJson (s.tree name)) := by
  obtain ⟨first, defaults, profiles, hfirst, hdefaults, hprofiles, rfl⟩ := store_eq_ok h
  rw [hname] at hfirst
  have hdefault : IsBareKey "default_profile" := by decide
  have hread : Reads (first ++ defaults ++ "\n[profiles]\n" ++ String.join profiles).toList
      (s.statements name) := by
    have htables := reads_tables hdefaults hprofiles
    simp only [String.toList_append, List.append_assoc] at htables ⊢
    exact Reads.lines (by simpa using hdefault) (by simp [IsStorable]) hfirst htables
  obtain ⟨tail, htail⟩ : ∃ tail,
      (first ++ defaults ++ "\n[profiles]\n" ++ String.join profiles).toList = 'd' :: tail := by
    obtain rfl := Option.some.inj hfirst
    simp
  exact parse?_of_reads htail (by decide) hread (ofStatements?_statements s name)

end Settings
end DeviceConsole
