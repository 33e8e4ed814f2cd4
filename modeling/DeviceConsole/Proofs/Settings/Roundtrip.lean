import DeviceConsole.Proofs.Settings.Stored
import DeviceConsole.Proofs.Settings.Variable
import DeviceConsole.Proofs.Toml.Values

/-! Settings that were stored load as they were. -/
namespace DeviceConsole

open Layer Layer.overlay

theorem sortFields_of_ascending {fields : List (String × Json)}
    (h : fields.Pairwise (·.1 < ·.1)) : Json.sortFields fields = fields :=
  congrArg Dictionary.entries (Dictionary.ofList_entries ⟨fields, h⟩)

theorem nodup_sortFields (fields : List (String × Json)) :
    ((Json.sortFields fields).map (·.1)).Nodup :=
  Dictionary.nodup_keys _

/-- A sorted record has the values it was made from. -/
theorem map_lookup_sortFields {names : List String} {values : List (Option Json)}
    (hn : names.Nodup) (hlen : names.length = values.length) :
    (names.map fun name => (Json.sortFields (Json.present names values)).lookup name) = values := by
  have hkeys : ((Json.present names values).map (·.1)).Nodup :=
    (Json.present_keys_sublist names values).nodup hn
  refine Eq.trans (List.map_congr_left fun name _ => ?_) (Json.map_lookup_present hn hlen)
  exact Dictionary.get?_ofList hkeys name

namespace Defaults

theorem ofJson?_obj {d : Defaults} {entries : List (String × Json)}
    (hn : (entries.map (·.1)).Nodup)
    (h : (fields.map fun name => entries.lookup name) = d.values) :
    ofJson? (.obj entries) = some d := by
  rw [ofJson?, Json.record?_obj hn h]
  simp [values, Json.withDefault?, Json.toText?, Json.toBool?, Json.toUInt64?_ofNat]

theorem ofJson?_overlay (base d : Defaults) :
    ofJson? (overlay base.toJson (.obj (Json.sortFields d.entries))) = some d := by
  have hupper : (fields.map fun name => (Json.sortFields d.entries).lookup name) = d.values := by
    rw [entries_eq_present]
    exact map_lookup_sortFields (by decide) rfl
  rw [toJson, overlay]
  refine ofJson?_obj (nodup_overlayFields base.entries_isTable.distinct _) ?_
  simp only [fields, values, List.map_cons, List.map_nil, List.cons.injEq, and_true] at hupper ⊢
  obtain ⟨houtput, htimeout, hceiling, hinsecure⟩ := hupper
  simp [lookup_overlayFields (nodup_sortFields _), houtput, htimeout, hceiling, hinsecure, overlay,
    Json.ofNat]

end Defaults

namespace Profile

theorem optional?_map {α : Type} {decode : Json → Option α} {encode : α → Json}
    (h : ∀ a, decode (encode a) = some a) (hnull : ∀ a, encode a ≠ .null) (o : Option α) :
    optional? decode (o.map encode) = some o := by
  cases o with
  | none => rfl
  | some a =>
    change Json.toOption? decode (encode a) = _
    rw [Json.toOption?_of_ne_null (hnull a), h]
    rfl

theorem ofJson?_obj {p : Profile} {entries : List (String × Json)}
    (hn : (entries.map (·.1)).Nodup)
    (h : (fields.map fun name => entries.lookup name) = p.values) :
    ofJson? (.obj entries) = some p := by
  have hseconds (o : Option UInt64) :
      optional? Json.toUInt64? (o.map fun n => .ofNat n.toNat) = some o :=
    optional?_map Json.toUInt64?_ofNat (fun _ => Json.noConfusion) o
  have hcounter (o : Option UInt16) :
      optional? Json.toUInt16? (o.map fun n => .ofNat n.toNat) = some o :=
    optional?_map Json.toUInt16?_ofNat (fun _ => Json.noConfusion) o
  have hinsecure : optional? Json.toBool? (p.insecure.map .bool) = some p.insecure :=
    @optional?_map _ _ Json.bool (fun _ => rfl) (fun _ => Json.noConfusion) _
  have hcaCert : optional? Json.toText? (p.caCert.map .str) = some p.caCert :=
    @optional?_map _ _ Json.str (fun _ => rfl) (fun _ => Json.noConfusion) _
  rw [ofJson?, Json.record?_obj hn h]
  simp [values, SettingKey.all, value?, Json.required?, Json.toText?, hseconds, hcounter,
    hinsecure, hcaCert]

theorem ofJson?_sortFields (p : Profile) :
    ofJson? (.obj (Json.sortFields p.entries)) = some p := by
  refine ofJson?_obj (nodup_sortFields _) ?_
  rw [entries_eq_present]
  exact map_lookup_sortFields (by decide) rfl

end Profile

namespace Settings

/-- The stored profiles, each with its values in order. -/
def profilesJson (s : Settings) : List (String × Json) :=
  s.profiles.entries.map fun e => (e.1, .obj (Json.sortFields e.2.entries))

theorem profilesOfJson?_profilesJson (s : Settings) :
    profilesOfJson? (.obj s.profilesJson) = some s.profiles := by
  have hone (e : String × Profile) :
      (fun f : String × Json =>
        (Profile.ofJson? (shortened Profile.fields.length f.2)).map (f.1, ·))
        (e.1, .obj (Json.sortFields e.2.entries)) = some e := by
    simp [shortened, Profile.ofJson?_sortFields]
  rw [profilesOfJson?, profilesJson, Json.mapM_decode hone, Option.map_some,
    Dictionary.ofList_entries]

theorem ofJson?_obj_eq_some {entries : List (String × Json)} (hn : (entries.map (·.1)).Nodup)
    {s : Settings} : ofJson? (.obj entries) = some s ↔
      Profile.optional? Json.toText? (entries.lookup "default_profile") = some s.defaultProfile ∧
      Json.withDefault? (fun j => Defaults.ofJson? (shortened Defaults.fields.length j)) {}
        (entries.lookup "defaults") = some s.defaults ∧
      Json.withDefault? profilesOfJson? .empty (entries.lookup "profiles") = some s.profiles := by
  rw [ofJson?, Json.record?_obj hn rfl]
  simp only [List.map_cons, List.map_nil, Option.bind_eq_bind, Option.bind_some,
    Option.bind_eq_some_iff, Option.some.injEq]
  constructor
  · rintro ⟨name, hname, defaults, hdefaults, profiles, hprofiles, rfl⟩
    exact ⟨hname, hdefaults, hprofiles⟩
  · rintro ⟨hname, hdefaults, hprofiles⟩
    exact ⟨_, hname, _, hdefaults, _, hprofiles, rfl⟩

/-- What holds where nothing is stored. -/
def unstored : List (String × Json) :=
  [("default_profile", .str "default"), ("defaults", ({} : Defaults).toJson), ("profiles", .obj [])]

theorem isTree_unstored : (Json.obj unstored).IsTree := by
  refine .obj (by decide) fun key v hv => ?_
  have hmem : v = .str "default" ∨ v = ({} : Defaults).toJson ∨ v = .obj [] := by
    have hmem := (lookup_eq_some_iff_mem (by decide)).mp hv
    simp only [unstored, List.mem_cons, Prod.mk.injEq, List.not_mem_nil, or_false] at hmem
    exact hmem.imp And.right (Or.imp And.right And.right)
  rcases hmem with rfl | rfl | rfl
  · exact .str _
  · refine .obj (by decide) fun key v hv => ?_
    have hmem := (lookup_eq_some_iff_mem (by decide)).mp hv
    simp only [Defaults.entries, List.mem_cons, Prod.mk.injEq, List.not_mem_nil, or_false] at hmem
    rcases hmem with ⟨-, rfl⟩ | ⟨-, rfl⟩ | ⟨-, rfl⟩ | ⟨-, rfl⟩ <;> constructor
  · exact .obj List.nodup_nil fun _ _ h => by cases h

theorem nodup_unstored : (unstored.map (·.1)).Nodup := isTree_unstored.distinct

/-- The file goes over the defaults, and the variables over the file. -/
theorem load_eq {file : Option String} {environment : List (String × String)}
    {upper vars : List (String × Json)} (hfile : fileLayer? file = some (.obj upper))
    (hvars : Variable.layer environment = .obj vars) : load file environment =
      match ofJson? (.obj (overlayFields (overlayFields unstored upper) vars)) with
      | some s => .ok s
      | none => .error .unreadable := by
  have hwhole : overlay (overlay ({} : Settings).toJson (.obj upper)) (Variable.layer environment) =
      .obj (overlayFields (overlayFields unstored upper) vars) := by
    have hdefault : ({} : Settings).toJson = .obj unstored := rfl
    rw [hvars, hdefault, overlay, overlay]
  rw [load, hfile]
  change (match ofJson? (overlay (overlay ({} : Settings).toJson (.obj upper))
    (Variable.layer environment)) with
    | some s => _
    | none => _) = _
  rw [hwhole]

theorem load_eq_ok_iff {file : Option String} {environment : List (String × String)}
    {upper vars : List (String × Json)} (hfile : fileLayer? file = some (.obj upper))
    (hvars : Variable.layer environment = .obj vars) {s : Settings} :
    load file environment = .ok s ↔
      ofJson? (.obj (overlayFields (overlayFields unstored upper) vars)) = some s := by
  rw [load_eq hfile hvars]
  cases ofJson? (.obj (overlayFields (overlayFields unstored upper) vars)) with
  | none => simp
  | some t => simp

/-- Without variables only the file goes over the defaults. -/
theorem load_eq_ok {file : Option String} {environment : List (String × String)}
    (henv : ∀ e ∈ environment, Variable.place? e.1 = none) {upper : List (String × Json)}
    (hfile : fileLayer? file = some (.obj upper)) {s : Settings} :
    load file environment = .ok s ↔ ofJson? (.obj (overlayFields unstored upper)) = some s := by
  rw [load_eq_ok_iff hfile (Variable.layer_eq_nil henv), overlayFields]

theorem fileLayer?_isTree {file : Option String} {layer : Json}
    (h : fileLayer? file = some layer) :
    ∃ upper, layer = .obj upper ∧ (Json.obj upper).IsTree := by
  cases file with
  | none =>
    cases h
    exact ⟨[], rfl, .obj List.nodup_nil fun _ _ h => by cases h⟩
  | some text =>
    obtain ⟨htable, htree⟩ := Toml.parse?_isTree h
    cases layer <;> cases htable
    exact ⟨_, rfl, htree⟩

theorem exists_fileLayer {file : Option String} {environment : List (String × String)}
    {s : Settings} (h : load file environment = .ok s) : ∃ layer, fileLayer? file = some layer := by
  cases hf : fileLayer? file with
  | none =>
    rw [load, hf] at h
    cases h
  | some layer => exact ⟨layer, rfl⟩

/-- Some profile is always the default: neither a file nor a variable can take the name away. -/
theorem exists_defaultProfile {file : Option String} {environment : List (String × String)}
    {s : Settings} (h : load file environment = .ok s) :
    ∃ name, s.defaultProfile = some name := by
  obtain ⟨layer, hlayer⟩ := exists_fileLayer h
  obtain ⟨upper, rfl, hupper⟩ := fileLayer?_isTree hlayer
  obtain ⟨vars, hvars, hset⟩ := Variable.layer_isTree environment
  have hwhole := isTree_overlayFields (isTree_overlayFields isTree_unstored hupper) hset
  rw [load_eq_ok_iff hlayer hvars, ofJson?_obj_eq_some hwhole.distinct] at h
  obtain ⟨hname, -⟩ := h
  cases hv : (overlayFields (overlayFields unstored upper) vars).lookup "default_profile" with
  | none =>
    -- the defaults have the field, and no layer takes a field away
    rw [lookup_overlayFields hset.distinct, lookup_overlayFields hupper.distinct] at hv
    split at hv
    · cases hv
    · split at hv <;> cases hv
  | some v =>
    have hnull : v ≠ .null := (hwhole.lookup hv).ne_null
    rw [hv] at hname
    change Json.toOption? Json.toText? v = _ at hname
    rw [Json.toOption?_of_ne_null hnull] at hname
    obtain ⟨name, -, hname⟩ := Option.map_eq_some_iff.mp hname
    exact ⟨name, hname.symm⟩

/-- The tables of the stored text, as a layer. -/
def storedFields (s : Settings) (name : String) : List (String × Json) :=
  [("default_profile", .str name), ("defaults", .obj (Json.sortFields s.defaults.entries)),
    ("profiles", .obj s.profilesJson)]

theorem ofEntries_values (entries : List (String × Json)) :
    Toml.Node.toJson.ofEntries (Toml.values entries) = entries := by
  rw [Toml.ofEntries_eq_map, Toml.values, List.map_map]
  exact List.map_id _

/-- The same without the name of the default profile. -/
def storedTables (s : Settings) : List (String × Json) :=
  [("defaults", .obj (Json.sortFields s.defaults.entries)), ("profiles", .obj s.profilesJson)]

/-- What a table holds does not depend on how it was opened. -/
theorem toJson_valuesTable (origin : Toml.Origin) (entries : List (String × Json)) :
    (Toml.Node.table origin (Toml.values entries)).toJson = .obj (Json.sortFields entries) := by
  rw [Toml.Node.toJson, ofEntries_values]

theorem toJson_profilesTable (s : Settings) (origin : Toml.Origin) :
    (Toml.Node.table origin (s.profiles.entries.map fun e =>
      (e.1, .table .header (Toml.values e.2.entries)))).toJson = .obj s.profilesJson := by
  rw [Toml.Node.toJson, Toml.ofEntries_eq_map, List.map_map]
  simp only [Function.comp_def, toJson_valuesTable]
  rw [sortFields_of_ascending (List.pairwise_map.mpr s.profiles.ascending)]
  rfl

theorem ofEntries_tables (s : Settings) :
    Toml.Node.toJson.ofEntries s.tables = s.storedTables := by
  rw [Toml.ofEntries_eq_map, tables, List.map_cons, List.map_cons, toJson_valuesTable,
    toJson_profilesTable]
  rfl

theorem toJson_tree (s : Settings) (name : String) :
    Toml.toJson (s.tree name) = .obj (s.storedFields name) := by
  have hfields : Toml.Node.toJson.ofEntries (s.tree name) = s.storedFields name := by
    have htables := s.ofEntries_tables
    rw [Toml.ofEntries_eq_map] at htables ⊢
    exact congrArg (("default_profile", Json.str name) :: ·) htables
  rw [Toml.toJson, Toml.Node.toJson, hfields, sortFields_of_ascending]
  simp only [storedFields, List.pairwise_cons, List.forall_mem_cons]
  decide +revert

/-- A layer with the defaults of settings loads to them, if the profiles and the name are those that
the layer leaves. -/
theorem load_fields {s : Settings} {file : Option String} {environment : List (String × String)}
    (henv : ∀ e ∈ environment, Variable.place? e.1 = none) {upper : List (String × Json)}
    (hfile : fileLayer? file = some (.obj upper)) (hkeys : (upper.map (·.1)).Nodup)
    (hdefaults : upper.lookup "defaults" = some (.obj (Json.sortFields s.defaults.entries)))
    (hprofiles : Json.withDefault? profilesOfJson? .empty
      ((overlayFields unstored upper).lookup "profiles") = some s.profiles)
    (hname : Profile.optional? Json.toText?
      ((overlayFields unstored upper).lookup "default_profile") = some s.defaultProfile) :
    load file environment = .ok s := by
  rw [load_eq_ok henv hfile, ofJson?_obj_eq_some (nodup_overlayFields nodup_unstored _)]
  refine ⟨hname, ?_, hprofiles⟩
  rw [lookup_overlayFields hkeys, hdefaults]
  exact Defaults.ofJson?_overlay {} s.defaults

/-- A layer with the tables of stored settings loads to them, but for the name, which is the one the
layer leaves. -/
theorem load_tables {s : Settings} {file : Option String} {environment : List (String × String)}
    (henv : ∀ e ∈ environment, Variable.place? e.1 = none) {upper : List (String × Json)}
    (hfile : fileLayer? file = some (.obj upper)) (hkeys : (upper.map (·.1)).Nodup)
    (hdefaults : upper.lookup "defaults" = some (.obj (Json.sortFields s.defaults.entries)))
    (hprofiles : upper.lookup "profiles" = some (.obj s.profilesJson))
    (hname : Profile.optional? Json.toText?
      ((overlayFields unstored upper).lookup "default_profile") = some s.defaultProfile) :
    load file environment = .ok s := by
  refine load_fields henv hfile hkeys hdefaults ?_ hname
  have hnames : (s.profilesJson.map (·.1)).Nodup := by
    rw [profilesJson, List.map_map]
    exact s.profiles.nodup_keys
  have hover : overlay (.obj []) (.obj s.profilesJson) = .obj s.profilesJson := by
    rw [overlay, overlayFields_new (by simpa using hnames), List.nil_append]
  rw [lookup_overlayFields hkeys, hprofiles]
  change profilesOfJson? (overlay (.obj []) (.obj s.profilesJson)) = _
  rw [hover, profilesOfJson?_profilesJson]

/-- Stored settings with a default profile load as they were. -/
theorem load_store {s : Settings} {name text : String} (hname : s.defaultProfile = some name)
    (h : s.store = .ok text) {environment : List (String × String)}
    (henv : ∀ e ∈ environment, Variable.place? e.1 = none) :
    load (some text) environment = .ok s := by
  have hfile : fileLayer? (some text) = some (.obj (s.storedFields name)) := by
    rw [fileLayer?, parse?_store hname h, toJson_tree]
  have hkeys : ((s.storedFields name).map (·.1)).Nodup :=
    (by decide : ["default_profile", "defaults", "profiles"].Nodup)
  refine load_tables henv hfile hkeys rfl rfl ?_
  rw [lookup_overlayFields hkeys, hname]
  rfl

end Settings
end DeviceConsole
