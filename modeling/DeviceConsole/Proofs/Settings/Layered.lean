import DeviceConsole.CommandLine.Opt
import DeviceConsole.Proofs.Settings.Connection
import DeviceConsole.Proofs.Settings.Leaf

/-! Loaded settings, one at a time: the variables go over the file and the file over what is built
in, and what one layer says of a setting leaves all others alone. -/
namespace DeviceConsole

open Layer Layer.overlay

/-! ### A setting in two layers -/

/-- The upper layer has something under the path, and the lower one does not show through it, since
one of the two has no table there. -/
def Layer.Replaces (upper lower : Json) (path : List String) : Prop :=
  (upper.at? path).isSome ∧ (upper.EndsAt path ∨ lower.EndsAt path)

instance (upper lower : Json) (path : List String) : Decidable (Replaces upper lower path) :=
  inferInstanceAs (Decidable (_ ∧ _))

namespace Leaf

variable {base upper : Json} {leaf : Leaf}

theorem said?_overlay_of_replaces (hupper : upper.IsTree)
    (h : Replaces upper base leaf.record) : leaf.said? (overlay base upper) = leaf.said? upper := by
  obtain ⟨hsome, hends⟩ := h
  obtain ⟨v, hv⟩ := Option.isSome_iff_exists.mp hsome
  have hover : overlay ((base.at? leaf.record).getD .null) v = v := by
    rcases hends with hends | hends
    · obtain ⟨w, hw, hleaf⟩ := Json.endsAt_iff.mp hends
      obtain rfl := Option.some.inj (hv.symm.trans hw)
      exact overlay_of_upper hleaf _
    · obtain ⟨w, hw, hleaf⟩ := Json.endsAt_iff.mp hends
      rw [hw]
      exact overlay_of_base hleaf v
  rw [said?, said?, at?_overlay_of_some hupper base hv, hv, hover]

theorem said?_overlay_of_cuts (hupper : upper.IsTree) (h : upper.Cuts leaf.record) :
    leaf.said? (overlay base upper) = none := by
  rw [said?, (cuts_overlay hupper base h).at?_eq_none]
  rfl

theorem said?_of_cuts (h : upper.Cuts leaf.record) : leaf.said? upper = none := by
  rw [said?, h.at?_eq_none]
  rfl

/-- Where tables meet, the lower one shows through in the fields that the upper one lacks. -/
theorem said?_overlay (hupper : upper.IsTree) (hreplaces : ¬ Replaces upper base leaf.record)
    (hcuts : ¬ upper.Cuts leaf.record) : leaf.said? (overlay base upper) =
      match leaf.said? upper with
      | some v => some (overlay ((leaf.said? base).getD .null) v)
      | none => leaf.said? base := by
  cases hv : upper.at? leaf.record with
  | none => rw [said?, said?, said?, at?_overlay_of_none hupper base hv hcuts, hv, Option.bind_none]
  | some v =>
    have hsome : (upper.at? leaf.record).isSome := by rw [hv]; rfl
    have htable := Json.isTable_of_not_endsAt (fun h => hreplaces ⟨hsome, .inl h⟩) hv
    cases v <;> cases htable
    rename_i fields
    rw [said?, said?, said?, at?_overlay_of_some hupper base hv, hv, Option.bind_some,
      Option.bind_some]
    cases hw : base.at? leaf.record with
    | none =>
      rw [Option.getD_none, overlay_of_base rfl, Option.bind_none]
      cases hfield : Json.fieldAt? leaf.index leaf.key (.obj fields) with
      | none => rfl
      | some e => exact congrArg some (overlay_of_base rfl e).symm
    | some w =>
      have htable := Json.isTable_of_not_endsAt (fun h => hreplaces ⟨hsome, .inr h⟩) hw
      cases w <;> cases htable
      rw [Option.getD_some, overlay_obj]
      exact lookup_overlayFields (hupper.at? hv).distinct _ _

/-- The same for a setting that is no table in the end. -/
theorem said?_overlay_of_isTable_eq_false (hupper : upper.IsTree)
    (hreplaces : ¬ Replaces upper base leaf.record) (hcuts : ¬ upper.Cuts leaf.record)
    (hleaf : ∀ j, leaf.said? (overlay base upper) = some j → j.isTable = false) :
    leaf.said? (overlay base upper) = (leaf.said? upper).or (leaf.said? base) := by
  cases hv : leaf.said? upper with
  | none => rw [said?_overlay hupper hreplaces hcuts, hv, Option.none_or]
  | some v =>
    have hover : leaf.said? (overlay base upper) =
        some (overlay ((leaf.said? base).getD .null) v) := by
      rw [said?_overlay hupper hreplaces hcuts, hv]
    have hvleaf : v.isTable = false := by
      rw [← isTable_overlay]
      exact hleaf _ hover
    rw [hover, overlay_of_upper hvleaf, Option.some_or]

theorem said?_eq_at? {layer : Json} (h : ¬ layer.EndsAt leaf.record) :
    leaf.said? layer = layer.at? leaf.path := by
  rw [said?, path, Json.at?_append]
  cases hv : layer.at? leaf.record with
  | none => rfl
  | some v =>
    have htable := Json.isTable_of_not_endsAt h hv
    cases v <;> cases htable
    rename_i fields
    change fields.lookup leaf.key = (fields.lookup leaf.key).bind some
    rw [Option.bind_fun_some]

theorem at?_of_endsAt {layer : Json} (h : layer.EndsAt leaf.record) :
    layer.at? leaf.path = none := by
  obtain ⟨v, hv, hleaf⟩ := Json.endsAt_iff.mp h
  rw [path, Json.at?_append, hv, Option.bind_some, Json.at?_cons_of_isTable_eq_false hleaf]

/-- The paths of two settings part somewhere. -/
theorem exists_parts {other : Leaf} (h : leaf ≠ other) : ∃ above key below k place,
    leaf.path = above ++ key :: below ∧ other.path = above ++ k :: place ∧ key ≠ k := by
  have hdefaults : Function.Injective Defaults.fields.get :=
    List.nodup_iff_injective_get.mp (by decide)
  have hprofile : Function.Injective Profile.fields.get :=
    List.nodup_iff_injective_get.mp (by decide)
  cases leaf <;> cases other
  case defaultProfile.defaultProfile => exact absurd rfl h
  case default.default field field' =>
    exact ⟨["defaults"], _, [], _, [], rfl, rfl, fun he => h (congrArg _ (hdefaults he))⟩
  case profile.profile name field name' field' =>
    by_cases hname : name = name'
    · subst hname
      exact ⟨["profiles", name], _, [], _, [], rfl, rfl, fun he => h (congrArg _ (hprofile he))⟩
    · exact ⟨["profiles"], name, _, name', _, rfl, rfl, hname⟩
  all_goals exact ⟨[], _, _, _, _, rfl, rfl, by decide⟩

end Leaf

namespace Settings

variable {file : Option String} {environment : List (String × String)} {s : Settings}
  {layer : Json} {leaf : Leaf}

theorem said?_unstored (leaf : Leaf) : leaf.said? (.obj unstored) = builtIn? leaf := by
  cases leaf with
  | defaultProfile => rfl
  | default field =>
    obtain ⟨i, hi⟩ := field
    match i, hi with
    | 0, _ | 1, _ | 2, _ | 3, _ => rfl
  | profile name field => rfl

theorem isTable_of_unstored {v : Json} (h : (Json.obj unstored).at? leaf.record = some v) :
    v.isTable = true := by
  cases leaf with
  | profile name field => cases h
  | _ =>
    cases h
    rfl

/-- The layers of loaded settings, one over the other. -/
theorem load_layers (h : load file environment = .ok s) (hfile : fileLayer? file = some layer) :
    ∃ fields, overlay (overlay (.obj unstored) layer) (Variable.layer environment) = .obj fields ∧
      (Json.obj fields).IsTree ∧ ofJson? (.obj fields) = some s := by
  obtain ⟨upper, rfl, hupper⟩ := fileLayer?_isTree hfile
  obtain ⟨vars, hvars, htree⟩ := Variable.layer_isTree environment
  refine ⟨_, ?_, isTree_overlayFields (isTree_overlayFields isTree_unstored hupper) htree,
    (load_eq_ok_iff hfile hvars).mp h⟩
  rw [hvars, overlay_obj, overlay_obj]

/-- What loads is not cut off anywhere. -/
theorem not_cuts_of_ofJson? {fields : List (String × Json)} (htree : (Json.obj fields).IsTree)
    (h : ofJson? (.obj fields) = some s) (leaf : Leaf) : ¬ (Json.obj fields).Cuts leaf.record := by
  cases leaf with
  | defaultProfile => exact Json.not_cuts_nil _
  | default field =>
    intro hcuts
    obtain ⟨v, -, hv⟩ := Json.cuts_cons_obj_iff.mp hcuts
    exact Json.not_cuts_nil v hv
  | profile name field =>
    intro hcuts
    obtain ⟨v, hlookup, hv⟩ := Json.cuts_cons_obj_iff.mp hcuts
    obtain ⟨-, -, hprofiles⟩ := (ofJson?_obj_eq_some htree.distinct).mp h
    rw [hlookup] at hprofiles
    cases v <;> try cases hprofiles
    obtain ⟨w, -, hw⟩ := Json.cuts_cons_obj_iff.mp hv
    exact Json.not_cuts_nil w hw

/-- What is built in has only tables where the file may end. -/
theorem endsAt_file_iff (hlayer : layer.IsTree) :
    (overlay (.obj unstored) layer).EndsAt leaf.record ↔ layer.EndsAt leaf.record := by
  rw [Json.endsAt_iff, Json.endsAt_iff]
  cases hw : layer.at? leaf.record with
  | some w => simp [at?_overlay_of_some hlayer _ hw]
  | none =>
    refine iff_of_false ?_ (by simp)
    rintro ⟨w, hover, hleaf⟩
    by_cases hcuts : layer.Cuts leaf.record
    · rw [(cuts_overlay hlayer _ hcuts).at?_eq_none] at hover
      cases hover
    · rw [at?_overlay_of_none hlayer _ hw hcuts] at hover
      exact Bool.false_ne_true (hleaf.symm.trans (isTable_of_unstored hover))

theorem replaces_file_iff (hlayer : layer.IsTree) {upper : Json} :
    Replaces upper (overlay (.obj unstored) layer) leaf.record ↔
      Replaces upper layer leaf.record := by
  rw [Replaces, Replaces, endsAt_file_iff hlayer]

theorem said?_file (hlayer : layer.IsTree)
    (hleaf : ∀ j, leaf.said? (overlay (.obj unstored) layer) = some j → j.isTable = false) :
    (leaf.said? (overlay (.obj unstored) layer)).or (builtIn? leaf) =
      (leaf.said? layer).or (builtIn? leaf) := by
  by_cases hcuts : layer.Cuts leaf.record
  · rw [Leaf.said?_overlay_of_cuts hlayer hcuts, Leaf.said?_of_cuts hcuts]
  · by_cases hreplaces : Replaces layer (.obj unstored) leaf.record
    · rw [Leaf.said?_overlay_of_replaces hlayer hreplaces]
    · rw [Leaf.said?_overlay_of_isTable_eq_false hlayer hreplaces hcuts hleaf, said?_unstored,
        Option.or_assoc, Option.or_self]

/-- A setting comes from the highest layer that says something of it; the file counts only where
the variables do not replace the whole record. -/
theorem value?_of_load (h : load file environment = .ok s) (hfile : fileLayer? file = some layer)
    (leaf : Leaf) :
    (¬ Replaces (Variable.layer environment) layer leaf.record → s.value? leaf =
      highest? [leaf.said? (Variable.layer environment), leaf.said? layer, builtIn? leaf]) ∧
    (Replaces (Variable.layer environment) layer leaf.record →
      s.value? leaf = highest? [leaf.said? (Variable.layer environment), builtIn? leaf]) := by
  obtain ⟨name, hname⟩ := exists_defaultProfile h
  obtain ⟨fields, hwhole, htree, hdecode⟩ := load_layers h hfile
  obtain ⟨upper, rfl, hlayer⟩ := fileLayer?_isTree hfile
  obtain ⟨vars, hvars, henv⟩ := Variable.layer_isTree environment
  have hvalue := value?_of_ofJson? htree hdecode (by simp [hname]) leaf
  have hcuts := not_cuts_of_ofJson? htree hdecode leaf
  rw [← hwhole, hvars] at hvalue hcuts
  rw [hvars, ← replaces_file_iff hlayer]
  simp only [highest?_cons, highest?_nil, Option.or_none]
  constructor
  · intro hreplaces
    have hwhole (j : Json) (hj : leaf.said? (overlay (overlay (.obj unstored) (.obj upper))
        (.obj vars)) = some j) : j.isTable = false := by
      rw [hj] at hvalue
      exact value?_isTable hvalue
    have hover := Leaf.said?_overlay_of_isTable_eq_false henv hreplaces
      (fun h => hcuts (cuts_overlay henv _ h)) hwhole
    cases hv : leaf.said? (.obj vars) with
    | some v => rw [hvalue, hover, hv, Option.some_or, Option.some_or, Option.some_or]
    | none =>
      rw [hv, Option.none_or] at hover
      rw [hover] at hwhole hvalue
      rw [hvalue, Option.none_or, said?_file hlayer hwhole]
  · intro hreplaces
    rw [hvalue, Leaf.said?_overlay_of_replaces henv hreplaces]

/-- Loading looks at three fields of the layers alone. -/
theorem load_congr {environment' : List (String × String)}
    (h : ∀ key ∈ ["default_profile", "defaults", "profiles"],
      (Variable.layer environment).at? [key] = (Variable.layer environment').at? [key]) :
    load file environment = load file environment' := by
  obtain ⟨vars, hvars, hset⟩ := Variable.layer_isTree environment
  obtain ⟨vars', hvars', hset'⟩ := Variable.layer_isTree environment'
  cases hfile : fileLayer? file with
  | none => rw [load, load, hfile]
  | some layer =>
    obtain ⟨upper, rfl, hlayer⟩ := fileLayer?_isTree hfile
    have hbelow := isTree_overlayFields isTree_unstored hlayer
    have hlookup : ∀ key ∈ ["default_profile", "defaults", "profiles"],
        (overlayFields (overlayFields unstored upper) vars).lookup key =
          (overlayFields (overlayFields unstored upper) vars').lookup key := by
      intro key hkey
      have hsame : (vars.lookup key).bind some = (vars'.lookup key).bind some := by
        have hkey := h key hkey
        rwa [hvars, hvars', Json.at?_cons_obj, Json.at?_cons_obj] at hkey
      rw [Option.bind_fun_some, Option.bind_fun_some] at hsame
      rw [lookup_overlayFields hset.distinct, lookup_overlayFields hset'.distinct, hsame]
    have hdecode : ofJson? (.obj (overlayFields (overlayFields unstored upper) vars)) =
        ofJson? (.obj (overlayFields (overlayFields unstored upper) vars')) := by
      refine Option.ext fun s => ?_
      rw [ofJson?_obj_eq_some (isTree_overlayFields hbelow hset).distinct,
        ofJson?_obj_eq_some (isTree_overlayFields hbelow hset').distinct,
        hlookup _ (by simp), hlookup _ (by simp), hlookup _ (by simp)]
    rw [load_eq hfile hvars, load_eq hfile hvars', hdecode]

/-- The variables of the command line's own options are no settings. -/
theorem place?_option {o : CommandLine.Opt} {name : String} (h : o.environment? = some name) :
    ∃ key, Variable.place? name = some [key] ∧
      key ∉ ["default_profile", "defaults", "profiles"] := by
  cases o <;> cases h
  case profile => exact ⟨"profile", by decide +kernel, by decide⟩
  case server => exact ⟨"server", by decide +kernel, by decide⟩
  case output => exact ⟨"output", by decide +kernel, by decide⟩
  case insecure => exact ⟨"insecure", by decide +kernel, by decide⟩
  case timeout => exact ⟨"timeout", by decide +kernel, by decide⟩
  case password => exact ⟨"credential_password", by decide +kernel, by decide⟩

theorem load_option {o : CommandLine.Opt} {name : String} (h : o.environment? = some name)
    (text : String) (front back : List (String × String)) :
    load file (front ++ (name, text) :: back) = load file (front ++ back) := by
  obtain ⟨key, hplace, hother⟩ := place?_option h
  refine load_congr fun other hkey => Variable.at?_layer_of_not_hides ?_ front back
  have hne : other ≠ key := fun he => hother (he ▸ hkey)
  exact @Variable.not_hides_of_parts _ _ _ [] _ _ hplace hne

/-- Where loaded settings come from: the variables, else the file, else what is built in. -/
structure ComesFrom (environment : List (String × String)) (layer : Json) (s : Settings) :
    Prop where
  /-- A setting that a variable gives has this value. -/
  given : ∀ (leaf : Leaf) j, j.isTable = false → Variable.LastGives environment leaf.path j →
    s.value? leaf = some j
  /-- One that no variable gives is what the file says, where all records are tables. -/
  ungiven : ∀ leaf : Leaf, (∀ j, ¬ Variable.LastGives environment leaf.path j) →
    ¬ (Variable.layer environment).EndsAt leaf.record → ¬ layer.EndsAt leaf.record →
      s.value? leaf = highest? [layer.at? leaf.path, builtIn? leaf]
  /-- Of a record that a layer has as a list the place in it counts. -/
  shared : ∀ leaf : Leaf, ¬ Replaces (Variable.layer environment) layer leaf.record →
    s.value? leaf =
      highest? [leaf.said? (Variable.layer environment), leaf.said? layer, builtIn? leaf]
  /-- A list does not show through, and nothing shows through a list. -/
  replaced : ∀ leaf : Leaf, Replaces (Variable.layer environment) layer leaf.record →
    s.value? leaf = highest? [leaf.said? (Variable.layer environment), builtIn? leaf]

theorem value?_of_said? (h : load file environment = .ok s) {j : Json}
    (hsaid : leaf.said? (Variable.layer environment) = some j) : s.value? leaf = some j := by
  obtain ⟨layer, hfile⟩ := exists_fileLayer h
  obtain ⟨hshared, hreplaced⟩ := value?_of_load h hfile leaf
  by_cases hr : Replaces (Variable.layer environment) layer leaf.record
  · rw [hreplaced hr, hsaid, highest?_cons, Option.some_or]
  · rw [hshared hr, hsaid, highest?_cons, Option.some_or]

theorem value?_of_tables (h : load file environment = .ok s) (hfile : fileLayer? file = some layer)
    (hvars : ¬ (Variable.layer environment).EndsAt leaf.record)
    (hlayer : ¬ layer.EndsAt leaf.record) :
    s.value? leaf = highest?
      [(Variable.layer environment).at? leaf.path, layer.at? leaf.path, builtIn? leaf] := by
  have hshared := (value?_of_load h hfile leaf).1 fun hr => hr.2.elim hvars hlayer
  rw [hshared, Leaf.said?_eq_at? hvars, Leaf.said?_eq_at? hlayer]

theorem comesFrom_of_load (h : load file environment = .ok s)
    (hfile : fileLayer? file = some layer) : s.ComesFrom environment layer where
  shared leaf := (value?_of_load h hfile leaf).1
  replaced leaf := (value?_of_load h hfile leaf).2
  given leaf j hj hgives := by
    have hat := (Variable.at?_layer_eq_some_iff hj).mpr hgives
    have hends : ¬ (Variable.layer environment).EndsAt leaf.record := fun hends =>
      absurd (hat.symm.trans (Leaf.at?_of_endsAt hends)) (Option.some_ne_none j)
    exact value?_of_said? h ((Leaf.said?_eq_at? hends).trans hat)
  ungiven leaf hnone hvars hlayer := by
    have hat : (Variable.layer environment).at? leaf.path = none := by
      by_contra hsome
      obtain ⟨j, hj⟩ := Option.ne_none_iff_exists'.mp hsome
      have hvalue := value?_of_said? h ((Leaf.said?_eq_at? hvars).trans hj)
      exact hnone j ((Variable.at?_layer_eq_some_iff (value?_isTable hvalue)).mp hj)
    rw [value?_of_tables h hfile hvars hlayer, hat, highest?_cons, Option.none_or]

/-- Settings agree where the variables make the same of the whole record. -/
theorem ComesFrom.value?_congr {environment' : List (String × String)} {s' : Settings}
    (h : s.ComesFrom environment layer) (h' : s'.ComesFrom environment' layer)
    (hsame : (Variable.layer environment).at? leaf.record =
      (Variable.layer environment').at? leaf.record) : s.value? leaf = s'.value? leaf := by
  have hsaid : leaf.said? (Variable.layer environment) =
      leaf.said? (Variable.layer environment') := congrArg (Option.bind · _) hsame
  have hreplaces : Replaces (Variable.layer environment) layer leaf.record ↔
      Replaces (Variable.layer environment') layer leaf.record := by
    simp only [Replaces, Json.EndsAt, hsame]
  by_cases hr : Replaces (Variable.layer environment) layer leaf.record
  · rw [h.replaced leaf hr, h'.replaced leaf (hreplaces.mp hr), hsaid]
  · rw [h.shared leaf hr, h'.shared leaf (mt hreplaces.mpr hr), hsaid]

/-- A variable spares a setting if it has nothing for the record, or nothing for the setting where
the record is a table in all layers, with the variable or without it. -/
def Spares (v : String × String) (vars vars' layer : Json) (leaf : Leaf) : Prop :=
  ¬ Variable.Hides v leaf.record ∨ ¬ Variable.Hides v leaf.path ∧
    ¬ vars.EndsAt leaf.record ∧ ¬ vars'.EndsAt leaf.record ∧ ¬ layer.EndsAt leaf.record

/-- A variable for one setting spares all others. -/
theorem spares_of_ne {v : String × String} {vars vars' : Json} {other : Leaf}
    (hplace : Variable.place? v.1 = some other.path) (hne : leaf ≠ other)
    (hvars : ¬ vars.EndsAt leaf.record) (hvars' : ¬ vars'.EndsAt leaf.record)
    (hlayer : ¬ layer.EndsAt leaf.record) : Spares v vars vars' layer leaf := by
  obtain ⟨above, key, below, k, place, hpath, hother, hkey⟩ := Leaf.exists_parts hne
  rw [hother] at hplace
  exact .inr ⟨hpath ▸ Variable.not_hides_of_parts hplace hkey, hvars, hvars', hlayer⟩

/-- Every setting of what loads is what the last variable with a say gives, else what the file
says, else what is built in. A variable changes no setting that it spares, and the variable of an
option changes nothing at all. -/
theorem load_layered (file : Option String) (environment : List (String × String)) :
    (∀ s, load file environment = .ok s → ∃ layer, fileLayer? file = some layer ∧
      s.ComesFrom environment layer ∧
      ∀ front v back s', environment = front ++ v :: back → load file (front ++ back) = .ok s' →
        ∀ leaf, Spares v (Variable.layer environment) (Variable.layer (front ++ back)) layer leaf →
          s.value? leaf = s'.value? leaf) ∧
    (∀ path j, j.isTable = false →
      ((Variable.layer environment).at? path = some j ↔ Variable.LastGives environment path j)) ∧
    ∀ (o : CommandLine.Opt) name text front back, o.environment? = some name →
      environment = front ++ (name, text) :: back →
        load file environment = load file (front ++ back) := by
  refine ⟨fun s h => ?_, fun path j hj => Variable.at?_layer_eq_some_iff hj, ?_⟩
  · obtain ⟨layer, hfile⟩ := exists_fileLayer h
    have hcomes := comesFrom_of_load h hfile
    refine ⟨layer, hfile, hcomes, ?_⟩
    rintro front v back s' rfl h' leaf hspares
    have hcomes' := comesFrom_of_load h' hfile
    rcases hspares with hrecord | ⟨hpath, hvars, hvars', hlayer⟩
    · exact hcomes.value?_congr hcomes' (Variable.at?_layer_of_not_hides hrecord front back)
    · rw [value?_of_tables h hfile hvars hlayer, value?_of_tables h' hfile hvars' hlayer,
        Variable.at?_layer_of_not_hides hpath]
  · rintro o name text front back ho rfl
    exact load_option ho text front back

/-- A file with a default and two profiles. -/
def layeredText : String :=
  "[defaults]\noutput = \"plain\"\ntimeout = 60\n" ++
    "[profiles.lab]\nserver = \"http://10.0.0.2\"\ntimeout = 7\n" ++
    "[profiles.far]\nserver = \"http://10.0.0.3\"\n"

def layeredSettings (timeout : UInt64) : Settings where
  defaults := { output := "plain", timeout }
  profiles := .ofList [("lab", { server := "http://10.0.0.2", timeout := some 9 }),
    ("far", { server := "http://10.0.0.3" })]

/-- A default, an option of the command line, and a profile in a table. -/
def layeredVariables : List (String × String) :=
  [("NMSOPS_DEFAULTS__TIMEOUT", "5"), ("NMSOPS_OUTPUT", "json"),
    ("nmsops_profiles", "\x7blab=\x7btimeout=9\x7d\x7d")]

theorem load_layered_lab :
    load (some layeredText) layeredVariables = .ok (layeredSettings 5) ∧
    (∃ layer, fileLayer? (some layeredText) = some layer ∧
      (layeredSettings 5).ComesFrom layeredVariables layer) ∧
    (layeredSettings 5).value? (.default ⟨0, by decide⟩) =
      (layeredSettings 60).value? (.default ⟨0, by decide⟩) ∧
    Variable.LastGives layeredVariables ["profiles", "lab", "timeout"] (.ofNat 9) ∧
    load (some layeredText) layeredVariables =
      load (some layeredText) (layeredVariables.take 1 ++ layeredVariables.drop 2) := by
  have hload : load (some layeredText) layeredVariables = .ok (layeredSettings 5) := by
    decide +kernel
  have hwithout : load (some layeredText) (layeredVariables.drop 1) = .ok (layeredSettings 60) := by
    decide +kernel
  obtain ⟨hloaded, hgives, hoption⟩ := load_layered (some layeredText) layeredVariables
  obtain ⟨layer, hfile, hcomes, hspared⟩ := hloaded _ hload
  have hlayer : ¬ layer.EndsAt ["defaults"] := by
    have hends : (fileLayer? (some layeredText)).map
        (fun layer => decide (layer.EndsAt ["defaults"])) = some false := by decide +kernel
    rw [hfile] at hends
    exact of_decide_eq_false (Option.some.inj hends)
  have hplace : Variable.place? "NMSOPS_DEFAULTS__TIMEOUT" =
      some (Leaf.default ⟨1, by decide⟩).path := by decide +kernel
  have hspares : Spares ("NMSOPS_DEFAULTS__TIMEOUT", "5") (Variable.layer layeredVariables)
      (Variable.layer (layeredVariables.drop 1)) layer (.default ⟨0, by decide⟩) :=
    spares_of_ne hplace (by decide) (by decide +kernel) (by decide +kernel) hlayer
  refine ⟨hload, ⟨layer, hfile, hcomes⟩, ?_, ?_, ?_⟩
  · exact hspared [] _ (layeredVariables.drop 1) _ rfl hwithout _ hspares
  · have hnine : ((Variable.layer layeredVariables).at? ["profiles", "lab", "timeout"]).bind
        Json.toUInt64? = some 9 := by decide +kernel
    obtain ⟨j, hj, hnine⟩ := Option.bind_eq_some_iff.mp hnine
    obtain rfl := (Json.exact_uint64 j 9).mp hnine
    exact (hgives _ _ rfl).mp hj
  · exact hoption .output "NMSOPS_OUTPUT" "json" (layeredVariables.take 1) (layeredVariables.drop 2)
      rfl rfl

/-- A list in place of the defaults: no variable gives the timeout, but what the file says of it
does not show. -/
theorem load_layered_list :
    let file := some "[defaults]\ntimeout = 5\n"
    let environment := [("NMSOPS_DEFAULTS", "[json]")]
    ∃ s layer, load file environment = .ok s ∧ fileLayer? file = some layer ∧
      s.defaults.output = "json" ∧ s.defaults.timeout = 30 ∧
      ¬ ∀ leaf : Leaf,
        (∀ j, Variable.LastGives environment leaf.path j → s.value? leaf = some j) ∧
        ((∀ j, ¬ Variable.LastGives environment leaf.path j) →
          s.value? leaf = highest? [layer.at? leaf.path, builtIn? leaf]) := by
  intro file environment
  have hload : load file environment = .ok { defaults := { output := "json" } } := by decide +kernel
  obtain ⟨layer, hfile⟩ := exists_fileLayer hload
  refine ⟨_, layer, hload, hfile, rfl, rfl, fun hclaim => ?_⟩
  have hgives (j : Json) :
      ¬ Variable.LastGives environment (Leaf.default ⟨1, by decide⟩).path j := by
    rintro ⟨front, v, back, henv, ⟨place, inner, hplace, hpath, hj⟩, -⟩
    have hmem : v ∈ environment := henv ▸ List.mem_append_right front List.mem_cons_self
    obtain rfl : v = ("NMSOPS_DEFAULTS", "[json]") := List.mem_singleton.mp hmem
    have hdefaults : Variable.place? "NMSOPS_DEFAULTS" = some ["defaults"] := by decide +kernel
    have hlist : (Variable.value "[json]").isTable = false := by decide +kernel
    obtain rfl := Option.some.inj (hdefaults.symm.trans hplace)
    obtain rfl := (List.append_cancel_left hpath).symm
    rw [Json.at?_cons_of_isTable_eq_false hlist] at hj
    cases hj
  have hfive : layer.at? (Leaf.default ⟨1, by decide⟩).path = some (.ofNat 5) := by
    have hfive : ((fileLayer? file).bind (Json.at? (Leaf.default ⟨1, by decide⟩).path)).bind
        Json.toUInt64? = some 5 := by decide +kernel
    rw [hfile] at hfive
    obtain ⟨j, hj, hfive⟩ := Option.bind_eq_some_iff.mp hfive
    exact hj.trans (congrArg some ((Json.exact_uint64 j 5).mp hfive))
  have hvalue := (hclaim (.default ⟨1, by decide⟩)).2 hgives
  rw [hfive] at hvalue
  cases hvalue

end Settings
end DeviceConsole
