import DeviceConsole.Proofs.Json.Exact
import DeviceConsole.Proofs.Settings.Roundtrip

/-! The single settings, each under its path, and how loaded settings have them from what they were
decoded from. -/
namespace DeviceConsole

namespace Json

/-- A field of a record, which is a table, or a list of its first fields in order. -/
def fieldAt? (index : Nat) (key : String) : Json → Option Json
  | obj fields => fields.lookup key
  | arr items => items[index]?
  | _ => none

theorem record?_getElem? {names : List String} {j : Json} {values : List (Option Json)}
    (hj : j.IsTree) (h : record? names j = some values) (i : Fin names.length) :
    values[i.val]? = some (j.fieldAt? i (names.get i)) := by
  cases j with
  | obj fields =>
    rw [record?_obj hj.distinct rfl] at h
    cases h
    simp [fieldAt?]
  | arr items =>
    rw [record?] at h
    split at h <;> cases h
    simp [fieldAt?]
  | _ => cases h

theorem null_not_mem_record? {names : List String} {j : Json} {values : List (Option Json)}
    (hj : j.IsTree) (h : record? names j = some values) : some null ∉ values := by
  intro hmem
  cases hj with
  | obj distinct trees =>
    rw [record?_obj distinct rfl] at h
    cases h
    obtain ⟨name, -, hname⟩ := List.mem_map.mp hmem
    exact (trees name null hname).ne_null rfl
  | arr isSet =>
    rw [record?] at h
    split at h <;> cases h
    obtain ⟨n, -, hn⟩ := List.mem_map.mp hmem
    exact isSet (List.mem_of_getElem? hn)
  | _ => cases h

end Json

theorem Settings.fieldAt?_shortened {index count : Nat} (h : index < count) (key : String)
    (j : Json) : (shortened count j).fieldAt? index key = j.fieldAt? index key := by
  cases j with
  | arr items => exact List.getElem?_take_of_lt h
  | _ => rfl

theorem Settings.isTree_shortened {j : Json} (hj : j.IsTree) (count : Nat) :
    (shortened count j).IsTree := by
  cases hj with
  | arr isSet => exact .arr fun hnull => isSet (List.mem_of_mem_take hnull)
  | obj distinct values => exact .obj distinct values
  | _ => constructor

theorem Toml.IsStorable.isTable_eq_false {j : Json} (h : IsStorable j) : j.isTable = false := by
  cases j <;> first | rfl | cases h

/-! ### Records and the values they are read from -/

theorem Json.exact_uint64 : Exact (fun n : UInt64 => .ofNat n.toNat) toUInt64? := fun j n => by
  constructor
  · intro h
    obtain ⟨m, hm, rfl⟩ := Option.map_eq_some_iff.mp h
    obtain ⟨rfl, hle⟩ := toNat?_eq_some_iff.mp hm
    exact congrArg ofNat (UInt64.toNat_ofNat_of_lt' (Nat.lt_succ_of_le hle)).symm
  · rintro rfl
    exact toUInt64?_ofNat n

namespace Json.Exact

variable {α : Type} {encode : α → Json} {decode : Json → Option α} {default a : α} {j : Option Json}

theorem or_of_withDefault? (h : Exact encode decode)
    (ha : withDefault? decode default j = some a) :
    some (encode a) = j.or (some (encode default)) := by
  cases h.defaulted.mp ha <;> rfl

theorem map_of_optional? (h : Exact encode decode) {o : Option α} (hnull : j ≠ some null)
    (ho : Profile.optional? decode j = some o) : o.map encode = j := by
  cases j with
  | none =>
    cases ho
    rfl
  | some v =>
    have hv : v ≠ null := fun he => hnull (congrArg some he)
    rw [Profile.optional?, withDefault?, toOption?_of_ne_null hv, Option.map_eq_some_iff] at ho
    obtain ⟨a, ha, rfl⟩ := ho
    exact congrArg some ((h v a).mp ha).symm

end Json.Exact

namespace Defaults

theorem values_of_ofJson? {j : Json} {d : Defaults} (h : ofJson? j = some d) :
    ∃ values, j.record? fields = some values ∧
      d.values = List.zipWith Option.or values ({} : Defaults).values := by
  obtain ⟨values, hvalues, h⟩ := Option.bind_eq_some_iff.mp h
  refine ⟨values, hvalues, ?_⟩
  split at h
  · simp only [Option.bind_eq_bind, Option.bind_eq_some_iff] at h
    obtain ⟨output, houtput, timeout, htimeout, ceiling, hceiling, insecure, hinsecure, h⟩ := h
    cases h
    simp [values, Json.exact_text.or_of_withDefault? houtput,
      Json.exact_uint64.or_of_withDefault? htimeout,
      Json.exact_uint64.or_of_withDefault? hceiling,
      Json.exact_bool.or_of_withDefault? hinsecure]
  · cases h

/-- What a record leaves out of the defaults is built in. -/
theorem value_of_ofJson? {j : Json} {d : Defaults} (hj : j.IsTree) (h : ofJson? j = some d)
    (i : Fin fields.length) : d.values[i.val]?.join =
      (j.fieldAt? i (fields.get i)).or (({} : Defaults).values[i.val]?.join) := by
  obtain ⟨values, hvalues, hd⟩ := values_of_ofJson? h
  have hi := Json.record?_getElem? hj hvalues i
  have hbuilt : ({} : Defaults).values[i.val]? = some (({} : Defaults).values[i.val]?.join) := by
    have hlt : i.val < ({} : Defaults).values.length := i.isLt
    rw [List.getElem?_eq_getElem hlt]
    rfl
  rw [hd, List.getElem?_zipWith, hi, hbuilt]
  rfl

end Defaults

namespace Profile

theorem record?_of_ofJson? {j : Json} {p : Profile} (hj : j.IsTree) (h : ofJson? j = some p) :
    j.record? fields = some p.values := by
  obtain ⟨values, hvalues, h⟩ := Option.bind_eq_some_iff.mp h
  have hnull := Json.null_not_mem_record? hj hvalues
  rw [hvalues]
  split at h
  · simp only [Option.bind_eq_bind, Option.bind_eq_some_iff] at h
    obtain ⟨server, hserver, timeout, htimeout, ceiling, hceiling, insecure, hinsecure, caCert,
      hcaCert, disk, hdisk, cpu, hcpu, h⟩ := h
    cases h
    simp only [List.mem_cons, List.not_mem_nil, or_false, not_or, ne_comm (a := some Json.null)]
      at hnull
    obtain ⟨-, htimeout', hceiling', hinsecure', hcaCert', hdisk', hcpu'⟩ := hnull
    simp [values, SettingKey.all, value?, Json.exact_text.required.mp hserver,
      Json.exact_uint64.map_of_optional? htimeout' htimeout,
      Json.exact_uint64.map_of_optional? hceiling' hceiling,
      Json.exact_bool.map_of_optional? hinsecure' hinsecure,
      Json.exact_text.map_of_optional? hcaCert' hcaCert,
      Json.exact_uint16.map_of_optional? hdisk' hdisk,
      Json.exact_uint16.map_of_optional? hcpu' hcpu]
  · cases h

/-- A profile has what its record says. -/
theorem value_of_ofJson? {j : Json} {p : Profile} (hj : j.IsTree) (h : ofJson? j = some p)
    (i : Fin fields.length) : p.values[i.val]?.join = j.fieldAt? i (fields.get i) := by
  rw [Json.record?_getElem? hj (record?_of_ofJson? hj h) i]
  rfl

end Profile

/-! ### Single settings -/

/-- A single setting: the name of the default profile, one of the defaults, or a field of a
profile. -/
inductive Leaf where
  | defaultProfile
  | default (field : Fin Defaults.fields.length)
  | profile (name : String) (field : Fin Profile.fields.length)
deriving DecidableEq

namespace Leaf

/-- The path of the record that the setting is a field of. -/
def record : Leaf → List String
  | defaultProfile => []
  | default _ => ["defaults"]
  | profile name _ => ["profiles", name]

def key : Leaf → String
  | defaultProfile => "default_profile"
  | default field => Defaults.fields.get field
  | profile _ field => Profile.fields.get field

def index : Leaf → Nat
  | defaultProfile => 0
  | default field => field
  | profile _ field => field

def path (leaf : Leaf) : List String := leaf.record ++ [leaf.key]

/-- What a layer says of the setting: under its path, or by its place where the record is a list. -/
def said? (leaf : Leaf) (layer : Json) : Option Json :=
  (layer.at? leaf.record).bind (Json.fieldAt? leaf.index leaf.key)

end Leaf

namespace Settings

/-- The stored form of a single setting, `none` where it is not set. -/
def value? (s : Settings) : Leaf → Option Json
  | .defaultProfile => s.defaultProfile.map .str
  | .default field => s.defaults.values[field.val]?.join
  | .profile name field => (s.profiles.get? name).bind fun p => p.values[field.val]?.join

/-- Without file and variables. -/
def builtIn? (leaf : Leaf) : Option Json := ({} : Settings).value? leaf

theorem value?_isTable {s : Settings} {leaf : Leaf} {j : Json} (h : s.value? leaf = some j) :
    j.isTable = false := by
  cases leaf with
  | defaultProfile =>
    obtain ⟨name, -, rfl⟩ := Option.map_eq_some_iff.mp h
    rfl
  | default field =>
    have hmem := List.mem_of_getElem? (Option.join_eq_some_iff.mp h)
    simp only [Defaults.values, List.mem_cons, Option.some.injEq, List.not_mem_nil, or_false]
      at hmem
    rcases hmem with rfl | rfl | rfl | rfl <;> rfl
  | profile name field =>
    obtain ⟨p, -, h⟩ := Option.bind_eq_some_iff.mp h
    obtain ⟨k, -, hk⟩ := List.mem_map.mp (List.mem_of_getElem? (Option.join_eq_some_iff.mp h))
    exact (Profile.value?_isStorable hk).isTable_eq_false

theorem profilesOfJson?_eq_some {entries : List (String × Json)} {d : Dictionary Profile}
    (hn : (entries.map (·.1)).Nodup) (h : profilesOfJson? (.obj entries) = some d) (name : String) :
    Option.Rel (fun j p => Profile.ofJson? (shortened Profile.fields.length j) = some p)
      (entries.lookup name) (d.get? name) := by
  obtain ⟨ps, hps, rfl⟩ := Option.map_eq_some_iff.mp h
  have heach := mapM_some_iff.mp hps
  have hkeys : entries.map (·.1) = ps.map (·.1) := by
    rw [← List.forall₂_eq_eq_eq, List.forall₂_map_left_iff, List.forall₂_map_right_iff]
    refine heach.imp fun e p he => ?_
    obtain ⟨q, -, rfl⟩ := Option.map_eq_some_iff.mp he
    rfl
  rw [Dictionary.get?_ofList (hkeys ▸ hn)]
  clear hn h hps hkeys
  induction heach with
  | nil => exact .none
  | @cons e p entries ps he _ ih =>
    obtain ⟨q, hq, rfl⟩ := Option.map_eq_some_iff.mp he
    obtain ⟨k, j⟩ := e
    rw [lookup_cons_eq_ite, lookup_cons_eq_ite]
    split
    · exact .some hq
    · exact ih

theorem value_of_profilesOfJson? {entries : List (String × Json)} {d : Dictionary Profile}
    (htree : (Json.obj entries).IsTree) (h : profilesOfJson? (.obj entries) = some d)
    (name : String) (field : Fin Profile.fields.length) :
    ((d.get? name).bind fun p => p.values[field.val]?.join) =
      (entries.lookup name).bind (Json.fieldAt? field (Profile.fields.get field)) := by
  have hprofile := profilesOfJson?_eq_some htree.distinct h name
  match hj : entries.lookup name, d.get? name, hprofile with
  | none, none, .none => rfl
  | some j, some p, .some hp =>
    exact (Profile.value_of_ofJson? (isTree_shortened (htree.lookup hj) _) hp field).trans
      (fieldAt?_shortened field.isLt _ _)

/-- Loaded settings have what the layers together say, else what is built in. -/
theorem value?_of_ofJson? {fields : List (String × Json)} {s : Settings}
    (htree : (Json.obj fields).IsTree) (h : ofJson? (.obj fields) = some s)
    (hname : s.defaultProfile ≠ none) (leaf : Leaf) :
    s.value? leaf = (leaf.said? (.obj fields)).or (builtIn? leaf) := by
  obtain ⟨hdefault, hdefaults, hprofiles⟩ := (ofJson?_obj_eq_some htree.distinct).mp h
  cases leaf with
  | defaultProfile =>
    change s.defaultProfile.map Json.str = (fields.lookup "default_profile").or _
    cases hlookup : fields.lookup "default_profile" with
    | none =>
      rw [hlookup] at hdefault
      exact absurd (Option.some.inj hdefault).symm hname
    | some j =>
      have hnull : some j ≠ some .null := by simpa using (htree.lookup hlookup).ne_null
      rw [hlookup] at hdefault
      exact Json.exact_text.map_of_optional? hnull hdefault
  | default field =>
    change s.defaults.values[field.val]?.join = (((fields.lookup "defaults").bind some).bind
      (Json.fieldAt? field (Defaults.fields.get field))).or
        (({} : Defaults).values[field.val]?.join)
    cases hlookup : fields.lookup "defaults" with
    | none =>
      rw [hlookup] at hdefaults
      rw [← Option.some.inj hdefaults]
      rfl
    | some j =>
      rw [hlookup] at hdefaults
      exact (Defaults.value_of_ofJson? (isTree_shortened (htree.lookup hlookup) _)
        hdefaults field).trans (by rw [fieldAt?_shortened field.isLt]; rfl)
  | profile name field =>
    cases hlookup : fields.lookup "profiles" with
    | none =>
      rw [hlookup] at hprofiles
      simp [value?, builtIn?, Leaf.said?, Leaf.record, hlookup, ← Option.some.inj hprofiles]
    | some j =>
      rw [hlookup] at hprofiles
      cases j <;> try cases hprofiles
      rename_i entries
      have htable := htree.lookup hlookup
      have hsaid : (Leaf.profile name field).said? (.obj fields) =
          (entries.lookup name).bind (Json.fieldAt? field (Profile.fields.get field)) := by
        simp [Leaf.said?, Leaf.record, hlookup, Leaf.index, Leaf.key]
      have hbuilt : builtIn? (.profile name field) = none := rfl
      rw [hsaid, hbuilt, Option.or_none]
      exact value_of_profilesOfJson? htable hprofiles name field

end Settings
end DeviceConsole
