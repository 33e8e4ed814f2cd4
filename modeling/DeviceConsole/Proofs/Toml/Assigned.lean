import DeviceConsole.Proofs.Toml.Values

/-! What a document holds, told by its statements. Every value that is no table was assigned under
the header that stood last, and what is assigned stays as it is, whatever statements follow. -/
namespace DeviceConsole

namespace Json

/-- Under the path stands this value, which is no table. -/
def HasLeaf (j : Json) (path : List String) (v : Json) : Prop :=
  j.at? path = some v ∧ v.isTable = false

variable {fields : List (String × Json)} {path : List String} {j v : Json}

theorem not_hasLeaf_obj_nil : ¬ (obj fields).HasLeaf [] v := by
  rintro ⟨h, hv⟩
  rw [at?_nil] at h
  obtain rfl := Option.some.inj h
  cases hv

theorem hasLeaf_obj_cons {key : String} : (obj fields).HasLeaf (key :: path) v ↔
    ∃ j, fields.lookup key = some j ∧ j.HasLeaf path v := by
  simp only [HasLeaf, at?_cons_obj, Option.bind_eq_some_iff]
  constructor
  · rintro ⟨⟨j, hj, hat⟩, hv⟩
    exact ⟨j, hj, hat, hv⟩
  · rintro ⟨j, hj, hat, hv⟩
    exact ⟨⟨j, hj, hat⟩, hv⟩

theorem hasLeaf_of_isTable_eq_false (hj : j.isTable = false) :
    j.HasLeaf path v ↔ path = [] ∧ v = j := by
  cases path with
  | nil =>
    rw [HasLeaf, at?_nil, Option.some.injEq]
    constructor
    · rintro ⟨rfl, -⟩
      exact ⟨rfl, rfl⟩
    · rintro ⟨-, rfl⟩
      exact ⟨rfl, hj⟩
  | cons key path => simp [HasLeaf, at?_cons_of_isTable_eq_false hj]

end Json

namespace Toml

/-! ### Trees without arrays of tables -/

/-- Tables of distinct keys all the way down, none of them in an array. -/
inductive Node.IsNested : Node → Prop
  | value (j : Json) : IsNested (.value j)
  | table {origin : Origin} {entries : Entries} (distinct : (entries.map (·.1)).Nodup)
      (nodes : ∀ key n, entries.lookup key = some n → IsNested n) :
      IsNested (.table origin entries)

structure IsNested (entries : Entries) : Prop where
  distinct : (entries.map (·.1)).Nodup
  nodes : ∀ key n, entries.lookup key = some n → n.IsNested

variable {origin : Origin} {entries entries' : Entries} {key : String}

theorem Node.isNested_table : (Node.table origin entries).IsNested ↔ Toml.IsNested entries := by
  constructor
  · rintro ⟨⟩
    rename_i distinct nodes
    exact ⟨distinct, nodes⟩
  · exact fun h => .table h.distinct h.nodes

theorem isNested_nil : IsNested [] := ⟨List.nodup_nil, fun _ _ h => by cases h⟩

theorem lookup_map_toJson (entries : Entries) (key : String) :
    (entries.map fun e => (e.1, e.2.toJson)).lookup key =
      (entries.lookup key).map Node.toJson := by
  induction entries with
  | nil => rfl
  | cons e entries ih =>
    rw [List.map_cons, lookup_cons_eq_ite, lookup_cons_eq_ite, ih]
    split <;> rfl

theorem not_hasLeaf_toJson_nil {v : Json} : ¬ (toJson entries).HasLeaf [] v := by
  rw [toJson, Node.toJson]
  exact Json.not_hasLeaf_obj_nil

theorem toJson_table : (Node.table origin entries).toJson = toJson entries := by
  rw [toJson, Node.toJson, Node.toJson]

theorem not_hasLeaf_toJson_empty {path : List String} {v : Json} :
    ¬ (toJson []).HasLeaf path v := by
  cases path with
  | nil => exact not_hasLeaf_toJson_nil
  | cons key path =>
    rw [toJson, Node.toJson, Json.hasLeaf_obj_cons]
    rintro ⟨j, hj, -⟩
    cases hj

/-- A value of a tree stands in the entry that its path begins with. -/
theorem IsNested.hasLeaf_cons (h : IsNested entries) {path : List String} {v : Json} :
    (toJson entries).HasLeaf (key :: path) v ↔
      ∃ n, entries.lookup key = some n ∧ n.toJson.HasLeaf path v := by
  have hkeys : ((entries.map fun e => (e.1, e.2.toJson)).map (·.1)).Nodup := by
    rw [List.map_map]
    exact h.distinct
  have hlookup : (Json.sortFields (Node.toJson.ofEntries entries)).lookup key =
      (entries.lookup key).map Node.toJson := by
    rw [ofEntries_eq_map, ← lookup_map_toJson]
    exact Dictionary.get?_ofList hkeys key
  rw [toJson, Node.toJson, Json.hasLeaf_obj_cons, hlookup]
  simp only [Option.map_eq_some_iff]
  constructor
  · rintro ⟨j, ⟨n, hn, rfl⟩, hj⟩
    exact ⟨n, hn, hj⟩
  · rintro ⟨n, hn, hj⟩
    exact ⟨_, ⟨n, hn, rfl⟩, hj⟩

/-! ### Changes of one place -/

/-- The tree has the values it had, these in addition, and no others. -/
structure Adds (New : List String → Json → Prop) (entries entries' : Entries) : Prop where
  nested : IsNested entries'
  hasLeaf_iff : ∀ path v,
    (toJson entries').HasLeaf path v ↔ (toJson entries).HasLeaf path v ∨ New path v

/-- The values below a path. -/
def Below (above : List String) (New : List String → Json → Prop) (path : List String) (v : Json) :
    Prop := ∃ rest, path = above ++ rest ∧ New rest v

theorem below_append {above middle : List String} {New : List String → Json → Prop} :
    Below above (Below middle New) = Below (above ++ middle) New := by
  funext path v
  apply propext
  constructor
  · rintro ⟨_, rfl, rest, rfl, h⟩
    exact ⟨rest, (List.append_assoc _ _ _).symm, h⟩
  · rintro ⟨rest, rfl, h⟩
    exact ⟨middle ++ rest, List.append_assoc _ _ _, rest, rfl, h⟩

/-- One entry is replaced, or stands behind the others. -/
theorem alter?_eq_some {change : Option Node → Option Node}
    (h : alter? key change entries = some entries') :
    ∃ n, change (entries.lookup key) = some n ∧
      (∀ other, entries'.lookup other = if other = key then some n else entries.lookup other) ∧
      entries'.map (·.1) = if key ∈ entries.map (·.1) then entries.map (·.1)
        else entries.map (·.1) ++ [key] := by
  induction entries generalizing entries' with
  | nil =>
    obtain ⟨n, hn, rfl⟩ := Option.map_eq_some_iff.mp h
    exact ⟨n, hn, fun other => lookup_cons_eq_ite key n [] other, rfl⟩
  | cons e entries ih =>
    obtain ⟨k, m⟩ := e
    rw [alter?] at h
    split at h
    · rename_i hk
      obtain ⟨n, hn, rfl⟩ := Option.map_eq_some_iff.mp h
      refine ⟨n, by rw [lookup_cons_eq_ite, if_pos hk.symm, hn], fun other => ?_, by simp [hk]⟩
      rw [lookup_cons_eq_ite, lookup_cons_eq_ite, hk]
      split <;> rfl
    · rename_i hk
      obtain ⟨others, hothers, rfl⟩ := Option.map_eq_some_iff.mp h
      obtain ⟨n, hn, hlookup, hkeys⟩ := ih hothers
      refine ⟨n, by rw [lookup_cons_eq_ite, if_neg (Ne.symm hk), hn], fun other => ?_, ?_⟩
      · rw [lookup_cons_eq_ite, lookup_cons_eq_ite, hlookup]
        by_cases ho : other = k
        · rw [if_pos ho, if_neg (ho ▸ hk), if_pos ho]
        · rw [if_neg ho, if_neg ho]
      · rw [List.map_cons, hkeys, List.map_cons]
        simp only [List.mem_cons, Ne.symm hk, false_or]
        split <;> rfl

theorem alter?_adds {change : Option Node → Option Node} {New : List String → Json → Prop}
    (hn : IsNested entries) (h : alter? key change entries = some entries')
    (hchange : ∀ n, change (entries.lookup key) = some n → n.IsNested ∧ ∀ path v,
      n.toJson.HasLeaf path v ↔
        (∃ m, entries.lookup key = some m ∧ m.toJson.HasLeaf path v) ∨ New path v) :
    Adds (Below [key] New) entries entries' := by
  obtain ⟨n, hchanged, hlookup, hkeys⟩ := alter?_eq_some h
  obtain ⟨hnode, hleaf⟩ := hchange n hchanged
  have hnested : IsNested entries' := by
    refine ⟨?_, fun other m hm => ?_⟩
    · rw [hkeys]
      split
      · exact hn.distinct
      · rename_i hkey
        exact List.nodup_append.mpr ⟨hn.distinct, List.nodup_singleton _,
          fun x hx y hy hxy => hkey (List.mem_singleton.mp hy ▸ hxy ▸ hx)⟩
    · rw [hlookup] at hm
      split at hm
      · exact Option.some.inj hm ▸ hnode
      · exact hn.nodes other m hm
  refine ⟨hnested, fun path v => ?_⟩
  cases path with
  | nil => simp [not_hasLeaf_toJson_nil, Below]
  | cons other path =>
    rw [hnested.hasLeaf_cons, hn.hasLeaf_cons]
    by_cases ho : other = key
    · subst ho
      simp [hlookup, hleaf, Below]
    · simp [hlookup, ho, Below]

/-- What a change makes of one table, it makes of the tree below the path of the table. -/
theorem descend?_adds {change : Origin → Entries → Option Entries}
    {New : List String → Json → Prop}
    (hchange : ∀ here inner inner', IsNested inner → change here inner = some inner' →
      Adds New inner inner')
    {path : List String} {here : Origin} (hn : IsNested entries)
    (h : descend? origin change path here entries = some entries') :
    Adds (Below path New) entries entries' := by
  induction path generalizing here entries entries' with
  | nil =>
    obtain ⟨hnested, hleaf⟩ := hchange _ _ _ hn h
    exact ⟨hnested, by simpa [Below] using hleaf⟩
  | cons key path ih =>
    rw [← List.singleton_append, ← below_append]
    rw [descend?] at h
    refine alter?_adds hn h fun n hchanged => ?_
    cases hlookup : entries.lookup key with
    | none =>
      rw [hlookup] at hchanged
      obtain ⟨inner, hinner, rfl⟩ := Option.map_eq_some_iff.mp hchanged
      obtain ⟨hnested, hleaf⟩ := ih isNested_nil hinner
      refine ⟨Node.isNested_table.mpr hnested, fun rest v => ?_⟩
      simp [toJson_table, hleaf, not_hasLeaf_toJson_empty]
    | some m =>
      rw [hlookup] at hchanged
      cases hn.nodes key m hlookup with
      | value j => cases hchanged
      | @table o inner distinct nodes =>
        dsimp only at hchanged
        split at hchanged
        · cases hchanged
        · obtain ⟨inner', hinner, rfl⟩ := Option.map_eq_some_iff.mp hchanged
          obtain ⟨hnested, hleaf⟩ := ih ⟨distinct, nodes⟩ hinner
          refine ⟨Node.isNested_table.mpr hnested, fun rest v => ?_⟩
          simp [toJson_table, hleaf]

/-! ### Statements -/

/-- An assignment adds its value under its key, which was free. -/
theorem assign?_adds {path : List String} {value : Json} (hn : IsNested entries)
    (h : assign? path key value entries = some entries') :
    Adds (Below (path ++ [key]) value.HasLeaf) entries entries' := by
  rw [← below_append]
  refine descend?_adds (fun here inner inner' hinner hnew => ?_) hn h
  split at hnew
  · refine alter?_adds hinner hnew fun n hchanged => ?_
    cases hlookup : inner.lookup key with
    | none =>
      rw [hlookup] at hchanged
      cases hchanged
      refine ⟨.value value, fun rest v => ?_⟩
      simp [Node.toJson]
    | some m =>
      rw [hlookup] at hchanged
      cases hchanged
  · cases hnew

/-- A header adds no value. -/
theorem openTable?_adds {path : List String} (hn : IsNested entries)
    (h : openTable? path key entries = some entries') :
    Adds (fun _ _ => False) entries entries' := by
  have hnone (above : List String) : Below above (fun _ _ => False) = fun _ _ => False := by
    funext path v
    simp [Below]
  rw [← hnone path]
  refine descend?_adds (fun here inner inner' hinner hopen => ?_) hn h
  rw [← hnone [key]]
  refine alter?_adds hinner hopen fun n hchanged => ?_
  cases hlookup : inner.lookup key with
  | none =>
    rw [hlookup] at hchanged
    cases hchanged
    refine ⟨Node.isNested_table.mpr isNested_nil, fun rest v => ?_⟩
    simp [toJson_table, not_hasLeaf_toJson_empty]
  | some m =>
    rw [hlookup] at hchanged
    cases hinner.nodes key m hlookup with
    | value j => cases hchanged
    | @table o tables distinct nodes =>
      cases o <;> cases hchanged
      refine ⟨.table distinct nodes, fun rest v => ?_⟩
      simp [toJson_table]

/-- What statements assign, each value under its whole path, where `here` is the table that is open
at first. -/
def assigned (here : List String) : List Statement → List (List String × Json)
  | [] => []
  | .assign path key value :: rest => (here ++ path ++ [key], value) :: assigned here rest
  | .openTable path key :: rest => assigned (path ++ [key]) rest
  | .openItem path key :: rest => assigned (path ++ [key]) rest

/-- The table that is open behind statements. -/
def openAfter (here : List String) : List Statement → List String
  | [] => here
  | .assign _ _ _ :: rest => openAfter here rest
  | .openTable path key :: rest => openAfter (path ++ [key]) rest
  | .openItem path key :: rest => openAfter (path ++ [key]) rest

theorem assigned_append (here : List String) (front back : List Statement) :
    assigned here (front ++ back) =
      assigned here front ++ assigned (openAfter here front) back := by
  induction front generalizing here with
  | nil => rfl
  | cons s front ih => cases s <;> simp [assigned, openAfter, ih]

/-- The table is open at first, or a header opens it. -/
def IsOpened (here : List String) (statements : List Statement) (table : List String) : Prop :=
  table = here ∨ ∃ path name, table = path ++ [name] ∧
    (.openTable path name ∈ statements ∨ .openItem path name ∈ statements)

theorem IsOpened.later {here there table : List String} {s : Statement}
    {statements : List Statement} (h : IsOpened there statements table)
    (hthere : IsOpened here (s :: statements) there) : IsOpened here (s :: statements) table := by
  rcases h with rfl | ⟨path, name, rfl, hopen⟩
  · exact hthere
  · exact .inr ⟨path, name, rfl, hopen.imp (List.mem_cons_of_mem s) (List.mem_cons_of_mem s)⟩

theorem mem_assigned {here : List String} {statements : List Statement} {a : List String × Json}
    (h : a ∈ assigned here statements) : ∃ table inner key, a.1 = table ++ inner ++ [key] ∧
      .assign inner key a.2 ∈ statements ∧ IsOpened here statements table := by
  induction statements generalizing here with
  | nil => cases h
  | cons s statements ih =>
    have hlater {there : List String} (h : a ∈ assigned there statements)
        (hthere : IsOpened here (s :: statements) there) :
        ∃ table inner key, a.1 = table ++ inner ++ [key] ∧
          .assign inner key a.2 ∈ s :: statements ∧ IsOpened here (s :: statements) table := by
      obtain ⟨table, inner, key, hpath, hassign, htable⟩ := ih h
      exact ⟨table, inner, key, hpath, List.mem_cons_of_mem s hassign, htable.later hthere⟩
    cases s with
    | assign path key value =>
      rcases List.mem_cons.mp h with rfl | h
      · exact ⟨here, path, key, rfl, List.mem_cons_self, .inl rfl⟩
      · exact hlater h (.inl rfl)
    | openTable path key => exact hlater h (.inr ⟨path, key, rfl, .inl List.mem_cons_self⟩)
    | openItem path key => exact hlater h (.inr ⟨path, key, rfl, .inr List.mem_cons_self⟩)

/-- The value stands in one of these, under the rest of its path. -/
def StandsIn (values : List (List String × Json)) (path : List String) (v : Json) : Prop :=
  ∃ a ∈ values, Below a.1 a.2.HasLeaf path v

def Statement.IsOpenItem : Statement → Prop
  | .openItem _ _ => True
  | _ => False

theorem foldlM_adds {statements : List Statement} {state state' : List String × Entries}
    (hitems : ∀ s ∈ statements, ¬ s.IsOpenItem) (hn : IsNested state.2)
    (h : statements.foldlM add? state = some state') :
    Adds (StandsIn (assigned state.1 statements)) state.2 state'.2 := by
  induction statements generalizing state with
  | nil =>
    cases h
    exact ⟨hn, by simp [StandsIn, assigned]⟩
  | cons s statements ih =>
    obtain ⟨next, hadd, h⟩ := Option.bind_eq_some_iff.mp h
    obtain ⟨hs, hrest⟩ := List.forall_mem_cons.mp hitems
    cases s with
    | assign path key value =>
      obtain ⟨entries, hassign, rfl⟩ := Option.map_eq_some_iff.mp hadd
      have hfirst : Adds (Below (state.1 ++ path ++ [key]) value.HasLeaf) state.2 entries := by
        rw [List.append_assoc, ← below_append]
        exact descend?_adds (fun _ _ _ => assign?_adds) hn hassign
      obtain ⟨hnested, hleaf⟩ := ih hrest hfirst.nested h
      refine ⟨hnested, fun ks v => ?_⟩
      simp [hleaf, hfirst.hasLeaf_iff, StandsIn, assigned, or_assoc]
    | openTable path key =>
      obtain ⟨entries, hopen, rfl⟩ := Option.map_eq_some_iff.mp hadd
      have hfirst := openTable?_adds hn hopen
      obtain ⟨hnested, hleaf⟩ := ih hrest hfirst.nested h
      refine ⟨hnested, fun ks v => ?_⟩
      simp [hleaf, hfirst.hasLeaf_iff, assigned]
    | openItem path key => exact absurd trivial hs

/-- The values of a document without arrays of tables are those that its statements assign. -/
theorem hasLeaf_iff_assigned {statements : List Statement}
    (hitems : ∀ s ∈ statements, ¬ s.IsOpenItem) (h : ofStatements? statements = some entries)
    (path : List String) (v : Json) :
    (toJson entries).HasLeaf path v ↔ StandsIn (assigned [] statements) path v := by
  obtain ⟨state, hstate, rfl⟩ := Option.map_eq_some_iff.mp h
  have hadds := foldlM_adds hitems isNested_nil hstate
  simp [hadds.hasLeaf_iff, not_hasLeaf_toJson_empty]

end Toml
end DeviceConsole
