import DeviceConsole.Proofs.Json.Path
import DeviceConsole.Toml.Reader

/-! A file is a tree: its tables have distinct keys all the way down, and nothing in them is
unset. -/
namespace DeviceConsole.Toml

/-! ### Numbers, words and dates -/

theorem forall_mem_bind {α β : Type} {P : β → Prop} {x : Option α} {f : α → Option β}
    (h : ∀ a, ∀ b ∈ f a, P b) : ∀ b ∈ x.bind f, P b := by
  cases x with
  | none => simp
  | some a => exact h a

theorem isTree_int? (i : Int) : ∀ j ∈ int? i, j.IsTree := by
  intro j hj
  obtain ⟨n, -, rfl⟩ := Option.map_eq_some_iff.mp hj
  exact .int _

theorem isTree_decimalFloat? (negative : Bool) (cs : List Char) :
    ∀ j ∈ decimalFloat? negative cs, j.IsTree := by
  have hlast (x : Binary64) : ∀ j ∈ (if negative then some (Json.float x.neg)
      else if x.isFinite then some (.float x) else none), j.IsTree := by
    intro j hj
    split at hj
    · cases hj
      exact .float _
    · split at hj <;> cases hj
      exact .float _
  unfold decimalFloat?
  dsimp only [Option.bind_eq_bind]
  split
  · simp
  · refine forall_mem_bind fun whole => ?_
    split <;> refine forall_mem_bind fun fraction => ?_ <;> split <;>
      exact forall_mem_bind fun power => hlast _

theorem isTree_number? (cs : List Char) : ∀ j ∈ number? cs, j.IsTree := by
  have hbased (base : Nat) (cs : List Char) : ∀ j ∈ basedInteger? base cs, j.IsTree :=
    forall_mem_bind fun _ => isTree_int? _
  have hinteger (cs : List Char) : ∀ j ∈ integer? cs, j.IsTree :=
    forall_mem_bind fun _ => isTree_int? _
  have hfloat (cs : List Char) : ∀ j ∈ float? cs, j.IsTree := by
    unfold float?
    dsimp only
    split
    · rintro j ⟨⟩
      exact .float _
    · split
      · rintro j ⟨⟩
        exact .float _
      · exact isTree_decimalFloat? _ _
  unfold number?
  split
  · exact hbased 16 _
  · exact hbased 8 _
  · exact hbased 2 _
  · intro j hj
    rcases Option.or_eq_some_iff.mp hj with hj | ⟨-, hj⟩
    · exact hinteger _ j hj
    · exact hfloat _ j hj

theorem isTree_date? (cs : List Char) : ∀ j ∈ date? cs, j.IsTree := by
  intro j hj
  unfold date? at hj
  split at hj <;> cases hj
  refine .obj (List.nodup_singleton _) fun key v hv => ?_
  rw [lookup_cons_eq_ite] at hv
  split at hv <;> cases hv
  exact .str _

theorem isTree_token? (cs : List Char) : ∀ j ∈ token? cs, j.IsTree := by
  unfold token?
  split
  · rintro j ⟨⟩
    exact .bool _
  · split
    · rintro j ⟨⟩
      exact .bool _
    · intro j hj
      rcases Option.or_eq_some_iff.mp hj with hj | ⟨-, hj⟩
      · exact isTree_number? _ j hj
      · exact isTree_date? _ j hj

/-! ### The tree of statements -/

/-- All values in a node are trees. The items of an array of tables are set whatever is in them. -/
inductive Node.HoldsTrees : Node → Prop
  | value {j : Json} (h : j.IsTree) : HoldsTrees (.value j)
  | table {origin : Origin} {entries : Entries} (h : ∀ e ∈ entries, HoldsTrees e.2) :
      HoldsTrees (.table origin entries)
  | items (tables : List Entries) : HoldsTrees (.items tables)

def HaveTrees (entries : Entries) : Prop := ∀ e ∈ entries, e.2.HoldsTrees

theorem Node.HoldsTrees.entries {origin : Origin} {entries : Entries}
    (h : (Node.table origin entries).HoldsTrees) : HaveTrees entries := by
  cases h
  assumption

theorem ofEntries_eq_map (entries : Entries) :
    Node.toJson.ofEntries entries = entries.map fun e => (e.1, e.2.toJson) := by
  induction entries with
  | nil => rfl
  | cons e entries ih => rw [Node.toJson.ofEntries, ih, List.map_cons]

theorem null_not_mem_ofTables (tables : List Entries) :
    Json.null ∉ Node.toJson.ofTables tables := by
  induction tables with
  | nil => simp [Node.toJson.ofTables]
  | cons entries tables ih => simpa [Node.toJson.ofTables] using ih

theorem Node.HoldsTrees.isTree {node : Node} (h : node.HoldsTrees) : node.toJson.IsTree := by
  induction h with
  | value h => rwa [Node.toJson]
  | items tables =>
    rw [Node.toJson]
    exact .arr (by simpa using null_not_mem_ofTables tables)
  | @table origin entries _ ih =>
    rw [Node.toJson, ofEntries_eq_map]
    refine .sortFields fun f hf => ?_
    obtain ⟨e, he, rfl⟩ := List.mem_map.mp hf
    exact ih e he

theorem alter?_haveTrees {key : String} {change : Option Node → Option Node}
    {entries entries' : Entries} (h : alter? key change entries = some entries')
    (hchange : ∀ o n, change o = some n → (∀ m ∈ o, m.HoldsTrees) → n.HoldsTrees)
    (hv : HaveTrees entries) : HaveTrees entries' := by
  induction entries generalizing entries' with
  | nil =>
    obtain ⟨n, hn, rfl⟩ := Option.map_eq_some_iff.mp h
    exact List.forall_mem_singleton.mpr (hchange _ n hn (by simp))
  | cons e entries ih =>
    obtain ⟨k, m⟩ := e
    obtain ⟨he, hrest⟩ := List.forall_mem_cons.mp hv
    rw [alter?] at h
    split at h
    · obtain ⟨n, hn, rfl⟩ := Option.map_eq_some_iff.mp h
      exact List.forall_mem_cons.mpr ⟨hchange _ n hn (by simpa using he), hrest⟩
    · obtain ⟨others, hothers, rfl⟩ := Option.map_eq_some_iff.mp h
      exact List.forall_mem_cons.mpr ⟨he, ih hothers hrest⟩

/-- Changing one table on the way of a path keeps trees, if the change itself does. -/
theorem descend?_haveTrees {origin : Origin} {change : Origin → Entries → Option Entries}
    (hchange : ∀ here entries entries', change here entries = some entries' →
      HaveTrees entries → HaveTrees entries')
    {path : List String} {here : Origin} {entries entries' : Entries}
    (h : descend? origin change path here entries = some entries') (hv : HaveTrees entries) :
    HaveTrees entries' := by
  induction path generalizing here entries entries' with
  | nil => exact hchange _ _ _ h hv
  | cons key path ih =>
    rw [descend?] at h
    refine alter?_haveTrees h (fun o n hn ho => ?_) hv
    split at hn
    · obtain ⟨inner, hinner, rfl⟩ := Option.map_eq_some_iff.mp hn
      exact .table (ih hinner (by simp [HaveTrees]))
    · cases hn
    · split at hn
      · cases hn
      · obtain ⟨inner, hinner, rfl⟩ := Option.map_eq_some_iff.mp hn
        exact .table (ih hinner (ho _ rfl).entries)
    · cases hn
    · obtain ⟨last, -, rfl⟩ := Option.map_eq_some_iff.mp hn
      exact .items _

theorem assign?_haveTrees {path : List String} {key : String} {value : Json} (hvalue : value.IsTree)
    {entries entries' : Entries} (h : assign? path key value entries = some entries')
    (hv : HaveTrees entries) : HaveTrees entries' := by
  refine descend?_haveTrees (fun here entries entries' hnew hv => ?_) h hv
  split at hnew
  · refine alter?_haveTrees hnew (fun o n hn _ => ?_) hv
    cases o with
    | none =>
      cases hn
      exact .value hvalue
    | some m => cases hn
  · cases hnew

theorem inlineTable?_isTree {fields : List (List String × String × Json)}
    (hfields : ∀ f ∈ fields, f.2.2.IsTree) : ∀ j ∈ inlineTable? fields, j.IsTree := by
  suffices hfold : ∀ entries entries' : Entries,
      fields.foldlM (fun entries (path, key, value) => assign? path key value entries) entries =
        some entries' → HaveTrees entries → HaveTrees entries' by
    intro j hj
    obtain ⟨entries, hentries, rfl⟩ := Option.map_eq_some_iff.mp hj
    exact (Node.HoldsTrees.table (hfold _ _ hentries (by simp [HaveTrees]))).isTree
  induction fields with
  | nil =>
    intro entries entries' hfold hv
    cases hfold
    exact hv
  | cons f fields ih =>
    intro entries entries' hfold hv
    obtain ⟨hfirst, hrest⟩ := List.forall_mem_cons.mp hfields
    obtain ⟨next, hnext, hfold⟩ := Option.bind_eq_some_iff.mp hfold
    exact ih hrest next entries' hfold (assign?_haveTrees hfirst hnext hv)

/-! ### Values -/

/-- Whatever the readers return with so much fuel is a tree. -/
structure ReadsTrees (fuel : Nat) : Prop where
  value : ∀ {depth cs j rest}, readValue? fuel depth cs = some (j, rest) → j.IsTree
  items : ∀ {depth cs items rest}, readItems? fuel depth cs = some (items, rest) →
    ∀ j ∈ items, j.IsTree
  fields : ∀ {depth cs fields rest}, readFields? fuel depth cs = some (fields, rest) →
    ∀ f ∈ fields, f.2.2.IsTree

namespace ReadsTrees

variable {fuel depth : Nat} {cs rest : List Char}

theorem value_succ (h : ReadsTrees fuel) {j : Json}
    (hj : readValue? (fuel + 1) depth cs = some (j, rest)) : j.IsTree := by
  cases cs with
  | nil => cases hj
  | cons c cs =>
    rw [readValue?] at hj
    split at hj
    · obtain ⟨⟨text, after⟩, -, hj⟩ := Option.bind_eq_some_iff.mp hj
      cases hj
      exact .str _
    · split at hj
      · split at hj
        · cases hj
        · obtain ⟨⟨items, after⟩, hitems, hj⟩ := Option.bind_eq_some_iff.mp hj
          cases hj
          exact .arr fun hnull => (h.items hitems _ hnull).ne_null rfl
      · split at hj
        · split at hj
          · cases hj
          · -- an empty table has nothing to hold
            dsimp only at hj
            split at hj
            · rw [Option.bind_eq_bind, Option.bind_some] at hj
              obtain ⟨table, htable, hj⟩ := Option.bind_eq_some_iff.mp hj
              cases hj
              exact inlineTable?_isTree (by simp) _ htable
            · obtain ⟨⟨fields, after⟩, hfields, hj⟩ := Option.bind_eq_some_iff.mp hj
              obtain ⟨table, htable, hj⟩ := Option.bind_eq_some_iff.mp hj
              cases hj
              exact inlineTable?_isTree (h.fields hfields) _ htable
        · obtain ⟨value, hvalue, hj⟩ := Option.bind_eq_some_iff.mp hj
          cases hj
          exact isTree_token? _ _ hvalue

theorem items_succ (h : ReadsTrees fuel) {items : List Json}
    (hitems : readItems? (fuel + 1) depth cs = some (items, rest)) : ∀ j ∈ items, j.IsTree := by
  rw [readItems?] at hitems
  obtain ⟨here, -, hitems⟩ := Option.bind_eq_some_iff.mp hitems
  dsimp only at hitems
  split at hitems
  · cases hitems
    simp
  · obtain ⟨⟨item, after⟩, hitem, hitems⟩ := Option.bind_eq_some_iff.mp hitems
    obtain ⟨behind, -, hitems⟩ := Option.bind_eq_some_iff.mp hitems
    dsimp only at hitems
    split at hitems
    · cases hitems
      exact List.forall_mem_singleton.mpr (h.value hitem)
    · obtain ⟨⟨others, last⟩, hothers, hitems⟩ := Option.bind_eq_some_iff.mp hitems
      cases hitems
      exact List.forall_mem_cons.mpr ⟨h.value hitem, h.items hothers⟩
    · cases hitems

theorem fields_succ (h : ReadsTrees fuel) {fields : List (List String × String × Json)}
    (hfields : readFields? (fuel + 1) depth cs = some (fields, rest)) :
    ∀ f ∈ fields, f.2.2.IsTree := by
  rw [readFields?] at hfields
  obtain ⟨⟨⟨path, key⟩, after⟩, -, hfields⟩ := Option.bind_eq_some_iff.mp hfields
  dsimp only at hfields
  split at hfields
  · obtain ⟨⟨value, behind⟩, hvalue, hfields⟩ := Option.bind_eq_some_iff.mp hfields
    dsimp only at hfields
    split at hfields
    · cases hfields
      exact List.forall_mem_singleton.mpr (h.value hvalue)
    · obtain ⟨⟨others, last⟩, hothers, hfields⟩ := Option.bind_eq_some_iff.mp hfields
      cases hfields
      exact List.forall_mem_cons.mpr ⟨h.value hvalue, h.fields hothers⟩
    · cases hfields
  · cases hfields

end ReadsTrees

theorem readsTrees (fuel : Nat) : ReadsTrees fuel := by
  induction fuel with
  | zero => constructor <;> intro _ _ _ _ h <;> cases h
  | succ fuel ih => exact ⟨ih.value_succ, ih.items_succ, ih.fields_succ⟩

/-! ### Statements -/

/-- What is assigned is a tree. -/
def Statement.HasTree : Statement → Prop
  | .assign _ _ value => value.IsTree
  | _ => True

theorem readHeader?_hasTree {cs rest : List Char} {statement : Statement}
    (h : readHeader? cs = some (statement, rest)) : statement.HasTree := by
  unfold readHeader? at h
  split at h
  all_goals
    obtain ⟨⟨⟨path, key⟩, after⟩, -, h⟩ := Option.bind_eq_some_iff.mp h
    dsimp only at h
    split at h
    · cases h
      trivial
    · cases h

theorem readAssignment?_hasTree {cs rest : List Char} {statement : Statement}
    (h : readAssignment? cs = some (statement, rest)) : statement.HasTree := by
  obtain ⟨⟨⟨path, key⟩, after⟩, -, h⟩ := Option.bind_eq_some_iff.mp h
  dsimp only at h
  split at h
  · obtain ⟨⟨value, last⟩, hvalue, h⟩ := Option.bind_eq_some_iff.mp h
    cases h
    exact (readsTrees _).value hvalue
  · cases h

theorem readLine?_hasTree {cs rest : List Char} {statement : Statement}
    (h : readLine? cs = some (some statement, rest)) : statement.HasTree := by
  unfold readLine? at h
  split at h
  · obtain ⟨⟨header, after⟩, hheader, h⟩ := Option.bind_eq_some_iff.mp h
    obtain ⟨last, -, h⟩ := Option.bind_eq_some_iff.mp h
    cases h
    exact readHeader?_hasTree hheader
  · split at h
    · cases h
    · obtain ⟨⟨assignment, after⟩, hassignment, h⟩ := Option.bind_eq_some_iff.mp h
      obtain ⟨last, -, h⟩ := Option.bind_eq_some_iff.mp h
      cases h
      exact readAssignment?_hasTree hassignment

theorem readStatements?_hasTree {fuel : Nat} {cs : List Char} {statements : List Statement}
    (h : readStatements? fuel cs = some statements) :
    ∀ statement ∈ statements, statement.HasTree := by
  induction fuel generalizing cs statements with
  | zero =>
    cases cs with
    | nil =>
      cases h
      simp
    | cons c cs => cases h
  | succ fuel ih =>
    cases cs with
    | nil =>
      cases h
      simp
    | cons c cs =>
      obtain ⟨⟨statement, rest⟩, hline, h⟩ := Option.bind_eq_some_iff.mp h
      obtain ⟨others, hothers, h⟩ := Option.bind_eq_some_iff.mp h
      cases h
      intro x hx
      rcases List.mem_append.mp hx with hx | hx
      · obtain rfl := Option.mem_toList.mp hx
        exact readLine?_hasTree hline
      · exact ih hothers x hx

theorem add?_haveTrees {state state' : List String × Entries} {statement : Statement}
    (h : add? state statement = some state') (hs : statement.HasTree)
    (hv : HaveTrees state.2) : HaveTrees state'.2 := by
  cases statement with
  | assign path key value =>
    obtain ⟨entries, hadd, rfl⟩ := Option.map_eq_some_iff.mp h
    exact descend?_haveTrees (fun _ _ _ => assign?_haveTrees hs) hadd hv
  | openTable path key =>
    obtain ⟨entries, hadd, rfl⟩ := Option.map_eq_some_iff.mp h
    refine descend?_haveTrees (fun _ _ _ hopen hv => ?_) hadd hv
    refine alter?_haveTrees hopen (fun o n hn ho => ?_) hv
    split at hn
    · cases hn
      exact .table (by simp)
    · cases hn
      exact .table (ho _ rfl).entries
    · cases hn
  | openItem path key =>
    obtain ⟨entries, hadd, rfl⟩ := Option.map_eq_some_iff.mp h
    refine descend?_haveTrees (fun _ _ _ hopen hv => ?_) hadd hv
    refine alter?_haveTrees hopen (fun o n hn ho => ?_) hv
    split at hn
    · cases hn
      exact .items _
    · cases hn
      exact .items _
    · cases hn

theorem ofStatements?_haveTrees {statements : List Statement} {entries : Entries}
    (h : ofStatements? statements = some entries)
    (hs : ∀ statement ∈ statements, statement.HasTree) : HaveTrees entries := by
  suffices hfold : ∀ state state' : List String × Entries,
      statements.foldlM add? state = some state' → HaveTrees state.2 → HaveTrees state'.2 by
    obtain ⟨state, hstate, rfl⟩ := Option.map_eq_some_iff.mp h
    exact hfold _ _ hstate (by simp [HaveTrees])
  clear h
  induction statements with
  | nil =>
    intro state state' hfold hv
    cases hfold
    exact hv
  | cons statement statements ih =>
    intro state state' hfold hv
    obtain ⟨hfirst, hrest⟩ := List.forall_mem_cons.mp hs
    obtain ⟨next, hnext, hfold⟩ := Option.bind_eq_some_iff.mp hfold
    exact ih hrest next state' hfold (add?_haveTrees hnext hfirst hv)

/-- A text that reads is a tree, and a table at its root. -/
theorem parse?_isTree {text : String} {j : Json} (h : Toml.parse? text = some j) :
    j.isTable = true ∧ j.IsTree := by
  obtain ⟨statements, hread, h⟩ := Option.bind_eq_some_iff.mp h
  obtain ⟨entries, hentries, rfl⟩ := Option.map_eq_some_iff.mp h
  have hv := ofStatements?_haveTrees hentries (readStatements?_hasTree hread)
  refine ⟨?_, (Node.HoldsTrees.table hv).isTree⟩
  rw [toJson, Node.toJson]
  rfl

end DeviceConsole.Toml
