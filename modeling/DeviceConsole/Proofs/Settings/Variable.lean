import DeviceConsole.Proofs.Settings.Layer
import DeviceConsole.Settings.Variable
import Mathlib.Data.List.Induction

/-! The layer that variables make: each of their values is a tree, and the last variable that gives
something under a path has the say there. -/
namespace DeviceConsole.Variable

open Layer

/-- Variables that are no settings make no layer. -/
theorem layer_eq_nil {environment : List (String × String)}
    (h : ∀ e ∈ environment, place? e.1 = none) : layer environment = .obj [] := by
  induction environment with
  | nil => rfl
  | cons e environment ih =>
    obtain ⟨name, text⟩ := e
    have hname : place? name = none := h (name, text) (by simp)
    rw [layer, List.foldl_cons]
    simp only [hname]
    exact ih fun e he => h e (by simp [he])

theorem isTree_word (cs : List Char) : (word cs).IsTree := by
  unfold word
  split
  · exact .float _
  · split
    · exact .int _
    · split
      · exact .int _
      · exact .str _

/-- Whatever the readers return with so much fuel is a tree. -/
structure ReadsTrees (fuel : Nat) : Prop where
  value : ∀ {cs j rest}, value? fuel cs = some (j, rest) → j.IsTree
  items : ∀ {cs items rest}, items? fuel cs = some (items, rest) → ∀ j ∈ items, j.IsTree
  fields : ∀ {cs fields rest}, fields? fuel cs = some (fields, rest) → ∀ f ∈ fields, f.2.IsTree

namespace ReadsTrees

variable {fuel : Nat} {cs rest : List Char}

theorem value_succ (h : ReadsTrees fuel) {j : Json} (hj : value? (fuel + 1) cs = some (j, rest)) :
    j.IsTree := by
  rw [value?] at hj
  split at hj
  case h_1 | h_2 =>
    cases hj
    exact .bool _
  case h_3 =>
    obtain ⟨⟨items, after⟩, hitems, hj⟩ := Option.bind_eq_some_iff.mp hj
    cases hj
    exact .arr fun hnull => (h.items hitems _ hnull).ne_null rfl
  case h_4 =>
    obtain ⟨⟨fields, after⟩, hfields, hj⟩ := Option.bind_eq_some_iff.mp hj
    cases hj
    exact .sortFields (h.fields hfields)
  case h_5 =>
    obtain ⟨⟨text, after⟩, -, hj⟩ := Option.bind_eq_some_iff.mp hj
    cases hj
    exact .str _
  case h_6 =>
    cases hj
    exact .str _
  case h_7 => cases hj
  case h_8 =>
    cases hj
    exact isTree_word _

theorem items_succ (h : ReadsTrees fuel) {items : List Json}
    (hitems : items? (fuel + 1) cs = some (items, rest)) : ∀ j ∈ items, j.IsTree := by
  unfold items? at hitems
  split at hitems
  case h_1 hfuel => cases hfuel
  case h_2 =>
    cases hitems
    simp
  case h_3 hfuel _ =>
    cases hfuel
    obtain ⟨⟨item, after⟩, hitem, hitems⟩ := Option.bind_eq_some_iff.mp hitems
    dsimp only at hitems
    split at hitems
    · obtain ⟨⟨others, last⟩, hothers, hitems⟩ := Option.bind_eq_some_iff.mp hitems
      cases hitems
      exact List.forall_mem_cons.mpr ⟨h.value hitem, h.items hothers⟩
    · cases hitems
      exact List.forall_mem_singleton.mpr (h.value hitem)
    · cases hitems

theorem fields_succ (h : ReadsTrees fuel) {fields : List (String × Json)}
    (hfields : fields? (fuel + 1) cs = some (fields, rest)) : ∀ f ∈ fields, f.2.IsTree := by
  unfold fields? at hfields
  split at hfields
  case h_1 hfuel => cases hfuel
  case h_2 =>
    cases hfields
    simp
  case h_3 hfuel _ =>
    cases hfuel
    obtain ⟨⟨key, after⟩, -, hfields⟩ := Option.bind_eq_some_iff.mp hfields
    dsimp only at hfields
    split at hfields
    · obtain ⟨⟨value, behind⟩, hvalue, hfields⟩ := Option.bind_eq_some_iff.mp hfields
      dsimp only at hfields
      split at hfields
      · obtain ⟨⟨others, last⟩, hothers, hfields⟩ := Option.bind_eq_some_iff.mp hfields
        cases hfields
        exact List.forall_mem_cons.mpr ⟨h.value hvalue, h.fields hothers⟩
      · cases hfields
        exact List.forall_mem_singleton.mpr (h.value hvalue)
      · cases hfields
    · cases hfields

end ReadsTrees

theorem readsTrees (fuel : Nat) : ReadsTrees fuel := by
  induction fuel with
  | zero => constructor <;> intro _ _ _ h <;> cases h
  | succ fuel ih => exact ⟨ih.value_succ, ih.items_succ, ih.fields_succ⟩

/-- No text unsets anything. -/
theorem isTree_value (text : String) : (value text).IsTree := by
  unfold value
  split
  · rename_i hvalue
    exact (readsTrees _).value hvalue
  · exact .str text

theorem isTree_nested {value : Json} (h : value.IsTree) (path : List String) :
    (nested value path).IsTree := by
  induction path with
  | nil => exact h
  | cons key path ih => 
    refine .obj (List.nodup_singleton key) fun other v hv => ?_
    rw [lookup_cons_eq_ite] at hv
    split at hv
    · exact Option.some.inj hv ▸ ih
    · cases hv

theorem place?_ne_nil {name : String} {path : List String} (h : place? name = some path) :
    path ≠ [] := by
  unfold place? at h
  dsimp only at h
  split at h
  · split at h
    · cases h
    · rename_i hpath
      rintro rfl
      exact hpath (Option.some.inj h)
  · cases h

theorem layer_append (environment : List (String × String)) (name text : String) :
    layer (environment ++ [(name, text)]) = match place? name with
      | none => layer environment
      | some path => Layer.overlay (layer environment) (nested (value text) path) := by
  rw [layer, List.foldl_append]
  rfl

/-- Whatever is set, the layer of variables unsets nothing. -/
theorem layer_isTree (environment : List (String × String)) :
    ∃ vars, layer environment = .obj vars ∧ (Json.obj vars).IsTree := by
  induction environment using List.reverseRecOn with
  | nil => exact ⟨[], rfl, .obj List.nodup_nil fun _ _ h => by cases h⟩
  | append_singleton environment e ih =>
    obtain ⟨vars, hlayer, hvars⟩ := ih
    rw [layer_append, hlayer]
    cases hplace : place? e.1 with
    | none => exact ⟨vars, rfl, hvars⟩
    | some path =>
      obtain ⟨key, path, rfl⟩ := List.exists_cons_of_ne_nil (place?_ne_nil hplace)
      have htree := isTree_nested (isTree_value e.2) (key :: path)
      exact ⟨_, overlay_obj vars _, isTree_overlayFields hvars htree⟩

/-! ### What variables give -/

/-- The variable has the value for the path: directly, or in a table. -/
def Gives (v : String × String) (path : List String) (j : Json) : Prop :=
  ∃ place inner, place? v.1 = some place ∧ path = place ++ inner ∧
    (value v.2).at? inner = some j

/-- Whatever other variables give for the path no longer shows: the variable has something there
itself, or has no table where the path goes on. -/
def Hides (v : String × String) (path : List String) : Prop :=
  ∃ place, place? v.1 = some place ∧
    (((nested (value v.2) place).at? path).isSome ∨ (nested (value v.2) place).Cuts path)

/-- The last variable that has a say about the path gives the value. -/
def LastGives (environment : List (String × String)) (path : List String) (j : Json) : Prop :=
  ∃ front v back, environment = front ++ v :: back ∧ Gives v path j ∧
    ∀ later ∈ back, ¬ Hides later path

variable {v : String × String} {path : List String} {j : Json}

theorem at?_nested_append (value : Json) (place inner : List String) :
    (nested value place).at? (place ++ inner) = value.at? inner := by
  induction place with
  | nil => rfl
  | cons key place ih => simpa [nested] using ih

/-- On the way to its place a variable makes tables. -/
theorem at?_nested_eq_some_iff {value : Json} {place : List String} (hj : j.isTable = false) :
    (nested value place).at? path = some j ↔
      ∃ inner, path = place ++ inner ∧ value.at? inner = some j := by
  constructor
  · intro h
    induction place generalizing path with
    | nil => exact ⟨path, rfl, h⟩
    | cons key place ih =>
      cases path with
      | nil =>
        rw [Json.at?_nil] at h
        cases h
        cases hj
      | cons k path =>
        obtain ⟨w, hw, h⟩ := Option.bind_eq_some_iff.mp h
        rw [lookup_cons_eq_ite] at hw
        split at hw <;> cases hw
        rename_i hkey
        obtain ⟨inner, rfl, hinner⟩ := ih h
        exact ⟨inner, congrArg (· :: _) hkey, hinner⟩
  · rintro ⟨inner, rfl, h⟩
    rw [at?_nested_append, h]

theorem gives_iff (hj : j.isTable = false) : Gives v path j ↔
    ∃ place, place? v.1 = some place ∧ (nested (value v.2) place).at? path = some j := by
  constructor
  · rintro ⟨place, inner, hplace, hpath, h⟩
    exact ⟨place, hplace, (at?_nested_eq_some_iff hj).mpr ⟨inner, hpath, h⟩⟩
  · rintro ⟨place, hplace, h⟩
    obtain ⟨inner, hpath, h⟩ := (at?_nested_eq_some_iff hj).mp h
    exact ⟨place, inner, hplace, hpath, h⟩

theorem nested_of_parts (value : Json) {key other : String} (hne : key ≠ other)
    (above place below : List String) :
    (nested value (above ++ other :: place)).at? (above ++ key :: below) = none ∧
      ¬ (nested value (above ++ other :: place)).Cuts (above ++ key :: below) := by
  induction above with
  | nil =>
    have hnone : List.lookup key [(other, nested value place)] = none := by
      rw [lookup_cons_eq_ite, if_neg hne]
      rfl
    rw [List.nil_append, List.nil_append, nested, Json.at?_cons_obj, Json.cuts_cons_obj_iff, hnone]
    simp
  | cons k above ih =>
    have hsome : List.lookup k [(k, nested value (above ++ other :: place))] =
        some (nested value (above ++ other :: place)) := by
      rw [lookup_cons_eq_ite, if_pos rfl]
    rw [List.cons_append, List.cons_append, nested, Json.at?_cons_obj, Json.cuts_cons_obj_iff,
      hsome]
    simpa using ih

/-- A variable hides nothing under a path that parts from its own. -/
theorem not_hides_of_parts {key other : String} {above place below : List String}
    (hplace : place? v.1 = some (above ++ other :: place)) (hne : key ≠ other) :
    ¬ Hides v (above ++ key :: below) := by
  obtain ⟨hnone, hcuts⟩ := nested_of_parts (value v.2) hne above place below
  rintro ⟨place', hplace', h⟩
  obtain rfl := Option.some.inj (hplace.symm.trans hplace')
  rcases h with h | h
  · rw [hnone] at h
    cases h
  · exact hcuts h

/-! ### The layer under a path -/

variable {environment : List (String × String)}

theorem at?_layer_append_of_not_hides (h : ¬ Hides v path) :
    (layer (environment ++ [v])).at? path = (layer environment).at? path := by
  rw [layer_append]
  cases hplace : place? v.1 with
  | none => rfl
  | some place =>
    have htree := isTree_nested (isTree_value v.2) place
    have hnone : (nested (value v.2) place).at? path = none :=
      Option.not_isSome_iff_eq_none.mp fun hsome => h ⟨place, hplace, .inl hsome⟩
    exact at?_overlay_of_none htree _ hnone fun hcuts => h ⟨place, hplace, .inr hcuts⟩

theorem at?_layer_append_of_gives (hj : j.isTable = false) (h : Gives v path j) :
    (layer (environment ++ [v])).at? path = some j := by
  obtain ⟨place, hplace, h⟩ := (gives_iff hj).mp h
  rw [layer_append, hplace]
  exact (at?_overlay_of_some (isTree_nested (isTree_value v.2) place) _ h).trans
    (by rw [overlay_of_upper hj])

theorem gives_of_hides (hj : j.isTable = false) (h : Hides v path)
    (hlayer : (layer (environment ++ [v])).at? path = some j) : Gives v path j := by
  obtain ⟨place, hplace, h⟩ := h
  have htree := isTree_nested (isTree_value v.2) place
  rw [layer_append, hplace] at hlayer
  rcases h with h | h
  · obtain ⟨w, hw⟩ := Option.isSome_iff_exists.mp h
    have hover := Option.some.inj ((at?_overlay_of_some htree _ hw).symm.trans hlayer)
    have hleaf : w.isTable = false := by rw [← isTable_overlay, hover, hj]
    rw [overlay_of_upper hleaf] at hover
    exact (gives_iff hj).mpr ⟨place, hplace, hover ▸ hw⟩
  · rw [(cuts_overlay htree _ h).at?_eq_none] at hlayer
    cases hlayer

theorem lastGives_append_iff : LastGives (environment ++ [v]) path j ↔
    Gives v path j ∨ ¬ Hides v path ∧ LastGives environment path j := by
  constructor
  · rintro ⟨front, w, back, henv, hw, hback⟩
    rcases List.eq_nil_or_concat back with rfl | ⟨back, u, rfl⟩
    · obtain ⟨-, hvw⟩ := List.append_inj' henv rfl
      cases hvw
      exact .inl hw
    · rw [List.concat_eq_append, ← List.cons_append, ← List.append_assoc] at henv
      obtain ⟨rfl, hvu⟩ := List.append_inj' henv rfl
      cases hvu
      exact .inr ⟨hback v (by simp), front, w, back, rfl, hw,
        fun later hlater => hback later (by simp [hlater])⟩
  · rintro (hv | ⟨hv, front, w, back, rfl, hw, hback⟩)
    · exact ⟨environment, v, [], rfl, hv, by simp⟩
    · refine ⟨front, w, back ++ [v], by simp, hw, fun later hlater => ?_⟩
      rcases List.mem_append.mp hlater with hlater | hlater
      · exact hback later hlater
      · exact List.mem_singleton.mp hlater ▸ hv

theorem not_lastGives_nil : ¬ LastGives [] path j := by
  rintro ⟨front, v, back, henv, -, -⟩
  cases front <;> cases henv

theorem at?_layer_nil_ne (hj : j.isTable = false) : (layer []).at? path ≠ some j := by
  cases path with
  | nil =>
    rintro ⟨⟩
    cases hj
  | cons key path => exact (nomatch ·)

/-- What shows of all variables under a path is what the last one with a say gives. -/
theorem at?_layer_eq_some_iff (hj : j.isTable = false) :
    (layer environment).at? path = some j ↔ LastGives environment path j := by
  induction environment using List.reverseRecOn with
  | nil => exact iff_of_false (at?_layer_nil_ne hj) not_lastGives_nil
  | append_singleton environment v ih =>
    rw [lastGives_append_iff, ← ih]
    by_cases hhides : Hides v path
    · exact ⟨fun h => .inl (gives_of_hides hj hhides h),
        Or.rec (at?_layer_append_of_gives hj) fun h => absurd hhides h.1⟩
    · rw [at?_layer_append_of_not_hides hhides]
      refine ⟨fun h => .inr ⟨hhides, h⟩, Or.rec (fun h => ?_) And.right⟩
      rw [← at?_layer_append_of_not_hides hhides]
      exact at?_layer_append_of_gives hj h

/-- A variable that hides nothing under a path may as well not be there. -/
theorem at?_layer_of_not_hides (h : ¬ Hides v path) (front back : List (String × String)) :
    (layer (front ++ v :: back)).at? path = (layer (front ++ back)).at? path := by
  induction back using List.reverseRecOn with
  | nil => simpa using at?_layer_append_of_not_hides h
  | append_singleton back w ih =>
    rw [← List.cons_append, ← List.append_assoc, ← List.append_assoc, layer_append, layer_append]
    cases place? w.1 with
    | none => exact ih
    | some place => exact at?_overlay_congr (isTree_nested (isTree_value w.2) place) ih

end DeviceConsole.Variable
