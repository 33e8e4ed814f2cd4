import DeviceConsole.Json.Basic
import DeviceConsole.Proofs.Dictionary

/-! Tables within tables: what stands under a path of keys, and trees in which nothing is unset. -/
namespace DeviceConsole.Json

def isTable : Json → Bool
  | obj _ => true
  | _ => false

/-- The value under a path of keys. -/
def at? : List String → Json → Option Json
  | [], j => some j
  | key :: path, obj fields => (fields.lookup key).bind (at? path)
  | _ :: _, _ => none

@[simp] theorem at?_nil (j : Json) : j.at? [] = some j := by rw [at?]

@[simp] theorem at?_cons_obj (fields : List (String × Json)) (key : String) (path : List String) :
    (obj fields).at? (key :: path) = (fields.lookup key).bind (at? path) := by rw [at?]

theorem at?_cons_of_isTable_eq_false {j : Json} (h : j.isTable = false) (key : String)
    (path : List String) : j.at? (key :: path) = none := by
  cases j <;> first | rfl | cases h

theorem at?_append (j : Json) (above below : List String) :
    j.at? (above ++ below) = (j.at? above).bind (at? below) := by
  induction above generalizing j with
  | nil => simp
  | cons key above ih =>
    cases j with
    | obj fields =>
      rw [List.cons_append, at?_cons_obj, at?_cons_obj, Option.bind_assoc]
      exact congrArg _ (funext ih)
    | _ => rfl

/-- Something other than a table stands under the path. -/
def EndsAt (path : List String) (j : Json) : Prop := (j.at? path).map isTable = some false

instance (path : List String) (j : Json) : Decidable (j.EndsAt path) :=
  inferInstanceAs (Decidable (_ = _))

theorem endsAt_iff {j : Json} {path : List String} :
    j.EndsAt path ↔ ∃ v, j.at? path = some v ∧ v.isTable = false := Option.map_eq_some_iff

theorem isTable_of_not_endsAt {j v : Json} {path : List String} (h : ¬ j.EndsAt path)
    (hv : j.at? path = some v) : v.isTable = true := by
  by_contra hleaf
  exact h (endsAt_iff.mpr ⟨v, hv, Bool.eq_false_of_not_eq_true hleaf⟩)

/-- Something other than a table stands where the path goes on. -/
def Cuts (path : List String) (j : Json) : Prop :=
  ∃ above key below, path = above ++ key :: below ∧ j.EndsAt above

theorem not_cuts_nil (j : Json) : ¬ j.Cuts [] := by
  rintro ⟨above, key, below, hpath, -⟩
  cases above <;> cases hpath

theorem cuts_of_isTable_eq_false {j : Json} (h : j.isTable = false) (key : String)
    (path : List String) : j.Cuts (key :: path) :=
  ⟨[], key, path, rfl, congrArg some h⟩

theorem cuts_cons_obj_iff {fields : List (String × Json)} {key : String} {path : List String} :
    (obj fields).Cuts (key :: path) ↔ ∃ v, fields.lookup key = some v ∧ v.Cuts path := by
  constructor
  · rintro ⟨above, k, below, hpath, hends⟩
    obtain ⟨v, hv, hleaf⟩ := endsAt_iff.mp hends
    cases above with
    | nil =>
      cases hv
      cases hleaf
    | cons a above =>
      obtain ⟨rfl, rfl⟩ := List.cons.inj hpath
      obtain ⟨w, hw, hv⟩ := Option.bind_eq_some_iff.mp hv
      exact ⟨w, hw, above, k, below, rfl, endsAt_iff.mpr ⟨v, hv, hleaf⟩⟩
  · rintro ⟨w, hw, above, k, below, rfl, hends⟩
    refine ⟨key :: above, k, below, rfl, ?_⟩
    rw [EndsAt, at?_cons_obj, hw]
    exact hends

/-- Nothing stands under a path that is cut off. -/
theorem Cuts.at?_eq_none {j : Json} {path : List String} (h : j.Cuts path) : j.at? path = none := by
  obtain ⟨above, key, below, rfl, hends⟩ := h
  obtain ⟨v, hv, hleaf⟩ := endsAt_iff.mp hends
  rw [at?_append, hv]
  exact at?_cons_of_isTable_eq_false hleaf key below

/-! ### Trees -/

/-- Tables of distinct keys all the way down, with nothing unset in them. -/
inductive IsTree : Json → Prop
  | bool (b : Bool) : IsTree (bool b)
  | int (i : Int) : IsTree (int i)
  | float (x : Binary64) : IsTree (float x)
  | str (s : String) : IsTree (str s)
  | arr {items : List Json} (isSet : null ∉ items) : IsTree (arr items)
  | obj {fields : List (String × Json)} (distinct : (fields.map (·.1)).Nodup)
      (values : ∀ key v, fields.lookup key = some v → IsTree v) : IsTree (obj fields)

namespace IsTree

variable {j : Json} {fields : List (String × Json)}

theorem ne_null (h : IsTree j) : j ≠ null := by
  rintro rfl
  cases h

theorem distinct (h : IsTree (.obj fields)) : (fields.map (·.1)).Nodup := by
  cases h
  assumption

theorem lookup (h : IsTree (.obj fields)) {key : String} {v : Json}
    (hv : fields.lookup key = some v) : IsTree v := by
  cases h with
  | obj distinct values => exact values key v hv

theorem at? (h : IsTree j) {path : List String} {v : Json} (hv : j.at? path = some v) :
    IsTree v := by
  induction path generalizing j with
  | nil =>
    rw [at?_nil] at hv
    exact Option.some.inj hv ▸ h
  | cons key path ih =>
    cases j with
    | obj fields =>
      obtain ⟨w, hw, hv⟩ := Option.bind_eq_some_iff.mp hv
      exact ih (h.lookup hw) hv
    | _ => cases hv

/-- Sorting leaves only values that were there. -/
theorem sortFields (h : ∀ f ∈ fields, IsTree f.2) : IsTree (.obj (Json.sortFields fields)) := by
  have hdistinct := (Dictionary.ofList fields).nodup_keys
  refine .obj hdistinct fun key v hv => ?_
  exact h (key, v) (Dictionary.mem_of_mem_ofList ((lookup_eq_some_iff_mem hdistinct).mp hv))

end IsTree
end DeviceConsole.Json
