import DeviceConsole.Json.Basic
import DeviceConsole.Proofs.Dictionary
import Mathlib.Data.List.Forall2
import Mathlib.Data.List.Induction

/-! The value that is made of JSON with repeated fields: of each field the last one counts, and the
fields are put in order. -/
namespace DeviceConsole

namespace Dictionary

variable {α : Type}

theorem ofList_concat (l : List (String × α)) (e : String × α) :
    ofList (l ++ [e]) = (ofList l).insert e.1 e.2 := by
  rw [ofList, List.foldl_append]
  rfl

/-- Under a key is the last value that was given under it. -/
theorem get?_ofList_last (l : List (String × α)) (key : String) :
    (ofList l).get? key = l.reverse.lookup key := by
  induction l using List.reverseRecOn with
  | nil => rfl
  | append_singleton l e ih =>
    obtain ⟨k, value⟩ := e
    rw [ofList_concat, get?_insert, ih, List.reverse_append, List.reverse_singleton,
      List.singleton_append, lookup_cons_eq_ite]

end Dictionary

namespace Json

/-- What a value is once its objects are maps: an object holds, in the order of the names, for each
name the last of its values in the text. -/
inductive ReadsAs : Json → Json → Prop
  | null : ReadsAs .null .null
  | bool (b : Bool) : ReadsAs (.bool b) (.bool b)
  | int (i : Int) : ReadsAs (.int i) (.int i)
  | float (x : Binary64) : ReadsAs (.float x) (.float x)
  | str (s : String) : ReadsAs (.str s) (.str s)
  | arr {items values : List Json} (each : List.Forall₂ ReadsAs items values) :
      ReadsAs (.arr items) (.arr values)
  | obj {fields values : List (String × Json)} (ascending : values.Pairwise (·.1 < ·.1))
      (last : ∀ name, Option.Rel ReadsAs (fields.reverse.lookup name) (values.lookup name)) :
      ReadsAs (.obj fields) (.obj values)

theorem lookup_canonicalFields (fields : List (String × Json)) (name : String) :
    (canonical.canonicalFields fields).reverse.lookup name =
      (fields.reverse.lookup name).map canonical := by
  have hmap : canonical.canonicalFields fields = fields.map fun f => (f.1, f.2.canonical) := by
    induction fields with
    | nil => rfl
    | cons f fs ih => rw [canonical.canonicalFields, ih, List.map_cons]
  rw [hmap, ← List.map_reverse]
  induction fields.reverse with
  | nil => rfl
  | cons f fs ih =>
    rw [List.map_cons, lookup_cons_eq_ite, lookup_cons_eq_ite, ih]
    split <;> rfl

theorem lookup_sortFields (fields : List (String × Json)) (name : String) :
    (sortFields (canonical.canonicalFields fields)).lookup name =
      (fields.reverse.lookup name).map canonical :=
  (Dictionary.get?_ofList_last _ name).trans (lookup_canonicalFields fields name)

/-- The last field of a name is one of the fields. -/
theorem mem_of_lookup_reverse {fields : List (String × Json)} {name : String} {j : Json}
    (h : fields.reverse.lookup name = some j) : (name, j) ∈ fields := by
  obtain ⟨l₁, l₂, heq, -⟩ := List.lookup_eq_some_iff.mp h
  rw [← List.mem_reverse, heq]
  simp

mutual

theorem readsAs_canonical : ∀ j : Json, j.ReadsAs j.canonical
  | null => .null
  | bool b => .bool b
  | int i => .int i
  | float x => .float x
  | str s => .str s
  | arr items => .arr (readsAs_items items)
  | obj fields => by
    have hfields := readsAs_fields fields
    refine .obj (Dictionary.ofList _).ascending fun name => ?_
    rw [lookup_sortFields]
    cases hlast : fields.reverse.lookup name with
    | none => exact .none
    | some j => exact .some (hfields _ (mem_of_lookup_reverse hlast))

theorem readsAs_items : ∀ items : List Json,
    List.Forall₂ ReadsAs items (canonical.canonicalItems items)
  | [] => .nil
  | j :: js => .cons (readsAs_canonical j) (readsAs_items js)

theorem readsAs_fields : ∀ fields : List (String × Json), ∀ f ∈ fields, f.2.ReadsAs f.2.canonical
  | [], _, h => absurd h List.not_mem_nil
  | (_, j) :: fs, f, h => by
    rcases List.mem_cons.mp h with rfl | h
    · exact readsAs_canonical j
    · exact readsAs_fields fs f h

end

mutual

theorem ReadsAs.eq_canonical : ∀ {j value : Json}, j.ReadsAs value → value = j.canonical
  | null, _, .null => rfl
  | bool _, _, .bool _ => rfl
  | int _, _, .int _ => rfl
  | float _, _, .float _ => rfl
  | str _, _, .str _ => rfl
  | arr _, _, .arr each => congrArg arr (eq_canonicalItems each)
  | obj fields, _, @ReadsAs.obj _ values ascending last => by
    have hfields {f : String × Json} (hf : f ∈ fields) {value : Json} (h : f.2.ReadsAs value) :=
      eq_canonicalFields fields f hf h
    refine congrArg obj (congrArg Dictionary.entries (?_ : ⟨values, ascending⟩ = _))
    refine Dictionary.ext_get? fun name => ?_
    change values.lookup name = (sortFields _).lookup name
    rw [lookup_sortFields]
    generalize hvalue : values.lookup name = value
    generalize hlast : fields.reverse.lookup name = field
    have hrel := last name
    rw [hvalue, hlast] at hrel
    cases hrel with
    | none => rfl
    | some h => exact congrArg _ (hfields (mem_of_lookup_reverse hlast) h)

theorem eq_canonicalItems : ∀ {items values : List Json},
    List.Forall₂ ReadsAs items values → values = canonical.canonicalItems items
  | [], _, .nil => rfl
  | _ :: _, _, .cons h each => congrArg₂ _ h.eq_canonical (eq_canonicalItems each)

theorem eq_canonicalFields : ∀ fields : List (String × Json), ∀ f ∈ fields, ∀ {value : Json},
    f.2.ReadsAs value → value = f.2.canonical
  | [], _, hf, _, _ => absurd hf List.not_mem_nil
  | (_, j) :: fs, f, hf, value, h => by
    rcases List.mem_cons.mp hf with rfl | hf
    · exact ReadsAs.eq_canonical h
    · exact eq_canonicalFields fs f hf h

end

/-- The value that is made of JSON is the one it reads as. -/
theorem readsAs_iff {j value : Json} : j.ReadsAs value ↔ value = j.canonical :=
  ⟨ReadsAs.eq_canonical, fun h => h ▸ readsAs_canonical j⟩

end Json
end DeviceConsole
