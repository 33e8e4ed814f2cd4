import DeviceConsole.Proofs.Json.Path
import DeviceConsole.Settings.Layer

/-! A layer over another, field by field, and what shows of both under a path. -/
namespace DeviceConsole.Layer

theorem lookup_setField (key : String) (value : Json) (fields : List (String × Json))
    (other : String) : (setField key value fields).lookup other =
      if other = key then some value else fields.lookup other := by
  induction fields with
  | nil => rw [setField, lookup_cons_eq_ite]
  | cons f fields ih =>
    obtain ⟨k, v⟩ := f
    rw [setField, lookup_cons_eq_ite]
    split
    · rename_i heq
      subst heq
      rw [lookup_cons_eq_ite]
      split <;> rfl
    · rename_i hne
      rw [lookup_cons_eq_ite, ih]
      by_cases hk : other = k
      · rw [if_pos hk, if_pos hk, if_neg fun ho : other = key => hne (hk ▸ ho)]
      · rw [if_neg hk, if_neg hk]

theorem keys_setField (key : String) (value : Json) (fields : List (String × Json)) :
    (setField key value fields).map (·.1) =
      if key ∈ fields.map (·.1) then fields.map (·.1) else fields.map (·.1) ++ [key] := by
  induction fields with
  | nil => rfl
  | cons f fields ih =>
    obtain ⟨k, v⟩ := f
    rw [setField]
    split
    · rename_i heq
      simp [heq]
    · rename_i hne
      simp only [List.map_cons, ih, List.mem_cons, Ne.symm hne, false_or]
      split <;> rfl

theorem nodup_setField {fields : List (String × Json)} (hn : (fields.map (·.1)).Nodup)
    (key : String) (value : Json) : ((setField key value fields).map (·.1)).Nodup := by
  rw [keys_setField]
  split
  · exact hn
  · rename_i hnew
    exact List.nodup_append.mpr ⟨hn, List.nodup_singleton key,
      fun k hk k' hk' he => hnew (List.mem_singleton.mp hk' ▸ he ▸ hk)⟩

theorem overlay_of_base {base : Json} (h : base.isTable = false) (upper : Json) :
    overlay base upper = upper := by
  rw [overlay]
  rintro fields upper rfl
  cases h

theorem overlay_of_upper {upper : Json} (h : upper.isTable = false) (base : Json) :
    overlay base upper = upper := by
  rw [overlay]
  rintro fields upper rfl rfl
  cases h

open overlay

theorem nodup_overlayFields {base : List (String × Json)} (hn : (base.map (·.1)).Nodup)
    (upper : List (String × Json)) : ((overlayFields base upper).map (·.1)).Nodup := by
  induction upper generalizing base with
  | nil => rwa [overlayFields]
  | cons f upper ih =>
    rw [overlayFields]
    exact ih (nodup_setField hn _ _)

/-- What the upper layer has goes over what is below, and the rest stays. -/
theorem lookup_overlayFields {upper : List (String × Json)} (hn : (upper.map (·.1)).Nodup)
    (base : List (String × Json)) (key : String) : (overlayFields base upper).lookup key =
      match upper.lookup key with
      | some value => some (overlay ((base.lookup key).getD .null) value)
      | none => base.lookup key := by
  induction upper generalizing base with
  | nil => rw [overlayFields]; rfl
  | cons f upper ih =>
    obtain ⟨k, v⟩ := f
    obtain ⟨hk, hrest⟩ := List.nodup_cons.mp hn
    rw [overlayFields, ih hrest, lookup_cons_eq_ite, lookup_setField]
    by_cases h : key = k
    · subst h
      have hnone : upper.lookup key = none :=
        lookup_of_forall_ne fun e he heq => hk (List.mem_map.mpr ⟨e, he, heq⟩)
      rw [hnone, if_pos rfl, if_pos rfl]
    · rw [if_neg h, if_neg h]

theorem setField_new {key : String} {value : Json} {fields : List (String × Json)}
    (h : ∀ e ∈ fields, e.1 ≠ key) : setField key value fields = fields ++ [(key, value)] := by
  induction fields with
  | nil => rfl
  | cons f fields ih =>
    obtain ⟨k, v⟩ := f
    have hk : k ≠ key := h (k, v) (by simp)
    rw [setField, if_neg hk, ih fun e he => h e (by simp [he])]
    rfl

/-- New fields go behind those that are there. -/
theorem overlayFields_new {base upper : List (String × Json)}
    (hn : (base.map (·.1) ++ upper.map (·.1)).Nodup) :
    overlayFields base upper = base ++ upper := by
  induction upper generalizing base with
  | nil => rw [overlayFields, List.append_nil]
  | cons f upper ih =>
    obtain ⟨k, v⟩ := f
    have hnew : ∀ e ∈ base, e.1 ≠ k := fun e he =>
      (List.nodup_append.mp hn).2.2 e.1 (List.mem_map_of_mem he) k (by simp)
    have hvalue : overlay .null v = v := overlay_of_base rfl v
    rw [overlayFields, lookup_of_forall_ne hnew, Option.getD_none, hvalue, setField_new hnew,
      ih (by simpa using hn)]
    simp

/-! ### Trees -/

theorem overlay_obj (base upper : List (String × Json)) :
    overlay (.obj base) (.obj upper) = .obj (overlayFields base upper) := by rw [overlay]

@[simp] theorem isTable_overlay (base upper : Json) :
    (overlay base upper).isTable = upper.isTable := by
  cases hupper : upper.isTable with
  | false => rw [overlay_of_upper hupper, hupper]
  | true =>
    cases hbase : base.isTable with
    | false => rw [overlay_of_base hbase, hupper]
    | true =>
      cases upper <;> cases hupper
      cases base <;> cases hbase
      rw [overlay_obj]
      rfl

theorem isTree_overlay {base upper : Json} (hbase : base.IsTree) (hupper : upper.IsTree) :
    (overlay base upper).IsTree := by
  induction hupper generalizing base with
  | bool | int | float | str =>
    rw [overlay_of_upper rfl]
    constructor
  | arr isSet =>
    rw [overlay_of_upper rfl]
    exact .arr isSet
  | @obj upper distinct values ih =>
    cases hbase with
    | bool | int | float | str | arr =>
      rw [overlay_of_base rfl]
      exact .obj distinct values
    | @obj base hdistinct hvalues =>
      rw [overlay_obj]
      refine .obj (nodup_overlayFields hdistinct upper) fun key v hv => ?_
      rw [lookup_overlayFields distinct] at hv
      split at hv
      · rename_i value hvalue
        cases hv
        cases hlookup : base.lookup key with
        | none =>
          rw [Option.getD_none, overlay_of_base rfl]
          exact values key value hvalue
        | some under => exact ih key value hvalue (hvalues key under hlookup)
      · exact hvalues key v hv

theorem isTree_overlayFields {base upper : List (String × Json)}
    (hbase : (Json.obj base).IsTree) (hupper : (Json.obj upper).IsTree) :
    (Json.obj (overlayFields base upper)).IsTree :=
  overlay_obj base upper ▸ isTree_overlay hbase hupper

/-! ### What shows under a path -/

variable {upper : Json}

/-- What the upper layer has under a path goes over what is below. -/
theorem at?_overlay_of_some (hupper : upper.IsTree) (base : Json) {path : List String} {v : Json}
    (hv : upper.at? path = some v) :
    (overlay base upper).at? path = some (overlay ((base.at? path).getD .null) v) := by
  induction path generalizing base upper with
  | nil =>
    rw [Json.at?_nil] at hv
    cases hv
    simp
  | cons key path ih =>
    cases upper <;> try cases hv
    rename_i upper
    cases hbase : base.isTable with
    | false =>
      rw [overlay_of_base hbase, hv, Json.at?_cons_of_isTable_eq_false hbase, Option.getD_none,
        overlay_of_base rfl]
    | true =>
      cases base <;> cases hbase
      rename_i base
      obtain ⟨w, hw, hwv⟩ := Option.bind_eq_some_iff.mp hv
      have hunder : (((base.lookup key).getD .null).at? path).getD .null =
          ((base.lookup key).bind (Json.at? path)).getD .null := by
        cases base.lookup key with
        | some under => rfl
        | none => cases path <;> rfl
      rw [overlay_obj, Json.at?_cons_obj, Json.at?_cons_obj, lookup_overlayFields hupper.distinct,
        hw]
      exact (ih (hupper.lookup hw) _ hwv).trans (by rw [hunder])

/-- What a layer cuts off does not show through. -/
theorem cuts_overlay (hupper : upper.IsTree) (base : Json) {path : List String}
    (h : upper.Cuts path) : (overlay base upper).Cuts path := by
  obtain ⟨above, key, below, rfl, hends⟩ := h
  obtain ⟨v, hv, hleaf⟩ := Json.endsAt_iff.mp hends
  refine ⟨above, key, below, rfl, Json.endsAt_iff.mpr ⟨_, at?_overlay_of_some hupper base hv, ?_⟩⟩
  rw [isTable_overlay, hleaf]

/-- Where the upper layer has nothing the lower one shows. -/
theorem at?_overlay_of_none (hupper : upper.IsTree) (base : Json) {path : List String}
    (hnone : upper.at? path = none) (hcuts : ¬ upper.Cuts path) :
    (overlay base upper).at? path = base.at? path := by
  induction path generalizing base upper with
  | nil => simp at hnone
  | cons key path ih =>
    cases htable : upper.isTable with
    | false => exact absurd (Json.cuts_of_isTable_eq_false htable key path) hcuts
    | true =>
      cases upper <;> cases htable
      rename_i upper
      cases hbase : base.isTable with
      | false =>
        rw [overlay_of_base hbase, hnone, Json.at?_cons_of_isTable_eq_false hbase]
      | true =>
        cases base <;> cases hbase
        rename_i base
        rw [overlay_obj, Json.at?_cons_obj, Json.at?_cons_obj,
          lookup_overlayFields hupper.distinct]
        rw [Json.at?_cons_obj] at hnone
        cases hw : upper.lookup key with
        | none => rfl
        | some w =>
          rw [hw, Option.bind_some] at hnone
          have hwcuts : ¬ w.Cuts path := fun h => hcuts (Json.cuts_cons_obj_iff.mpr ⟨w, hw, h⟩)
          refine (ih (hupper.lookup hw) _ hnone hwcuts).trans ?_
          cases base.lookup key with
          | some under => rfl
          | none =>
            cases path with
            | nil => simp at hnone
            | cons key path => rfl

/-- Under a path a layer sees nothing but what is below it there. -/
theorem at?_overlay_congr (hupper : upper.IsTree) {base base' : Json} {path : List String}
    (h : base.at? path = base'.at? path) :
    (overlay base upper).at? path = (overlay base' upper).at? path := by
  cases hv : upper.at? path with
  | some v => rw [at?_overlay_of_some hupper base hv, at?_overlay_of_some hupper base' hv, h]
  | none =>
    by_cases hcuts : upper.Cuts path
    · rw [(cuts_overlay hupper base hcuts).at?_eq_none,
        (cuts_overlay hupper base' hcuts).at?_eq_none]
    · rw [at?_overlay_of_none hupper base hv hcuts, at?_overlay_of_none hupper base' hv hcuts, h]

end DeviceConsole.Layer
