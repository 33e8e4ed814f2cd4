import DeviceConsole.Proofs.Json.Field

/-! Decoders that accept one JSON value for each value they give, and records of such fields. What a
record is read as is told by its fields: under their names in an object, or in their order in an
array. -/
namespace DeviceConsole.Json

/-- Each value is decoded from its encoding and from nothing else. -/
def Exact {α : Type} (encode : α → Json) (decode : Json → Option α) : Prop :=
  ∀ j a, decode j = some a ↔ j = encode a

theorem exact_text : Exact .str toText? := fun _ _ => toText?_eq_some_iff

theorem exact_bool : Exact .bool toBool? := fun j b => by cases j <;> simp [toBool?]

theorem exact_int64 : Exact (fun n : Int64 => .int n.toInt) toInt64? :=
  fun _ _ => toInt64?_eq_some_iff

theorem exact_uint16 : Exact (fun n : UInt16 => .ofNat n.toNat) toUInt16? :=
  fun _ _ => toUInt16?_eq_some_iff

theorem exact_uint32 : Exact (fun n : UInt32 => .ofNat n.toNat) toUInt32? := fun j n => by
  constructor
  · intro h
    obtain ⟨m, hm, rfl⟩ := Option.map_eq_some_iff.mp h
    obtain ⟨rfl, hle⟩ := toNat?_eq_some_iff.mp hm
    exact congrArg ofNat (UInt32.toNat_ofNat_of_lt' (Nat.lt_succ_of_le hle)).symm
  · rintro rfl
    exact toUInt32?_ofNat n

namespace Exact

variable {α : Type} {encode : α → Json} {decode : Json → Option α} {default a : α}
  {j : Option Json}

theorem decode_encode (h : Exact encode decode) (a : α) : decode (encode a) = some a :=
  (h _ a).mpr rfl

theorem list (h : Exact encode decode) :
    Exact (fun as => .arr (as.map encode)) (toList? decode) := fun j as => by
  constructor
  · intro has
    cases j with
    | arr items =>
      have hitems := (mapM_some_iff.mp has).imp fun item a => (h item a).mp
      rw [← List.forall₂_map_right_iff, List.forall₂_eq_eq_eq] at hitems
      rw [hitems]
    | _ => cases has
  · rintro rfl
    exact mapM_decode h.decode_encode as

theorem required (h : Exact encode decode) : required? decode j = some a ↔ j = some (encode a) := by
  cases j with
  | none => simp [required?]
  | some v => simpa [required?] using h v a

theorem defaulted (h : Exact encode decode) :
    withDefault? decode default j = some a ↔ Defaulted encode default j a := by
  constructor
  · intro ha
    cases j with
    | none =>
      cases ha
      exact .absent
    | some v =>
      rw [(h v a).mp ha]
      exact .value a
  · exact fun ha => ha.withDefault? h.decode_encode

end Exact

/-! ### Records -/

/-- The values of a record's fields. An object has each of them once or not at all, and may have
others; an array has them in order and may end before the last. -/
inductive IsRecord (names : List String) : Json → List (Option Json) → Prop
  | fields {fields : List (String × Json)} {values : List (Option Json)}
      (h : List.Forall₂ (HasAtMost fields) names values) : IsRecord names (.obj fields) values
  | items {items : List Json} {missing : Nat} (h : items.length + missing = names.length) :
      IsRecord names (.arr items) (items.map some ++ List.replicate missing none)

theorem record?_eq_some_iff {names : List String} {j : Json} {values : List (Option Json)} :
    record? names j = some values ↔ IsRecord names j values := by
  have hitems {items : List Json} {missing : Nat} (h : items.length + missing = names.length) :
      (names.zipIdx.map fun n => items[n.2]?) =
        items.map some ++ List.replicate missing none := by
    refine List.ext_getElem (by simp [h]) fun i hi hi' => ?_
    rcases Nat.lt_or_ge i items.length with hlt | hge
    · simp [hlt]
    · simp [Nat.not_lt.mpr hge, hge]
  constructor
  · intro h
    cases j with
    | obj fields => exact .fields (record?_obj_iff.mp h)
    | arr items =>
      rw [record?] at h
      split_ifs at h with hshort
      have hlen : items.length + (names.length - items.length) = names.length := by omega
      rw [hitems hlen] at h
      cases h
      exact .items hlen
    | _ => cases h
  · intro h
    cases h with
    | fields h => exact record?_obj_iff.mpr h
    | items h =>
      have hshort : _ ≤ names.length := h ▸ Nat.le_add_right _ _
      rw [record?, if_pos hshort, hitems h]

end DeviceConsole.Json
