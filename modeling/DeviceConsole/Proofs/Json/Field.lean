import DeviceConsole.Proofs.Decimal
import DeviceConsole.Proofs.Json.Record
import Mathlib.Data.List.Forall2
import Mathlib.Tactic.SplitIfs

/-! The fields of an object as they are written: what stands under a key that may be left out, and
objects that have the same keys with related values. The reader of a record's fields gives related
values for them. -/
namespace DeviceConsole

section Results

variable {α β γ δ : Type}

theorem toOption_eq_some_iff {ε α : Type} {x : Except ε α} {a : α} :
    x.toOption = some a ↔ x = .ok a := by
  cases x <;> simp [Except.toOption]

theorem rel_imp {R S : α → β → Prop} (h : ∀ a b, R a b → S a b) {a : Option α} {b : Option β}
    (hab : Option.Rel R a b) : Option.Rel S a b := by
  cases hab with
  | none => exact .none
  | some hab => exact .some (h _ _ hab)

theorem rel_eq_iff {a b : Option α} : Option.Rel Eq a b ↔ a = b := by
  cases a <;> cases b <;> simp

theorem rel_bind {R : α → β → Prop} {S : γ → δ → Prop} {a : Option α} {b : Option β}
    {f : α → Option γ} {g : β → Option δ} (hab : Option.Rel R a b)
    (h : ∀ a b, R a b → Option.Rel S (f a) (g b)) : Option.Rel S (a >>= f) (b >>= g) := by
  cases hab with
  | none => exact .none
  | some hab => exact h _ _ hab

theorem mapM_some_iff {f : α → Option β} {as : List α} {bs : List β} :
    as.mapM f = some bs ↔ List.Forall₂ (fun a b => f a = some b) as bs := by
  induction as generalizing bs with
  | nil =>
    rw [List.forall₂_nil_left_iff, List.mapM_nil]
    exact ⟨fun h => (Option.some.inj h).symm, fun h => congrArg some h.symm⟩
  | cons a as ih =>
    simp only [List.mapM_cons, List.forall₂_cons_left_iff, Option.bind_eq_bind,
      Option.bind_eq_some_iff, Option.pure_def, Option.some.injEq, ih]
    constructor
    · rintro ⟨b, hb, rest, hrest, rfl⟩
      exact ⟨b, rest, hb, hrest, rfl⟩
    · rintro ⟨b, rest, hb, hrest, rfl⟩
      exact ⟨b, hb, rest, hrest, rfl⟩

theorem mapM_none_iff {f : α → Option β} {as : List α} :
    as.mapM f = none ↔ ∃ a ∈ as, f a = none := by
  induction as with
  | nil => simp
  | cons a as ih =>
    cases ha : f a with
    | none => simp [ha]
    | some b =>
      cases hrest : as.mapM f with
      | none => simpa [ha, hrest] using ih.mp hrest
      | some bs => simpa [ha, hrest] using fun x hx he => by simp [ih.mpr ⟨x, hx, he⟩] at hrest

theorem forall_mem_congr {R : α → β → Prop} {P : α → Prop} {Q : β → Prop} {as : List α}
    {bs : List β} (hab : List.Forall₂ R as bs) (h : ∀ a b, R a b → (P a ↔ Q b)) :
    (∀ a ∈ as, P a) ↔ ∀ b ∈ bs, Q b := by
  induction hab with
  | nil => simp
  | cons head _ ih => simp [h _ _ head, ih]

theorem exists_mem_congr {R : α → β → Prop} {P : α → Prop} {Q : β → Prop} {as : List α}
    {bs : List β} (hab : List.Forall₂ R as bs) (h : ∀ a b, R a b → (P a ↔ Q b)) :
    (∃ a ∈ as, P a) ↔ ∃ b ∈ bs, Q b := by
  induction hab with
  | nil => simp
  | cons head _ ih => simp [h _ _ head, ih]

theorem rel_getElem? {R : α → β → Prop} {as : List α} {bs : List β} (h : List.Forall₂ R as bs)
    (n : Nat) : Option.Rel R as[n]? bs[n]? := by
  induction h generalizing n with
  | nil => exact .none
  | cons head _ ih =>
    cases n with
    | zero => exact .some head
    | succ n => exact ih n

/-- Readers that give related results for related items give related lists. -/
theorem mapM_rel {R : α → β → Prop} {S : γ → δ → Prop} {f : α → Option γ} {g : β → Option δ}
    {as : List α} {bs : List β} (hab : List.Forall₂ R as bs)
    (h : ∀ a ∈ as, ∀ b, R a b → Option.Rel S (f a) (g b)) :
    Option.Rel (List.Forall₂ S) (as.mapM f) (bs.mapM g) := by
  induction hab with
  | nil => exact .some .nil
  | cons head _ ih =>
    rw [List.mapM_cons, List.mapM_cons]
    refine rel_bind (h _ List.mem_cons_self _ head) fun _ _ hhead => ?_
    refine rel_bind (ih fun a ha => h a (List.mem_cons_of_mem _ ha)) fun _ _ htail => ?_
    exact .some (.cons hhead htail)

end Results

namespace Json

/-! ### Fields that may be left out -/

/-- The object has the field once with this value, or not at all. -/
def HasAtMost (fields : List (String × Json)) (key : String) (j : Option Json) : Prop :=
  (fields.filter fun f => f.1 = key).map (·.2) = j.toList

variable {fields fs gs : List (String × Json)} {key : String} {j k : Option Json}

theorem single?_eq_some_iff : single? fields key = some j ↔ HasAtMost fields key j := by
  unfold single? HasAtMost
  generalize fields.filter (fun f => decide (f.1 = key)) = found
  match found, j with
  | [], none => simp
  | [], some _ => simp
  | [f], none => simp
  | [f], some _ => simp
  | _ :: _ :: _, none => simp
  | _ :: _ :: _, some _ => simp

/-- A record read from an object takes each of its fields, where the object has it. -/
theorem record?_obj_iff {names : List String} {values : List (Option Json)} :
    record? names (obj fields) = some values ↔ List.Forall₂ (HasAtMost fields) names values := by
  simp only [record?, mapM_some_iff, single?_eq_some_iff]

variable {α : Type} {written : α → Json} {decode : Json → Option α} {default a : α}

/-- A value that may be left out or `null`. -/
inductive Optional (written : α → Json) : Option Json → Option α → Prop
  | absent : Optional written none none
  | null : Optional written (some .null) none
  | value (a : α) : Optional written (some (written a)) (some a)

/-- A value with a default for when it is left out. -/
inductive Defaulted (written : α → Json) (default : α) : Option Json → α → Prop
  | absent : Defaulted written default none default
  | value (a : α) : Defaulted written default (some (written a)) a

theorem optional_iff {a : Option α} (hdecode : ∀ j a, decode j = some a ↔ j = written a)
    (hnull : decode .null = none) :
    withDefault? (toOption? decode) none j = some a ↔ Optional written j a := by
  constructor
  · intro h
    match j with
    | none =>
      cases h
      exact .absent
    | some v =>
      by_cases hv : v = .null
      · subst hv
        cases h
        exact .null
      · rw [withDefault?, toOption?_of_ne_null hv, Option.map_eq_some_iff] at h
        obtain ⟨a, ha, rfl⟩ := h
        rw [(hdecode v a).mp ha]
        exact .value a
  · intro h
    cases h with
    | absent => rfl
    | null => rfl
    | value a =>
      have ha := (hdecode _ a).mpr rfl
      have hne : written a ≠ .null := fun he => by simp [he, hnull] at ha
      rw [withDefault?, toOption?_of_ne_null hne, ha]
      rfl

theorem Defaulted.withDefault? (h : Defaulted written default j a)
    (hdecode : ∀ a, decode (written a) = some a) : Json.withDefault? decode default j = some a := by
  cases h with
  | absent => rfl
  | value a => exact hdecode a

theorem toText?_eq_some_iff {t : String} {v : Json} : toText? v = some t ↔ v = .str t := by
  cases v <;> simp [toText?]

theorem toInt64?_eq_some_iff {n : Int64} {v : Json} : toInt64? v = some n ↔ v = .int n.toInt := by
  constructor
  · intro h
    cases v with
    | int i => rw [Decimal.toInt_of_int64? h]
    | _ => cases h
  · rintro rfl
    exact Decimal.int64?_toInt n

theorem toNat?_eq_some_iff {bound n : Nat} {v : Json} :
    toNat? bound v = some n ↔ v = .ofNat n ∧ n ≤ bound := by
  cases v with
  | int i =>
    simp only [toNat?, ofNat, int.injEq]
    split_ifs with hi
    · rw [Option.some.injEq]
      omega
    · simp only [false_iff]
      omega
  | _ => simp [toNat?, ofNat]

theorem toUInt16?_eq_some_iff {n : UInt16} {v : Json} :
    toUInt16? v = some n ↔ v = .int n.toNat := by
  constructor
  · intro h
    obtain ⟨m, hm, rfl⟩ := Option.map_eq_some_iff.mp h
    obtain ⟨rfl, hle⟩ := toNat?_eq_some_iff.mp hm
    rw [UInt16.toNat_ofNat_of_lt' (Nat.lt_succ_of_le hle), ofNat]
  · rintro rfl
    exact toUInt16?_ofNat n

theorem required?_eq_some_iff {Is : Json → α → Prop} (hdecode : ∀ j a, decode j = some a ↔ Is j a) :
    required? decode j = some a ↔ ∃ v, j = some v ∧ Is v a := by
  cases j <;> simp [required?, hdecode]

theorem required?_congr {R : Json → Json → Prop} (h : Option.Rel R j k)
    (hdecode : ∀ a b, R a b → decode a = decode b) : required? decode j = required? decode k := by
  cases h with
  | none => rfl
  | some h => exact hdecode _ _ h

theorem toBool?_bool (b : Bool) : toBool? (.bool b) = some b := rfl

/-! ### Objects with the same keys -/

/-- The same keys as often, in any order, and related values under them. -/
def FieldsBy (V : String → Json → Json → Prop) (fs gs : List (String × Json)) : Prop :=
  ∃ ms, List.Forall₂ (fun f m => f.1 = m.1 ∧ V f.1 f.2 m.2) fs ms ∧ ms.Perm gs

variable {V : String → Json → Json → Prop}

theorem FieldsBy.single? (h : FieldsBy V fs gs) (key : String) :
    Option.Rel (Option.Rel (V key)) (Json.single? fs key) (Json.single? gs key) := by
  obtain ⟨ms, hms, hperm⟩ := h
  have hfound : List.Forall₂ (fun f m => f.1 = m.1 ∧ V f.1 f.2 m.2)
      (fs.filter fun f => f.1 = key) (ms.filter fun m => m.1 = key) :=
    List.rel_filter (fun {f m} hfm => by simp [hfm.1]) hms
  have hkey : ∀ f ∈ fs.filter (fun f => f.1 = key), f.1 = key := fun f hf =>
    of_decide_eq_true (List.mem_filter.mp hf).2
  have hperm' := hperm.filter fun m => decide (m.1 = key)
  unfold Json.single?
  generalize fs.filter (fun f => decide (f.1 = key)) = found at hfound hkey ⊢
  generalize ms.filter (fun m => decide (m.1 = key)) = found' at hfound hperm'
  generalize gs.filter (fun g => decide (g.1 = key)) = found'' at hperm' ⊢
  cases hfound with
  | nil =>
    rw [List.nil_perm.mp hperm']
    exact .some .none
  | cons hhead htail =>
    obtain rfl := hkey _ List.mem_cons_self
    cases htail with
    | nil =>
      obtain rfl := List.singleton_perm.mp hperm'
      exact .some (.some hhead.2)
    | cons _ _ =>
      match found'', hperm'.length_eq with
      | _ :: _ :: _, _ => exact .none

/-- A record read from objects with the same keys has related values. -/
theorem FieldsBy.record? {W : Json → Json → Prop} {names : List String} (h : FieldsBy V fs gs)
    (hV : ∀ key ∈ names, ∀ j k, V key j k → W j k) :
    Option.Rel (List.Forall₂ (Option.Rel W)) (Json.record? names (.obj fs))
      (Json.record? names (.obj gs)) := by
  refine mapM_rel (List.forall₂_same.mpr fun key _ => rfl) fun key hkey _ hkey' => ?_
  obtain rfl := hkey'
  exact rel_imp (fun _ _ => rel_imp (hV key hkey)) (h.single? key)

/-- A record read from arrays that are as long has related values, where the items are. -/
theorem record?_arr_rel {W : Json → Json → Prop} {names : List String} {as bs : List Json}
    (hlen : as.length = bs.length) (h : ∀ n < names.length, Option.Rel W as[n]? bs[n]?) :
    Option.Rel (List.Forall₂ (Option.Rel W)) (record? names (.arr as))
      (record? names (.arr bs)) := by
  simp only [record?, hlen]
  split
  · refine .some ?_
    rw [List.forall₂_map_left_iff, List.forall₂_map_right_iff, List.forall₂_same]
    intro n hn
    exact h n.2 (by simpa using (List.mem_zipIdx hn).2.1)
  · exact .none

end Json
end DeviceConsole
