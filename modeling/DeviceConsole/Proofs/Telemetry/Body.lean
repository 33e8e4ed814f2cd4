import DeviceConsole.Proofs.Binary64
import DeviceConsole.Proofs.Decimal
import DeviceConsole.Proofs.Dictionary
import DeviceConsole.Telemetry.Series
import Mathlib.Data.List.Forall2

/-! What a telemetry body says, as judgments on JSON values, and the reader as their decision
procedure: it accepts a body exactly when every point in it is one. -/
namespace DeviceConsole

theorem mapM_ok_iff {α β : Type} {f : α → Except String β} {as : List α} {bs : List β} :
    as.mapM f = .ok bs ↔ List.Forall₂ (fun a b => f a = .ok b) as bs := by
  induction as generalizing bs with
  | nil =>
    rw [List.forall₂_nil_left_iff]
    exact ⟨fun h => by cases h; rfl, fun h => by rw [h]; rfl⟩
  | cons a as ih =>
    rw [List.mapM_cons, List.forall₂_cons_left_iff]
    constructor
    · intro h
      cases ha : f a with
      | error e =>
        rw [ha] at h
        cases h
      | ok b =>
        rw [ha] at h
        cases hr : as.mapM f with
        | error e =>
          simp [hr, bind, Except.bind] at h
        | ok rest =>
          simp only [hr, bind, Except.bind, pure, Except.pure] at h
          cases h
          exact ⟨b, rest, rfl, ih.mp hr, rfl⟩
    · rintro ⟨b, rest, ha, hrest, rfl⟩
      simp [ha, ih.mpr hrest, bind, Except.bind, pure, Except.pure]

/-- A timestamp is an integer of 64 bits or a text. -/
inductive IsTime : Json → RawTime → Prop
  | seconds (n : Int64) : IsTime (.int n.toInt) (.seconds n)
  | text (s : String) : IsTime (.str s) (.text s)

/-- A value is a number. An integer stands for the double that is nearest to it. -/
inductive IsValue : Json → Binary64 → Prop
  | int {i : Int} {x : Binary64} (nearest : Binary64.IsNearest i x) : IsValue (.int i) x
  | float (x : Binary64) : IsValue (.float x) x

/-- The object has the field once, and this is its value. -/
def HasField (fields : List (String × Json)) (key : String) (j : Json) : Prop :=
  fields.filter (fun f => f.1 = key) = [(key, j)]

theorem HasField.unique {fields : List (String × Json)} {key : String} {j j' : Json}
    (h : HasField fields key j) (h' : HasField fields key j') : j = j' := by
  simpa using h.symm.trans h'

/-- A point is an object with a timestamp and a value, or the array of the two. -/
inductive IsPoint : Json → RawPoint → Prop
  | record {fields : List (String × Json)} {t v : Json} {p : RawPoint}
      (timestamp : HasField fields "timestamp" t) (value : HasField fields "value" v)
      (time : IsTime t p.time) (number : IsValue v p.value) : IsPoint (.obj fields) p
  | pair {t v : Json} {p : RawPoint} (time : IsTime t p.time) (number : IsValue v p.value) :
      IsPoint (.arr [t, v]) p

theorem RawTime.ofJson_iff {j : Json} {time : RawTime} : ofJson j = .ok time ↔ IsTime j time := by
  constructor
  · intro h
    cases j with
    | str s =>
      cases h
      exact .text s
    | int i =>
      simp only [ofJson] at h
      cases hn : Decimal.int64? i with
      | none =>
        rw [hn] at h
        cases h
      | some n =>
        rw [hn] at h
        cases h
        rw [← Decimal.toInt_of_int64? hn]
        exact .seconds n
    | _ => cases h
  · intro h
    cases h with
    | seconds n => simp [ofJson, Decimal.int64?_toInt]
    | text s => rfl

theorem IsTime.unique {j : Json} {time time' : RawTime} (h : IsTime j time)
    (h' : IsTime j time') : time = time' := by
  rw [← RawTime.ofJson_iff] at h h'
  exact Except.ok.inj (h.symm.trans h')

theorem Json.toBinary64_iff {j : Json} {x : Binary64} : j.toBinary64 = .ok x ↔ IsValue j x := by
  constructor
  · intro h
    cases j with
    | int i =>
      cases h
      exact .int (Binary64.ofInt_isNearest i)
    | float x =>
      cases h
      exact .float x
    | _ => cases h
  · intro h
    cases h with
    | int nearest => exact congrArg _ ((Binary64.ofInt_isNearest _).unique nearest)
    | float => rfl

namespace RawPoint

/-- A field that is read already must not come again; one that is not has to come once. -/
def Slot {α : Type} (fields : List (String × Json)) (key : String) (Is : Json → α → Prop) (a : α) :
    Option α → Prop
  | some b => b = a ∧ fields.filter (fun f => f.1 = key) = []
  | none => ∃ j, HasField fields key j ∧ Is j a

variable {α : Type} {fields : List (String × Json)} {key : String} {Is : Json → α → Prop} {a : α}

theorem slot_nil {slot : Option α} : Slot [] key Is a slot ↔ slot = some a := by
  cases slot <;> simp [Slot, HasField]

theorem slot_cons_ne {key' : String} {j : Json} {slot : Option α} (h : key' ≠ key) :
    Slot ((key', j) :: fields) key Is a slot ↔ Slot fields key Is a slot := by
  cases slot <;> simp [Slot, HasField, h]

theorem not_slot_cons {j : Json} {b : α} : ¬ Slot ((key, j) :: fields) key Is a (some b) := by
  simp [Slot]

theorem slot_cons_none {j : Json} :
    Slot ((key, j) :: fields) key Is a none ↔ Is j a ∧ Slot fields key Is a (some a) := by
  constructor
  · rintro ⟨i, hfield, hi⟩
    obtain ⟨rfl, hrest⟩ : j = i ∧ fields.filter (fun f => f.1 = key) = [] := by
      simpa [HasField] using hfield
    exact ⟨hi, rfl, hrest⟩
  · rintro ⟨hj, -, hrest⟩
    exact ⟨j, by simp [HasField, hrest], hj⟩

theorem ofFields_iff {time : Option RawTime} {value : Option Binary64} {p : RawPoint} :
    ofFields time value fields = .ok p ↔
      Slot fields "timestamp" IsTime p.time time ∧ Slot fields "value" IsValue p.value value := by
  induction fields generalizing time value with
  | nil =>
    rw [slot_nil, slot_nil]
    obtain ⟨t, v⟩ := p
    cases time <;> cases value <;> simp [ofFields]
  | cons f fields ih =>
    obtain ⟨key, j⟩ := f
    by_cases ht : key = "timestamp"
    · subst ht
      rw [slot_cons_ne (by decide : "timestamp" ≠ "value")]
      cases time with
      | some t => simp [ofFields, not_slot_cons]
      | none =>
        rw [slot_cons_none, ← RawTime.ofJson_iff]
        cases hj : RawTime.ofJson j with
        | error e => simp [ofFields, hj]
        | ok t =>
          simp only [ofFields, hj, ih, Slot, Except.ok.injEq, Option.isSome_none,
            Bool.false_eq_true, ↓reduceIte, true_and]
    · by_cases hv : key = "value"
      · subst hv
        rw [slot_cons_ne (by decide : "value" ≠ "timestamp")]
        cases value with
        | some v => simp [ofFields, not_slot_cons]
        | none =>
          rw [slot_cons_none, ← Json.toBinary64_iff]
          cases hj : j.toBinary64 with
          | error e => simp [ofFields, hj]
          | ok v =>
            simp [ofFields, hj, ih, Slot, and_left_comm]
      · rw [slot_cons_ne ht, slot_cons_ne hv, ← ih]
        simp [ofFields, ht, hv]

theorem ofJson_iff {j : Json} {p : RawPoint} : ofJson j = .ok p ↔ IsPoint j p := by
  constructor
  · intro h
    cases j with
    | obj fields =>
      obtain ⟨⟨t, ht, hp⟩, v, hv, hq⟩ := ofFields_iff.mp h
      exact .record ht hv hp hq
    | arr items =>
      cases items with
      | nil => cases h
      | cons t rest =>
        cases ht : RawTime.ofJson t with
        | error e => simp [ofJson, ht] at h
        | ok time =>
          cases rest with
          | nil => simp [ofJson, ht] at h
          | cons v more =>
            cases hv : v.toBinary64 with
            | error e => simp [ofJson, ht, hv] at h
            | ok value =>
              cases more with
              | nil =>
                obtain rfl : (⟨time, value⟩ : RawPoint) = p := by simpa [ofJson, ht, hv] using h
                exact .pair (RawTime.ofJson_iff.mp ht) (Json.toBinary64_iff.mp hv)
              | cons w more => simp [ofJson, ht, hv] at h
    | _ => cases h
  · intro h
    cases h with
    | record ht hv hp hq => exact ofFields_iff.mpr ⟨⟨_, ht, hp⟩, _, hv, hq⟩
    | pair hp hq =>
      simp [ofJson, RawTime.ofJson_iff.mpr hp, Json.toBinary64_iff.mpr hq]

end RawPoint

theorem IsPoint.unique {j : Json} {p p' : RawPoint} (h : IsPoint j p) (h' : IsPoint j p') :
    p = p' := by
  rw [← RawPoint.ofJson_iff] at h h'
  exact Except.ok.inj (h.symm.trans h')

/-- What a body holds: every point in it, and the points of one device, under its dotted key or
else under its packed one. A bare list is any device's. -/
inductive Holds (d : Address) : Json → List Json → List Json → Prop
  | null : Holds d .null [] []
  | bare (items : List Json) : Holds d (.arr items) items items
  | noData {fields : List (String × Json)} (missing : fields.lookup "data" = none) :
      Holds d (.obj fields) [] []
  | nullData {fields : List (String × Json)} (data : fields.lookup "data" = some .null) :
      Holds d (.obj fields) [] []
  | keyed {fields : List (String × Json)} (groups : List (String × List Json))
      (data : fields.lookup "data" = some (.obj (groups.map fun g => (g.1, .arr g.2)))) :
      Holds d (.obj fields) (groups.flatMap (·.2))
        (((groups.lookup d.text).or (groups.lookup d.packedText)).getD [])

namespace TelemetryBody

theorem mapM_points_iff {items : List Json} {ps : List RawPoint} :
    items.mapM RawPoint.ofJson = .ok ps ↔ List.Forall₂ IsPoint items ps := by
  rw [mapM_ok_iff]
  simp only [RawPoint.ofJson_iff]

theorem exists_points_iff {items : List Json} :
    (∃ ps, List.Forall₂ IsPoint items ps) ↔ ∀ j ∈ items, ∃ p, IsPoint j p := by
  induction items with
  | nil => simp
  | cons j items ih =>
    simp only [List.mem_cons, forall_eq_or_imp, ← ih, List.forall₂_cons_left_iff]
    constructor
    · rintro ⟨_, p, ps, hp, hps, rfl⟩
      exact ⟨⟨p, hp⟩, ps, hps⟩
    · rintro ⟨⟨p, hp⟩, ps, hps⟩
      exact ⟨p :: ps, p, ps, hp, hps, rfl⟩

/-- A group as it is written and as it is read. -/
def Reads (written : String × List Json) (read : String × List RawPoint) : Prop :=
  written.1 = read.1 ∧ List.Forall₂ IsPoint written.2 read.2

theorem groups_iff {fields : List (String × Json)} {read : List (String × List RawPoint)} :
    groups fields = .ok read ↔
      ∃ written, fields = written.map (fun g => (g.1, .arr g.2)) ∧
        List.Forall₂ Reads written read := by
  induction fields generalizing read with
  | nil =>
    constructor
    · intro h
      cases h
      exact ⟨[], rfl, .nil⟩
    · rintro ⟨written, hw, hr⟩
      rw [List.nil_eq, List.map_eq_nil_iff] at hw
      subst hw
      cases hr
      rfl
  | cons f fields ih =>
    obtain ⟨key, j⟩ := f
    constructor
    · intro h
      simp only [groups] at h
      cases j with
      | arr items =>
        cases hp : items.mapM RawPoint.ofJson with
        | error e => simp [points, hp] at h
        | ok ps =>
          cases hr : groups fields with
          | error e => simp [points, hp, hr, Except.map] at h
          | ok rest =>
            simp only [points, hp, hr, Except.map, Except.ok.injEq] at h
            subst h
            obtain ⟨written, rfl, hrest⟩ := ih.mp hr
            exact ⟨(key, items) :: written, rfl, .cons ⟨rfl, mapM_points_iff.mp hp⟩ hrest⟩
      | _ => simp [points] at h
    · rintro ⟨written, hw, hr⟩
      cases hr with
      | nil => cases hw
      | @cons g r written rest hg hrest =>
        obtain ⟨name, items⟩ := g
        obtain ⟨name', ps⟩ := r
        obtain ⟨rfl, hpoints⟩ : name = name' ∧ List.Forall₂ IsPoint items ps := hg
        obtain ⟨hf, rfl⟩ := List.cons.inj hw
        obtain ⟨rfl, rfl⟩ := Prod.mk.inj hf
        simp [groups, points, mapM_points_iff.mpr hpoints, ih.mpr ⟨written, rfl, hrest⟩,
          Except.map]

/-- Written and read groups answer a lookup alike. -/
theorem lookup_reads {written : List (String × List Json)} {read : List (String × List RawPoint)}
    (h : List.Forall₂ Reads written read) (key : String) :
    (written.lookup key = none ∧ read.lookup key = none) ∨
      ∃ items ps, written.lookup key = some items ∧ read.lookup key = some ps ∧
        List.Forall₂ IsPoint items ps := by
  induction h with
  | nil => exact .inl ⟨rfl, rfl⟩
  | @cons g r written read hg _ ih =>
    obtain ⟨name, items⟩ := g
    obtain ⟨name', ps⟩ := r
    obtain ⟨rfl, hpoints⟩ : name = name' ∧ List.Forall₂ IsPoint items ps := hg
    simp only [lookup_cons_eq_ite]
    by_cases hk : key = name
    · exact .inr ⟨items, ps, if_pos hk, if_pos hk, hpoints⟩
    · simp only [if_neg hk]
      exact ih

theorem find?_data (fields : List (String × Json)) :
    (fields.find? fun f => f.1 = "data") = (fields.lookup "data").map ("data", ·) := by
  induction fields with
  | nil => rfl
  | cons f fields ih =>
    obtain ⟨key, j⟩ := f
    rw [lookup_cons_eq_ite]
    by_cases hk : key = "data"
    · simp [hk]
    · rw [if_neg (Ne.symm hk), ← ih]
      simp [hk]

/-- The groups of a keyed body are read all or not at all. -/
theorem every_point_iff {written : List (String × List Json)} :
    (∃ read, List.Forall₂ Reads written read) ↔
      ∀ j ∈ written.flatMap (·.2), ∃ p, IsPoint j p := by
  induction written with
  | nil => simp
  | cons g written ih =>
    simp only [List.flatMap_cons, List.mem_append, or_imp, forall_and, ← ih,
      ← exists_points_iff, List.forall₂_cons_left_iff]
    constructor
    · rintro ⟨_, r, read, hr, hread, rfl⟩
      exact ⟨⟨r.2, hr.2⟩, read, hread⟩
    · rintro ⟨⟨ps, hps⟩, read, hread⟩
      exact ⟨(g.1, ps) :: read, (g.1, ps), read, ⟨rfl, hps⟩, hread, rfl⟩

/-- The points of a device under either of its keys, as written and as read. -/
theorem pointsFor_reads {d : Address} {written : List (String × List Json)}
    {read : List (String × List RawPoint)} (h : List.Forall₂ Reads written read) :
    List.Forall₂ IsPoint (((written.lookup d.text).or (written.lookup d.packedText)).getD [])
      (pointsFor d (.keyed read)) := by
  rw [pointsFor]
  rcases lookup_reads h d.text with ⟨hw, hr⟩ | ⟨items, ps, hw, hr, hp⟩
  · rcases lookup_reads h d.packedText with ⟨hw', hr'⟩ | ⟨items, ps, hw', hr', hp⟩
    · simp [hw, hr, hw', hr']
    · simpa [hw, hr, hw', hr'] using hp
  · simpa [hw, hr] using hp

/-- The points read for a device are those the body holds for it, and none are read unless every
point of the body is one. -/
theorem ofJson_pointsFor_iff {raw : Json} {d : Address} {ps : List RawPoint} :
    (∃ body, ofJson raw = .ok body ∧ body.pointsFor d = ps) ↔
      ∃ all own, Holds d raw all own ∧ (∀ j ∈ all, ∃ p, IsPoint j p) ∧
        List.Forall₂ IsPoint own ps := by
  constructor
  · rintro ⟨body, hbody, rfl⟩
    cases raw with
    | null =>
      cases hbody
      exact ⟨[], [], .null, by simp, .nil⟩
    | arr items =>
      cases hm : items.mapM RawPoint.ofJson with
      | error e => simp [ofJson, hm] at hbody
      | ok ps =>
        simp only [ofJson, hm, Except.ok.injEq] at hbody
        subst hbody
        have hp := mapM_points_iff.mp hm
        exact ⟨items, items, .bare items, exists_points_iff.mp ⟨ps, hp⟩, hp⟩
    | obj fields =>
      simp only [ofJson, find?_data] at hbody
      cases hd : fields.lookup "data" with
      | none =>
        simp only [hd, Option.map_none, Except.ok.injEq] at hbody
        subst hbody
        exact ⟨[], [], .noData hd, by simp, .nil⟩
      | some data =>
        simp only [hd, Option.map_some] at hbody
        cases data with
        | null =>
          cases hbody
          exact ⟨[], [], .nullData hd, by simp, .nil⟩
        | obj inner =>
          cases hg : groups inner with
          | error e => simp [ofData, hg, Except.map, Except.mapError] at hbody
          | ok read =>
            simp only [ofData, hg, Except.map, Except.mapError, Except.ok.injEq] at hbody
            subst hbody
            obtain ⟨written, rfl, hw⟩ := groups_iff.mp hg
            exact ⟨_, _, .keyed written hd, every_point_iff.mp ⟨read, hw⟩, pointsFor_reads hw⟩
        | _ => simp [ofData, Except.mapError] at hbody
    | _ => cases hbody
  · rintro ⟨all, own, hholds, hall, hown⟩
    cases hholds with
    | null =>
      cases hown
      exact ⟨.empty, rfl, rfl⟩
    | bare => exact ⟨.bare ps, by simp [ofJson, mapM_points_iff.mpr hown], rfl⟩
    | noData hd =>
      cases hown
      exact ⟨.empty, by simp [ofJson, find?_data, hd], rfl⟩
    | nullData hd =>
      cases hown
      exact ⟨.empty, by simp [ofJson, find?_data, hd, ofData, Except.mapError], rfl⟩
    | @keyed fields written hd =>
      obtain ⟨read, hread⟩ := every_point_iff.mpr hall
      have hg := groups_iff.mpr ⟨written, rfl, hread⟩
      have hbody : ofJson (.obj fields) = .ok (.keyed read) := by
        simp [ofJson, find?_data, hd, ofData, hg, Except.map, Except.mapError]
      have hboth := (mapM_points_iff.mpr (pointsFor_reads (d := d) hread)).symm.trans
        (mapM_points_iff.mpr hown)
      exact ⟨.keyed read, hbody, Except.ok.inj hboth⟩

end TelemetryBody
end DeviceConsole
