import DeviceConsole.Proofs.Client.Rows

/-! Values that are the same but for their passwords. A profile is read without its password, so
that such values list the same profiles or are neither of them a list of profiles. -/
namespace DeviceConsole

namespace Json

/-! ### Values but for their passwords -/

mutual

/-- The same value, in whatever order the fields of its objects stand, but for what stands under
`password`. -/
inductive Alike : Json → Json → Prop
  | same (j : Json) : Alike j j
  | arr {as bs : List Json} (h : AlikeItems as bs) : Alike (.arr as) (.arr bs)
  | obj {fs ms gs : List (String × Json)} (h : AlikeFields fs ms) (order : ms.Perm gs) :
      Alike (.obj fs) (.obj gs)

inductive AlikeItems : List Json → List Json → Prop
  | nil : AlikeItems [] []
  | cons {a b : Json} {as bs : List Json} (head : Alike a b) (tail : AlikeItems as bs) :
      AlikeItems (a :: as) (b :: bs)

inductive AlikeFields : List (String × Json) → List (String × Json) → Prop
  | nil : AlikeFields [] []
  | secret {a b : Json} {fs gs : List (String × Json)} (tail : AlikeFields fs gs) :
      AlikeFields (("password", a) :: fs) (("password", b) :: gs)
  | shown {key : String} {a b : Json} {fs gs : List (String × Json)} (head : Alike a b)
      (tail : AlikeFields fs gs) : AlikeFields ((key, a) :: fs) ((key, b) :: gs)

end

variable {j k : Json} {as bs : List Json} {fs ms gs : List (String × Json)}

theorem AlikeItems.forall₂ (h : AlikeItems as bs) : List.Forall₂ Alike as bs := by
  induction as generalizing bs with
  | nil =>
    cases h
    exact .nil
  | cons a as ih =>
    cases h with
    | cons head tail => exact .cons head (ih tail)

theorem AlikeFields.forall₂ (h : AlikeFields fs ms) :
    List.Forall₂ (fun f m => f.1 = m.1 ∧ (f.1 = "password" ∨ Alike f.2 m.2)) fs ms := by
  induction fs generalizing ms with
  | nil =>
    cases h
    exact .nil
  | cons f fs ih =>
    cases h with
    | secret tail => exact .cons ⟨rfl, .inl rfl⟩ (ih tail)
    | shown head tail => exact .cons ⟨rfl, .inr head⟩ (ih tail)

/-- A record none of whose fields is a password has the same values. -/
theorem Alike.record? {names : List String} (h : Alike j k) (hnames : "password" ∉ names) :
    Option.Rel (List.Forall₂ (Option.Rel Alike)) (Json.record? names j) (Json.record? names k) := by
  have harr {as bs : List Json} (h : List.Forall₂ Alike as bs) :
      Option.Rel (List.Forall₂ (Option.Rel Alike)) (Json.record? names (.arr as))
        (Json.record? names (.arr bs)) :=
    record?_arr_rel h.length_eq fun n _ => rel_getElem? h n
  have hobj {fs gs : List (String × Json)}
      (h : FieldsBy (fun key j k => key = "password" ∨ Alike j k) fs gs) :
      Option.Rel (List.Forall₂ (Option.Rel Alike)) (Json.record? names (.obj fs))
        (Json.record? names (.obj gs)) :=
    h.record? fun key hkey _ _ hvalue =>
      hvalue.resolve_left fun hsecret => hnames (hsecret ▸ hkey)
  cases h with
  | arr h => exact harr h.forall₂
  | obj h order => exact hobj ⟨_, h.forall₂, order⟩
  | same =>
    cases j with
    | arr items => exact harr (List.forall₂_same.mpr fun j _ => .same j)
    | obj fields =>
      exact hobj ⟨fields, List.forall₂_same.mpr fun f _ => ⟨rfl, .inr (.same f.2)⟩, .refl _⟩
    | _ => exact .none

theorem Alike.toInt64?_eq (h : Alike j k) : toInt64? j = toInt64? k := by
  cases h <;> rfl

theorem Alike.toText?_eq (h : Alike j k) : toText? j = toText? k := by
  cases h <;> rfl

theorem Alike.toUInt16?_eq (h : Alike j k) : toUInt16? j = toUInt16? k := by
  cases h <;> rfl

end Json

/-! ### Profiles -/

/-- A listed profile, as an object or as the array of its three fields. -/
inductive IsCredential : Json → CredentialProfile → Prop
  | record {fields : List (String × Json)} {p : CredentialProfile}
      (atId : Json.HasAtMost fields "id" (some (.int p.id.toInt)))
      (atHostname : Json.HasAtMost fields "hostname" (some (.str p.hostname)))
      (atPort : Json.HasAtMost fields "port" (some (.int p.port.toNat))) :
      IsCredential (.obj fields) p
  | triple (p : CredentialProfile) :
      IsCredential (.arr [.int p.id.toInt, .str p.hostname, .int p.port.toNat]) p

namespace CredentialProfile

theorem ofJson?_alike {j k : Json} (h : Json.Alike j k) : ofJson? j = ofJson? k := by
  refine rel_eq_iff.mp (rel_bind (h.record? (by decide)) fun as bs hvalues => ?_)
  obtain _ | ⟨hid, _ | ⟨hhostname, _ | ⟨hport, _ | _⟩⟩⟩ := hvalues
  · exact .none
  · exact .none
  · exact .none
  · dsimp only
    rw [Json.required?_congr hid fun _ _ => Json.Alike.toInt64?_eq,
      Json.required?_congr hhostname fun _ _ => Json.Alike.toText?_eq,
      Json.required?_congr hport fun _ _ => Json.Alike.toUInt16?_eq]
    exact rel_eq_iff.mpr rfl
  · exact .none

/-- The three fields of a profile. -/
theorem ofJson?_eq_some {j : Json} {p : CredentialProfile} :
    ofJson? j = some p ↔ j.record? fields =
      some [some (.int p.id.toInt), some (.str p.hostname), some (.int p.port.toNat)] := by
  constructor
  · intro h
    obtain ⟨values, hvalues, h⟩ := Option.bind_eq_some_iff.mp h
    rw [hvalues]
    split at h
    · simp only [Option.bind_eq_bind, Option.bind_eq_some_iff, Option.some.injEq,
        Json.required?_eq_some_iff fun _ _ => Json.toInt64?_eq_some_iff,
        Json.required?_eq_some_iff fun _ _ => Json.toText?_eq_some_iff,
        Json.required?_eq_some_iff fun _ _ => Json.toUInt16?_eq_some_iff] at h
      obtain ⟨_, ⟨_, rfl, rfl⟩, _, ⟨_, rfl, rfl⟩, _, ⟨_, rfl, rfl⟩, rfl⟩ := h
      rfl
    · cases h
  · intro h
    have hid := Json.toInt64?_eq_some_iff.mpr (rfl : Json.int p.id.toInt = _)
    have hport := Json.toUInt16?_eq_some_iff.mpr (rfl : Json.int p.port.toNat = _)
    simp [ofJson?, h, Json.required?, Json.toText?, hid, hport]

theorem ofJson?_eq_some_iff {j : Json} {p : CredentialProfile} :
    ofJson? j = some p ↔ IsCredential j p := by
  rw [ofJson?_eq_some]
  constructor
  · intro h
    cases j with
    | obj fs =>
      obtain _ | ⟨atId, _ | ⟨atHostname, _ | ⟨atPort, _⟩⟩⟩ := Json.record?_obj_iff.mp h
      exact .record atId atHostname atPort
    | arr items =>
      rw [Json.record?] at h
      split_ifs at h with hshort
      have hlen : items.length ≤ 3 := hshort
      rcases items with _ | ⟨a, _ | ⟨b, _ | ⟨c, _ | _⟩⟩⟩
      · cases h
      · cases h
      · cases h
      · cases h
        exact .triple p
      · simp only [List.length_cons] at hlen
        omega
    | _ => cases h
  · intro h
    cases h with
    | record atId atHostname atPort =>
      exact Json.record?_obj_iff.mpr (.cons atId (.cons atHostname (.cons atPort .nil)))
    | triple => rfl

end CredentialProfile

theorem listed?_alike {j k : Json} (h : Json.Alike j k) :
    Client.listed? "profiles" CredentialProfile.ofJson? j =
      Client.listed? "profiles" CredentialProfile.ofJson? k := by
  refine Client.listed?_congr ?_ (Client.rows?_congr (h.record? (by decide)) fun a b hab => ?_)
  · cases h <;> simp
  · cases hab with
    | same => rfl
    | obj => rfl
    | arr h =>
      exact congrArg (Option.map some)
        (Client.toList?_congr h.forall₂ fun _ _ => CredentialProfile.ofJson?_alike)

end DeviceConsole
