import DeviceConsole.Proofs.Client.Outcome
import DeviceConsole.Proofs.Json.Field
import DeviceConsole.Proofs.Json.Record
import DeviceConsole.Proofs.Json.Wanted
import DeviceConsole.Proofs.Text.Blank
import Mathlib.Data.List.TakeWhile

/-! What a list of rows is read as, told by the value of the whole body. The reader looks at the
rows and at their fields only, and what it makes of them depends on nothing else. -/
namespace DeviceConsole

namespace Json

/-! ### Values that agree -/

variable {want : Want} {i : Nat} {as bs : List Json} {fs gs : List (String × Json)} {j k : Json}

theorem AgreeItems.refl (want : Want) (i : Nat) (js : List Json) : AgreeItems want i js js := by
  induction js generalizing i with
  | nil => exact .nil
  | cons j js ih => exact .cons (.same _ _) (ih (i + 1))

theorem AgreeFields.refl (want : Want) (fs : List (String × Json)) : AgreeFields want fs fs := by
  induction fs with
  | nil => exact .nil
  | cons f fs ih => exact .cons (.same _ _) ih

theorem AgreeItems.forall₂ {each : Want} (h : AgreeItems (.items each) i as bs) :
    List.Forall₂ (Agree each) as bs := by
  induction as generalizing i bs with
  | nil =>
    cases h
    exact .nil
  | cons a as ih =>
    cases h with
    | cons head tail => exact .cons head (ih tail)

theorem AgreeFields.fieldsBy (h : AgreeFields want fs gs) :
    FieldsBy (fun key => Agree (want.ofField key)) fs gs := by
  refine ⟨gs, ?_, .refl gs⟩
  induction fs generalizing gs with
  | nil =>
    cases h
    exact .nil
  | cons f fs ih =>
    cases h with
    | cons head tail => exact .cons ⟨rfl, head⟩ (ih tail)

theorem AgreeItems.length_eq (h : AgreeItems want i as bs) : as.length = bs.length := by
  induction as generalizing i bs with
  | nil =>
    cases h
    rfl
  | cons a as ih =>
    cases h with
    | cons head tail => exact congrArg Nat.succ (ih tail)

theorem AgreeItems.getElem? (h : AgreeItems want i as bs) (n : Nat) :
    Option.Rel (Agree (want.ofItem (i + n))) as[n]? bs[n]? := by
  induction as generalizing i bs n with
  | nil =>
    cases h
    exact .none
  | cons a as ih =>
    cases h with
    | cons head tail =>
      cases n with
      | zero => exact .some head
      | succ n => exact Nat.succ_add_eq_add_succ i n ▸ ih tail n

/-- Values that agree on the fields of a record are records with related values. -/
theorem Agree.record? {W : Json → Json → Prop} {wants : List (String × Want)}
    (h : Agree (.record wants) j k) (hW : ∀ w ∈ wants, ∀ a b, Agree w.2 a b → W a b) :
    Option.Rel (List.Forall₂ (Option.Rel W)) (Json.record? (wants.map (·.1)) j)
      (Json.record? (wants.map (·.1)) k) := by
  have harr {as bs : List Json} (h : AgreeItems (.record wants) 0 as bs) :
      Option.Rel (List.Forall₂ (Option.Rel W)) (Json.record? (wants.map (·.1)) (.arr as))
        (Json.record? (wants.map (·.1)) (.arr bs)) := by
    refine record?_arr_rel h.length_eq fun n hn => ?_
    rw [List.length_map] at hn
    have hitem : (Want.record wants).ofItem (0 + n) = wants[n].2 := by simp [Want.ofItem, hn]
    exact rel_imp (hW _ (List.getElem_mem hn)) (hitem ▸ h.getElem? n)
  have hobj {fs gs : List (String × Json)} (h : AgreeFields (.record wants) fs gs) :
      Option.Rel (List.Forall₂ (Option.Rel W)) (Json.record? (wants.map (·.1)) (.obj fs))
        (Json.record? (wants.map (·.1)) (.obj gs)) := by
    refine h.fieldsBy.record? fun key hkey a b hab => ?_
    obtain ⟨w, hw⟩ : ∃ w, wants.find? (fun f => f.1 = key) = some w := by
      obtain ⟨w, hw, rfl⟩ := List.mem_map.mp hkey
      exact Option.isSome_iff_exists.mp (List.find?_isSome.mpr ⟨w, hw, decide_eq_true rfl⟩)
    have hfield : (Want.record wants).ofField key = w.2 := by simp [Want.ofField, hw]
    exact hW w (List.mem_of_find?_eq_some hw) a b (hfield ▸ hab)
  cases h with
  | arr h => exact harr h
  | obj h => exact hobj h
  | same =>
    cases j with
    | arr items => exact harr (.refl _ _ _)
    | obj fields => exact hobj (.refl _ _)
    | _ => exact .none

end Json

/-! ### Bodies -/

namespace Json

/-- A value begins with a character that is not white space. -/
theorem readValue_not_blank {fuel depth : Nat} {cs rest : List Char} {v : Json}
    (h : readValue fuel depth want cs = .ok (v, rest)) : ∃ c ∈ cs, Text.isBlank c = false := by
  match fuel with
  | 0 => simp [readValue, failAhead] at h
  | fuel + 1 =>
    rw [readValue] at h
    cases hs : skipSpace cs with
    | nil => simp [hs, failAhead] at h
    | cons c ds =>
      have hc : c ∈ cs.dropWhile isSpace := by
        rw [← skipSpace, hs]
        exact List.mem_cons_self
      refine ⟨c, (List.dropWhile_sublist isSpace).subset hc, Bool.eq_false_iff.mpr fun hblank => ?_⟩
      have hne (d : Char) (hd : Text.isBlank d = false) : c ≠ d := by
        rintro rfl
        exact absurd hblank (Bool.eq_false_iff.mp hd)
      have hdigit : ¬ c.isDigit = true := fun hd =>
        absurd hblank (Bool.eq_false_iff.mp (Text.isBlank_of_isDigit hd))
      simp only [hs] at h
      rw [if_neg (hne 'n' (by decide)), if_neg (hne 't' (by decide)), if_neg (hne 'f' (by decide)),
        if_neg (hne '-' (by decide)), if_neg hdigit, if_neg (hne '"' (by decide)),
        if_neg (hne '[' (by decide)), if_neg (hne '\x7b' (by decide))] at h
      cases h

theorem trim_of_read {text : String} {v : Json} (h : read want text = .ok v) :
    (Text.trim text).isEmpty = false := by
  unfold read readChars at h
  cases hv : readValue (text.toList.length + 1) depthLimit want text.toList with
  | error f => simp [hv, bind, Except.bind, Except.mapError] at h
  | ok p =>
    obtain ⟨c, hc, hblank⟩ := readValue_not_blank hv
    refine Bool.eq_false_iff.mpr fun hempty => ?_
    have hnil : Text.trimChars text.toList = [] := by
      simpa [Text.trim] using hempty
    rw [Text.trimChars_eq_nil_iff.mp hnil c hc] at hblank
    exact Bool.noConfusion hblank

end Json

namespace Client

open Json (Agree Want)

/-! ### Rows -/

variable {α : Type} {name : String} {fields : List String} {decode : Json → Option α} {j k : Json}

/-- What the reader of rows wants of a row. -/
def rowWant (fields : List String) : Want := .record (fields.map fun f => (f, .all))

/-- The rows under a field that may be left out or `null`. -/
def rowsAt? (decode : Json → Option α) : Option Json → Option (Option (List α)) :=
  Json.withDefault? (Json.toOption? (Json.toList? decode)) none

/-- The rows of a body that is not `null`. -/
def rows? (name : String) (decode : Json → Option α) (j : Json) : Option (Option (List α)) := do
  match ← j.record? [name] with
  | [rows] => rowsAt? decode rows
  | _ => none

/-- The rows of a body, of which there are none where it is `null`. -/
def listed? (name : String) (decode : Json → Option α) (j : Json) : Option (List α) := do
  let list ← Json.toOption? (rows? name decode) j
  some (list.join.getD [])

theorem readRows_eq (name : String) (fields : List String) (decode : Json → Option α) :
    readRows name fields decode =
      readBody (.record [(name, .items (rowWant fields))]) (listed? name decode) := rfl

theorem listed?_of_ne_null (h : j ≠ .null) :
    listed? name decode j = (rows? name decode j).map fun rows => rows.getD [] := by
  rw [listed?, Json.toOption?_of_ne_null h]
  cases rows? name decode j <;> rfl

theorem rows?_congr {R : Json → Json → Prop}
    (h : Option.Rel (List.Forall₂ (Option.Rel R)) (j.record? [name]) (k.record? [name]))
    (hR : ∀ a b, R a b → Json.toOption? (Json.toList? decode) a =
      Json.toOption? (Json.toList? decode) b) :
    rows? name decode j = rows? name decode k := by
  refine rel_eq_iff.mp (rel_bind h fun as bs hvalues => ?_)
  cases hvalues with
  | nil => exact .none
  | cons head tail =>
    cases tail with
    | cons _ _ => exact .none
    | nil =>
      cases head with
      | none => exact .some rfl
      | some hab =>
        exact rel_eq_iff.mpr (hR _ _ hab)

/-- Bodies with the same rows under the field list the same rows. -/
theorem listed?_congr (hnull : j = .null ↔ k = .null)
    (h : rows? name decode j = rows? name decode k) :
    listed? name decode j = listed? name decode k := by
  by_cases hj : j = .null
  · rw [hj, hnull.mp hj]
  · rw [listed?_of_ne_null hj, listed?_of_ne_null fun hk => hj (hnull.mpr hk), h]

theorem toList?_congr {R : Json → Json → Prop} {as bs : List Json} (h : List.Forall₂ R as bs)
    (hdecode : ∀ a b, R a b → decode a = decode b) :
    Json.toList? decode (.arr as) = Json.toList? decode (.arr bs) := by
  have hrel := mapM_rel h fun a _ b hab => rel_eq_iff.mpr (hdecode a b hab)
  rw [List.forall₂_eq_eq_eq] at hrel
  exact rel_eq_iff.mp hrel

theorem listed?_agree (hdecode : ∀ a b, Agree (rowWant fields) a b → decode a = decode b)
    (h : Agree (.record [(name, .items (rowWant fields))]) j k) :
    listed? name decode j = listed? name decode k := by
  refine listed?_congr ?_ (rows?_congr (R := Agree (.items (rowWant fields)))
    (h.record? fun w hw a b hab => ?_) fun a b hab => ?_)
  · cases h <;> simp
  · rwa [List.mem_singleton.mp hw] at hab
  · cases hab with
    | same => rfl
    | obj => rfl
    | arr hitems => exact congrArg (Option.map some) (toList?_congr hitems.forall₂ hdecode)

/-! ### What is listed -/

/-- The rows under a field, of which there are none where it is left out or `null`. -/
inductive RowsAt (Is : Json → α → Prop) : Option Json → List α → Prop
  | absent : RowsAt Is none []
  | null : RowsAt Is (some .null) []
  | rows {rows : List Json} {as : List α} (h : List.Forall₂ Is rows as) :
      RowsAt Is (some (.arr rows)) as

/-- The rows a body lists under a field. -/
inductive ListsRows (name : String) (Is : Json → α → Prop) : Json → List α → Prop
  | null : ListsRows name Is .null []
  | record {fs : List (String × Json)} {rows : Option Json} {as : List α}
      (atName : Json.HasAtMost fs name rows) (h : RowsAt Is rows as) :
      ListsRows name Is (.obj fs) as
  | single {items : List Json} {as : List α} (short : items.length ≤ 1)
      (h : RowsAt Is items[0]? as) : ListsRows name Is (.arr items) as

variable {Is : Json → α → Prop} {as : List α}

theorem rowsAt?_eq_some_iff (hdecode : ∀ j a, decode j = some a ↔ Is j a) {rows : Option Json} :
    (rowsAt? decode rows).map (fun rows => rows.getD []) = some as ↔ RowsAt Is rows as := by
  constructor
  · intro h
    match rows with
    | none =>
      cases h
      exact .absent
    | some .null =>
      cases h
      exact .null
    | some (.arr items) =>
      have hitems : items.mapM decode = some as := by
        simpa [rowsAt?, Json.withDefault?, Json.toOption?, Json.toList?] using h
      exact .rows ((mapM_some_iff.mp hitems).imp fun j a => (hdecode j a).mp)
    | some (.bool _) | some (.int _) | some (.float _) | some (.str _) | some (.obj _) => cases h
  · intro h
    cases h with
    | absent => rfl
    | null => rfl
    | rows h =>
      have hitems := mapM_some_iff.mpr (h.imp fun j a => (hdecode j a).mpr)
      simp [rowsAt?, Json.withDefault?, Json.toOption?, Json.toList?, hitems]

/-- What a body is read as is what it lists. -/
theorem listed?_eq_some_iff (hdecode : ∀ j a, decode j = some a ↔ Is j a) :
    listed? name decode j = some as ↔ ListsRows name Is j as := by
  constructor
  · intro h
    cases j with
    | null =>
      cases h
      exact .null
    | obj fs =>
      rw [listed?_of_ne_null (by simp), rows?, Json.record?] at h
      cases hrows : Json.single? fs name with
      | none => simp [hrows] at h
      | some rows =>
        refine .record (Json.single?_eq_some_iff.mp hrows) ((rowsAt?_eq_some_iff hdecode).mp ?_)
        simpa [hrows] using h
    | arr items =>
      rw [listed?_of_ne_null (by simp), rows?, Json.record?] at h
      split_ifs at h with hshort
      · exact .single hshort ((rowsAt?_eq_some_iff hdecode).mp h)
      · cases h
    | _ => cases h
  · intro h
    cases h with
    | null => rfl
    | record atName h =>
      have hrecord := Json.record?_obj_iff.mpr (.cons atName .nil)
      rw [listed?_of_ne_null (by simp), rows?, hrecord]
      exact (rowsAt?_eq_some_iff hdecode).mpr h
    | @single items _ short h =>
      have hshort : items.length ≤ [name].length := short
      rw [listed?_of_ne_null (by simp), rows?, Json.record?, if_pos hshort]
      exact (rowsAt?_eq_some_iff hdecode).mpr h

/-- Rows that agree have the same fields. -/
theorem record?_eq_of_agree (h : Agree (rowWant fields) j k) :
    j.record? fields = k.record? fields := by
  have hrel := h.record? (W := Eq) fun w hw a b hab => by
    obtain ⟨f, -, rfl⟩ := List.mem_map.mp hw
    exact hab.eq
  have hnames : (fields.map fun f => (f, Want.all)).map (·.1) = fields := by
    rw [List.map_map]
    exact List.map_id fields
  rw [hnames] at hrel
  refine rel_eq_iff.mp (rel_imp (fun _ _ hvalues => ?_) hrel)
  exact List.forall₂_eq_eq_eq ▸ hvalues.imp fun _ _ => rel_eq_iff.mp

/-- What comes of a body that is JSON, from what it is decoded to. -/
def decoded (body : String) : Option α → Except RequestError α
  | some a => .ok a
  | none => undecodable "data of another shape" body

/-- What is read of a list of rows, told by the value of the whole body. -/
theorem readRows_of_read {body : String} {v : Json} (hread : Json.read .all body = .ok v)
    (hdecode : ∀ j k, Json.record? fields j = Json.record? fields k → decode j = decode k) :
    readRows name fields decode body = decoded body (listed? name decode v) := by
  obtain ⟨w, hw, hagree⟩ := Json.read_agree (.record [(name, .items (rowWant fields))]) hread
  have hlisted : listed? name decode v = listed? name decode w :=
    listed?_agree (fun a b h => hdecode a b (record?_eq_of_agree h)) hagree
  rw [readRows_eq, readBody, Json.trim_of_read hread, hlisted]
  simp only [Bool.false_eq_true, ↓reduceIte, hw]
  cases listed? name decode w <;> rfl

/-- The rows an outcome of a listing stands for, as the console tells them. -/
def rowsOf (q : Request) (name : String) (fields : List String) (decode : Json → Option α)
    (o : Outcome) : Except ConsoleError (List α) :=
  (interpret (readRows name fields decode) q o).mapError RequestError.toConsoleError

/-- What the console says of a body that is not decoded: its beginning, as it is. -/
def unreadable (body : String) : ConsoleError :=
  .internal ("Deserialization error: data of another shape (body preview: " ++
    Text.quote (preview body) ++ ")")

theorem rowsOf_answer {q : Request} {code : Nat} {body : String} {v : Json}
    (hcode : 200 ≤ code ∧ code < 300) (hread : Json.read .all body = .ok v)
    (hdecode : ∀ j k, Json.record? fields j = Json.record? fields k → decode j = decode k) :
    rowsOf q name fields decode (.answer code body) = match listed? name decode v with
      | some as => .ok as
      | none => .error (unreadable body) := by
  rw [rowsOf, interpret_answer hcode, readRows_of_read hread hdecode]
  cases listed? name decode v <;> rfl

theorem listed?_obj {fs : List (String × Json)} {rows : List Json}
    (h : Json.HasAtMost fs name (some (.arr rows))) :
    listed? name decode (.obj fs) = rows.mapM decode := by
  have hrecord := Json.record?_obj_iff.mpr (.cons h .nil)
  rw [listed?_of_ne_null (by simp), rows?, hrecord]
  change Option.map _ ((rows.mapM decode).map some) = _
  cases rows.mapM decode <;> rfl

end Client
end DeviceConsole
