import DeviceConsole.Json.Decode
import DeviceConsole.Proofs.Dictionary
import Mathlib.Data.List.Nodup

/-! Decoding what was encoded: numbers, optional values and the fields of a record. -/
namespace DeviceConsole.Json

theorem toNat?_ofNat {n bound : Nat} (h : n ≤ bound) : toNat? bound (ofNat n) = some n := by
  have hi : (n : Int) ≤ bound := Int.ofNat_le.mpr h
  simp [toNat?, ofNat, hi]

theorem toUInt16?_ofNat (n : UInt16) : toUInt16? (ofNat n.toNat) = some n := by
  rw [toUInt16?, toNat?_ofNat (Nat.le_of_lt_succ n.toNat_lt)]
  exact congrArg some UInt16.ofNat_toNat

theorem toUInt32?_ofNat (n : UInt32) : toUInt32? (ofNat n.toNat) = some n := by
  rw [toUInt32?, toNat?_ofNat (Nat.le_of_lt_succ n.toNat_lt)]
  exact congrArg some UInt32.ofNat_toNat

theorem toUInt64?_ofNat (n : UInt64) : toUInt64? (ofNat n.toNat) = some n := by
  have hbound : n.toNat ≤ Decimal.maxUInt64 := Nat.le_of_lt_succ n.toNat_lt
  rw [toUInt64?, toNat?_ofNat hbound]
  exact congrArg some UInt64.ofNat_toNat

theorem mapM_decode {α β : Type} {f : β → Option α} {g : α → β} (h : ∀ a, f (g a) = some a)
    (as : List α) : (as.map g).mapM f = some as := by
  induction as with
  | nil => rfl
  | cons a as ih => simp [h, ih]

theorem toOption?_of_ne_null {α : Type} {decode : Json → Option α} {j : Json} (h : j ≠ null) :
    toOption? decode j = (decode j).map some := by
  cases j <;> first | rfl | exact absurd rfl h

/-! ### Records -/

theorem single?_eq_lookup {fields : List (String × Json)} (hn : (fields.map (·.1)).Nodup)
    (name : String) : single? fields name = some (fields.lookup name) := by
  induction fields with
  | nil => rfl
  | cons f fields ih =>
    obtain ⟨k, v⟩ := f
    obtain ⟨hk, hrest⟩ := List.nodup_cons.mp hn
    rw [lookup_cons_eq_ite]
    unfold single? at ih ⊢
    by_cases h : k = name
    · subst h
      have hnone : fields.filter (fun f => f.1 = k) = [] := by
        refine List.filter_eq_nil_iff.mpr fun f hf he => hk ?_
        exact List.mem_map.mpr ⟨f, hf, of_decide_eq_true he⟩
      rw [List.filter_cons_of_pos (by simp), hnone, if_pos rfl]
    · rw [List.filter_cons_of_neg (by simpa using h), if_neg fun he : name = k => h he.symm]
      exact ih hrest

theorem record?_obj {names : List String} {values : List (Option Json)}
    {fields : List (String × Json)} (hn : (fields.map (·.1)).Nodup)
    (h : (names.map fun name => fields.lookup name) = values) :
    record? names (obj fields) = some values := by
  subst h
  have hsingle : single? fields = fun name => some (fields.lookup name) :=
    funext (single?_eq_lookup hn)
  rw [record?, hsingle]
  exact List.mapM_pure

/-- The fields of a record that have a value. -/
def present (names : List String) (values : List (Option Json)) : List (String × Json) :=
  (names.zip values).filterMap fun e => e.2.map (e.1, ·)

theorem present_eq_filterMap_id (names : List String) (values : List (Option Json)) :
    present names values =
      ((names.zip values).map fun e => e.2.map (e.1, ·)).filterMap id := by
  rw [List.filterMap_map]
  rfl

theorem present_keys_sublist (names : List String) (values : List (Option Json)) :
    ((present names values).map (·.1)).Sublist names := by
  induction names generalizing values with
  | nil => exact List.Sublist.refl _
  | cons name names ih =>
    cases values with
    | nil => exact List.nil_sublist _
    | cons value values =>
      cases value with
      | none => exact (ih values).cons name
      | some j => exact (ih values).cons_cons name

theorem lookup_present_cons {name : String} {names : List String} (hn : name ∉ names)
    (value : Option Json) (values : List (Option Json)) (other : String) :
    (present (name :: names) (value :: values)).lookup other =
      if other = name then value else (present names values).lookup other := by
  have hnone : (present names values).lookup name = none :=
    lookup_of_forall_ne fun e he heq =>
      hn (heq ▸ (present_keys_sublist names values).subset (List.mem_map_of_mem he))
  cases value with
  | none =>
    change (present names values).lookup other = _
    split
    · rename_i heq
      rw [heq, hnone]
    · rfl
  | some j => exact lookup_cons_eq_ite name j _ other

theorem map_lookup_present {names : List String} {values : List (Option Json)}
    (hn : names.Nodup) (hlen : names.length = values.length) :
    (names.map fun name => (present names values).lookup name) = values := by
  induction names generalizing values with
  | nil => exact (List.length_eq_zero_iff.mp hlen.symm).symm
  | cons name names ih =>
    obtain ⟨value, values, rfl⟩ := List.exists_cons_of_length_eq_add_one hlen.symm
    obtain ⟨hname, hnames⟩ := List.nodup_cons.mp hn
    simp only [List.map_cons, lookup_present_cons hname, if_true]
    refine congrArg (value :: ·) (Eq.trans (List.map_congr_left fun other ho => ?_)
      (ih hnames (Nat.succ.inj hlen)))
    exact if_neg fun he : other = name => hname (he ▸ ho)

theorem mem_present {names : List String} {values : List (Option Json)} {e : String × Json}
    (h : e ∈ present names values) : some e.2 ∈ values := by
  obtain ⟨⟨name, value⟩, hz, he⟩ := List.mem_filterMap.mp h
  obtain ⟨j, rfl, rfl⟩ := Option.map_eq_some_iff.mp he
  exact (List.of_mem_zip hz).2

theorem exists_index_of_mem_present {names : List String} {values : List (Option Json)}
    {e : String × Json} (h : e ∈ present names values) :
    ∃ i : Fin names.length, names.get i = e.1 ∧ values[i.val]?.join = some e.2 := by
  obtain ⟨⟨name, value⟩, hz, he⟩ := List.mem_filterMap.mp h
  obtain ⟨j, rfl, rfl⟩ := Option.map_eq_some_iff.mp he
  obtain ⟨i, hi⟩ := List.mem_iff_getElem?.mp hz
  obtain ⟨hname, hvalue⟩ := List.getElem?_zip_eq_some.mp hi
  obtain ⟨hlt, rfl⟩ := List.getElem?_eq_some_iff.mp hname
  exact ⟨⟨i, hlt⟩, rfl, by rw [hvalue]; rfl⟩

end DeviceConsole.Json
