import DeviceConsole.Dictionary
import Mathlib.Data.List.Nodup
import Mathlib.Data.List.Sort

/-! Lookup in lists with distinct keys, and dictionaries as sorted lists of that kind. -/
namespace DeviceConsole

variable {α β : Type}

theorem lookup_cons_eq_ite (key : String) (value : α) (l : List (String × α)) (other : String) :
    ((key, value) :: l).lookup other = if other = key then some value else l.lookup other := by
  rw [List.lookup_cons]
  by_cases h : other = key
  · simp [h]
  · rw [if_neg h, beq_eq_false_iff_ne.mpr h]

theorem lookup_eq_some_iff_mem {l : List (String × α)} (hn : (l.map (·.1)).Nodup) {key : String}
    {value : α} : l.lookup key = some value ↔ (key, value) ∈ l := by
  rw [List.lookup_eq_some_iff]
  constructor
  · rintro ⟨l₁, l₂, rfl, -⟩
    simp
  · intro h
    obtain ⟨l₁, l₂, rfl⟩ := List.append_of_mem h
    refine ⟨l₁, l₂, rfl, fun e he => ?_⟩
    rw [List.map_append, List.map_cons, List.nodup_append] at hn
    have hne : e.1 ≠ key := hn.2.2 e.1 (List.mem_map_of_mem he) key (by simp)
    exact bne_iff_ne.mpr hne.symm

theorem lookup_perm {l l' : List (String × α)} (h : l.Perm l') (hn : (l.map (·.1)).Nodup)
    (key : String) : l.lookup key = l'.lookup key := by
  apply Option.ext
  intro value
  rw [lookup_eq_some_iff_mem hn, lookup_eq_some_iff_mem ((h.map _).nodup_iff.mp hn), h.mem_iff]

theorem lookup_of_forall_ne {l : List (String × α)} {key : String} (h : ∀ e ∈ l, e.1 ≠ key) :
    l.lookup key = none :=
  List.lookup_eq_none_iff.mpr fun e he => bne_iff_ne.mpr (h e he).symm

theorem nodup_of_ascending {l : List (String × α)} (h : l.Pairwise (·.1 < ·.1)) :
    (l.map (·.1)).Nodup := by
  rw [List.Nodup, List.pairwise_map]
  exact h.imp fun hlt => String.ne_of_lt hlt

namespace Dictionary

theorem insertInto_perm {key : String} {value : α} {l : List (String × α)}
    (h : ∀ e ∈ l, e.1 ≠ key) : (insertInto key value l).Perm ((key, value) :: l) := by
  induction l with
  | nil => exact .refl _
  | cons e es ih =>
    have hne : key ≠ e.1 := fun he => h e List.mem_cons_self he.symm
    rw [insertInto, if_neg hne]
    split
    · exact .refl _
    · exact ((ih fun e he => h e (by simp [he])).cons e).trans (.swap _ _ _)

theorem ofList_perm {l : List (String × α)} (hn : (l.map (·.1)).Nodup) :
    (ofList l).entries.Perm l := by
  suffices h : ∀ d : Dictionary α, (d.entries.map (·.1) ++ l.map (·.1)).Nodup →
      (l.foldl (fun d e => d.insert e.1 e.2) d).entries.Perm (d.entries ++ l) from
    h empty hn
  clear hn
  induction l with
  | nil => intro d _; simp
  | cons e l ih =>
    intro d hn
    have hnew : ∀ x ∈ d.entries, x.1 ≠ e.1 := fun x hx =>
      (List.nodup_append.mp hn).2.2 x.1 (List.mem_map_of_mem hx) e.1 (by simp)
    have hinsert : (d.insert e.1 e.2).entries.Perm (d.entries ++ [e]) :=
      (insertInto_perm hnew).trans (List.perm_append_singleton e d.entries).symm
    have hkeys : ((d.insert e.1 e.2).entries.map (·.1) ++ l.map (·.1)).Nodup := by
      refine (((hinsert.map (·.1)).append_right _).nodup_iff).mpr ?_
      simpa using hn
    simpa using (ih _ hkeys).trans (hinsert.append_right l)

theorem mem_of_mem_ofList {l : List (String × α)} {e : String × α}
    (h : e ∈ (ofList l).entries) : e ∈ l := by
  suffices hfold : ∀ d : Dictionary α,
      e ∈ (l.foldl (fun d e => d.insert e.1 e.2) d).entries → e ∈ d.entries ∨ e ∈ l from
    (hfold empty h).resolve_left List.not_mem_nil
  clear h
  induction l with
  | nil => exact fun d hd => .inl hd
  | cons x l ih =>
    intro d hd
    rcases ih _ hd with hd | hl
    · rcases mem_insertInto hd with rfl | hd
      · exact .inr List.mem_cons_self
      · exact .inl hd
    · exact .inr (List.mem_cons_of_mem x hl)

theorem nodup_keys (d : Dictionary α) : (d.entries.map (·.1)).Nodup :=
  nodup_of_ascending d.ascending

theorem get?_of_mem {d : Dictionary α} {e : String × α} (he : e ∈ d.entries) :
    d.get? e.1 = some e.2 :=
  (lookup_eq_some_iff_mem d.nodup_keys).mpr he

@[ext]
theorem ext_entries {d e : Dictionary α} (h : d.entries = e.entries) : d = e := by
  cases d
  cases e
  cases h
  rfl

theorem eq_of_perm {d e : Dictionary α} (h : d.entries.Perm e.entries) : d = e :=
  ext_entries (h.eq_of_pairwise
    (fun _ _ _ _ hab hba => absurd hba (String.lt_asymm hab)) d.ascending e.ascending)

theorem ofList_entries (d : Dictionary α) : ofList d.entries = d :=
  eq_of_perm (ofList_perm d.nodup_keys)

theorem get?_ofList {l : List (String × α)} (hn : (l.map (·.1)).Nodup) (key : String) :
    (ofList l).get? key = l.lookup key :=
  lookup_perm (ofList_perm hn) (nodup_keys _) key

theorem lookup_insertInto {key : String} {value : α} {l : List (String × α)} (other : String) :
    (insertInto key value l).lookup other = if other = key then some value else l.lookup other := by
  induction l with
  | nil => rw [insertInto, lookup_cons_eq_ite]
  | cons e es ih =>
    obtain ⟨k, v⟩ := e
    rw [insertInto]
    split
    · rw [lookup_cons_eq_ite]
    · rw [lookup_cons_eq_ite]
      split
      · rename_i heq
        obtain rfl : key = k := heq
        rw [lookup_cons_eq_ite]
        split <;> rfl
      · rename_i hne
        rw [lookup_cons_eq_ite, ih]
        by_cases hk : other = k
        · rw [if_pos hk, if_pos hk, if_neg fun ho : other = key => hne (ho ▸ hk)]
        · rw [if_neg hk, if_neg hk]

theorem get?_insert (d : Dictionary α) (key : String) (value : α) (other : String) :
    (d.insert key value).get? other = if other = key then some value else d.get? other :=
  lookup_insertInto other

/-- A dictionary is known by what is under each key. -/
theorem ext_get? {d e : Dictionary α} (h : ∀ key, d.get? key = e.get? key) : d = e := by
  have hmem (x : String × α) : x ∈ d.entries ↔ x ∈ e.entries := by
    rw [← lookup_eq_some_iff_mem d.nodup_keys, ← lookup_eq_some_iff_mem e.nodup_keys]
    exact iff_of_eq (congrArg (· = some x.2) (h x.1))
  have hnodup (d : Dictionary α) : d.entries.Nodup := d.nodup_keys.of_map _
  exact eq_of_perm ((List.perm_ext_iff_of_nodup (hnodup d) (hnodup e)).mpr hmem)

end Dictionary
end DeviceConsole
