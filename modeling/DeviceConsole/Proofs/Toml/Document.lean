import DeviceConsole.Proofs.Toml.Lines

/-! Statements as they are stored, and the tree they build: every header opens a table at the end
of its parent, and the assignments under it fill that table alone. -/
namespace DeviceConsole.Toml

theorem alter?_new {key : String} {change : Option Node → Option Node} {entries : Entries}
    (h : ∀ e ∈ entries, e.1 ≠ key) :
    alter? key change entries = (change none).map fun n => entries ++ [(key, n)] := by
  induction entries with
  | nil => rfl
  | cons e entries ih =>
    obtain ⟨k, n⟩ := e
    have hk : k ≠ key := h (k, n) (by simp)
    rw [alter?, if_neg hk, ih fun e he => h e (by simp [he])]
    cases change none <;> rfl

theorem alter?_last {key : String} {change : Option Node → Option Node} {entries : Entries}
    (h : ∀ e ∈ entries, e.1 ≠ key) (n : Node) :
    alter? key change (entries ++ [(key, n)]) =
      (change (some n)).map fun n => entries ++ [(key, n)] := by
  induction entries with
  | nil =>
    rw [List.nil_append, alter?, if_pos rfl]
    cases change (some n) <;> rfl
  | cons e entries ih =>
    obtain ⟨k, m⟩ := e
    have hk : k ≠ key := h (k, m) (by simp)
    rw [List.cons_append, alter?, if_neg hk, ih fun e he => h e (by simp [he])]
    cases change (some n) <;> rfl

theorem descend?_append (origin : Origin) (change : Origin → Entries → Option Entries)
    (path rest : List String) (here : Origin) (entries : Entries) :
    descend? origin change (path ++ rest) here entries =
      descend? origin (fun here entries => descend? origin change rest here entries) path here
        entries := by
  induction path generalizing here entries with
  | nil => rfl
  | cons key path ih => simp only [List.cons_append, descend?, ih]

/-! ### The table that is open -/

/-- The path leads to one place of a tree, and `plug` puts entries there. -/
def Focus (path : List String) (plug : Entries → Entries) : Prop :=
  ∀ (change : Entries → Option Entries) (inner : Entries),
    descend? .headerPath (fun _ => change) path .header (plug inner) = (change inner).map plug

theorem Focus.root : Focus [] id := by
  intro change inner
  rw [descend?, Option.map_id]
  rfl

/-- The last table of the place is a place again. -/
theorem Focus.open {path : List String} {plug : Entries → Entries} (h : Focus path plug)
    {key : String} {before : Entries} (hb : ∀ e ∈ before, e.1 ≠ key) (origin : Origin) :
    Focus (path ++ [key]) fun inner => plug (before ++ [(key, .table origin inner)]) := by
  intro change inner
  rw [descend?_append]
  have hstep := h (fun entries => descend? .headerPath (fun _ => change) [key] .header entries)
    (before ++ [(key, .table origin inner)])
  have hlast : descend? .headerPath (fun _ => change) [key] .header
      (before ++ [(key, .table origin inner)]) =
      (change inner).map fun i => before ++ [(key, .table origin i)] := by
    rw [descend?, alter?_last hb]
    simp only [descend?]
    cases change inner <;> rfl
  rw [hlast, Option.map_map] at hstep
  exact hstep

theorem Focus.add_openTable {path : List String} {plug : Entries → Entries} (h : Focus path plug)
    {key : String} {before : Entries} (hb : ∀ e ∈ before, e.1 ≠ key) (here : List String) :
    add? (here, plug before) (.openTable path key) =
      some (path ++ [key], plug (before ++ [(key, .table .header [])])) := by
  rw [add?, openTable?, h, alter?_new hb]
  rfl

/-- Entries as the assignments under a header leave them. -/
def values (entries : List (String × Json)) : Entries := entries.map fun e => (e.1, .value e.2)

theorem Focus.add_assigns {path : List String} {plug : Entries → Entries} (h : Focus path plug)
    {entries : List (String × Json)} {before : Entries}
    (hn : (before.map (·.1) ++ entries.map (·.1)).Nodup) :
    (assigns entries).foldlM add? (path, plug before) =
      some (path, plug (before ++ values entries)) := by
  induction entries generalizing before with
  | nil => simp [assigns, values]
  | cons e entries ih =>
    have hnew : ∀ x ∈ before, x.1 ≠ e.1 := by
      intro x hx he
      have hd := (List.nodup_append.mp hn).2.2 x.1 (List.mem_map_of_mem hx) e.1 (by simp)
      exact hd he
    have hadd : add? (path, plug before) (.assign [] e.1 e.2) =
        some (path, plug (before ++ [(e.1, .value e.2)])) := by
      have hassign : assign? [] e.1 e.2 before = some (before ++ [(e.1, .value e.2)]) := by
        simp only [assign?, descend?, List.isEmpty_nil, Bool.true_or, ↓reduceIte]
        rw [insertNew?, alter?_new hnew]
        rfl
      rw [add?, h, hassign]
      rfl
    have hrest := @ih (before ++ [(e.1, .value e.2)]) (by simpa using hn)
    simp only [assigns, List.map_cons, List.foldlM_cons] at hrest ⊢
    rw [hadd]
    simpa [values] using hrest

/-- A header and what is assigned under it. -/
def opened (path : List String) (name : String) (entries : List (String × Json)) :
    List Statement :=
  .openTable path name :: assigns entries

theorem Focus.add_opened {path : List String} {plug : Entries → Entries} (h : Focus path plug)
    {name : String} {before : Entries} (hb : ∀ e ∈ before, e.1 ≠ name)
    {entries : List (String × Json)} (hn : (entries.map (·.1)).Nodup) (here : List String) :
    (opened path name entries).foldlM add? (here, plug before) =
      some (path ++ [name], plug (before ++ [(name, .table .header (values entries))])) := by
  rw [opened, List.foldlM_cons, h.add_openTable hb]
  have hfill := @Focus.add_assigns _ _ (h.open hb .header) entries [] (by simpa using hn)
  simpa using hfill

/-- Tables of distinct names, one after the other in one place. -/
theorem Focus.add_tables {path : List String} {plug : Entries → Entries} (h : Focus path plug)
    {tables : List (String × List (String × Json))} {before : Entries}
    (hn : (before.map (·.1) ++ tables.map (·.1)).Nodup)
    (hentries : ∀ t ∈ tables, (t.2.map (·.1)).Nodup) (here : List String) :
    ∃ there, (tables.flatMap fun t => opened path t.1 t.2).foldlM add? (here, plug before) =
      some (there, plug (before ++ tables.map fun t => (t.1, .table .header (values t.2)))) := by
  induction tables generalizing before here with
  | nil => exact ⟨here, by simp⟩
  | cons t tables ih =>
    have hnew : ∀ x ∈ before, x.1 ≠ t.1 := by
      intro x hx he
      exact (List.nodup_append.mp hn).2.2 x.1 (List.mem_map_of_mem hx) t.1 (by simp) he
    obtain ⟨there, hrest⟩ := @ih (before ++ [(t.1, .table .header (values t.2))])
      (by simpa using hn) (fun t ht => hentries t (by simp [ht])) (path ++ [t.1])
    refine ⟨there, ?_⟩
    rw [List.flatMap_cons, List.foldlM_append, h.add_opened hnew (hentries t (by simp))]
    simpa using hrest

/-- A header with nothing under it but tables of distinct names. -/
theorem Focus.add_group {path : List String} {plug : Entries → Entries} (h : Focus path plug)
    {name : String} {before : Entries} (hb : ∀ e ∈ before, e.1 ≠ name)
    {tables : List (String × List (String × Json))} (hn : (tables.map (·.1)).Nodup)
    (hentries : ∀ t ∈ tables, (t.2.map (·.1)).Nodup) (here : List String) :
    ∃ there, (opened path name [] ++
        tables.flatMap fun t => opened (path ++ [name]) t.1 t.2).foldlM add? (here, plug before) =
      some (there, plug (before ++ [(name, .table .header
        (tables.map fun t => (t.1, .table .header (values t.2))))])) := by
  obtain ⟨there, htables⟩ := @Focus.add_tables _ _ (h.open hb .header) tables [] (by simpa using hn)
    hentries (path ++ [name])
  refine ⟨there, ?_⟩
  rw [List.foldlM_append, @Focus.add_opened _ _ h name before hb [] List.nodup_nil]
  simpa [values] using htables

/-- Tables of distinct names in a place that has no header of its own; the first of them makes it,
and where there is none the place is not made. -/
theorem Focus.add_path {path : List String} {plug : Entries → Entries} (h : Focus path plug)
    {name : String} {before : Entries} (hb : ∀ e ∈ before, e.1 ≠ name)
    {tables : List (String × List (String × Json))} (hn : (tables.map (·.1)).Nodup)
    (hentries : ∀ t ∈ tables, (t.2.map (·.1)).Nodup) (here : List String) :
    ∃ there, (tables.flatMap fun t => opened (path ++ [name]) t.1 t.2).foldlM add?
        (here, plug before) =
      some (there, plug (before ++ if tables.isEmpty then [] else [(name, .table .headerPath
        (tables.map fun t => (t.1, .table .header (values t.2))))])) := by
  cases tables with
  | nil => exact ⟨here, by simp⟩
  | cons t tables =>
    have hplace := h.open hb .headerPath
    have hopen : add? (here, plug before) (.openTable (path ++ [name]) t.1) =
        some (path ++ [name] ++ [t.1],
          plug (before ++ [(name, .table .headerPath ([] ++ [(t.1, .table .header [])]))])) := by
      have hstep := h (fun entries => openTable? [name] t.1 entries) before
      have hnew : openTable? [name] t.1 before =
          some (before ++ [(name, .table .headerPath [(t.1, .table .header [])])]) := by
        rw [openTable?, descend?, alter?_new hb]
        rfl
      rw [hnew] at hstep
      rw [add?, openTable?, descend?_append]
      exact congrArg (Option.map _) hstep
    have htable := @Focus.open _ _ hplace t.1 [] (by simp) .header
    have hfirst := @Focus.add_assigns _ _ htable t.2 [] (by simpa using hentries t (by simp))
    obtain ⟨there, hrest⟩ := @Focus.add_tables _ _ hplace tables
      [(t.1, .table .header (values t.2))] (by simpa using hn)
      (fun t ht => hentries t (by simp [ht])) (path ++ [name] ++ [t.1])
    refine ⟨there, ?_⟩
    rw [List.flatMap_cons, List.foldlM_append, opened, List.foldlM_cons, hopen]
    simp only [Option.bind_eq_bind, Option.bind_some]
    rw [hfirst]
    simpa using hrest

end DeviceConsole.Toml
