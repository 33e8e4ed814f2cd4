import DeviceConsole.CommandLine.Reader

/-! The format on a command line. The command and all other options mean the same whatever the
format, and a format in front of the words of a command line that gives none is the format of the
command. -/
namespace DeviceConsole

theorem OutputFormat.ofName?_name (f : OutputFormat) : ofName? f.name = some f := by
  cases f <;> decide

namespace CommandLine

/-! ### Meaning -/

/-- What was given differs at most in the format. -/
structure Given.SameBut (g g' : Given) : Prop where
  operands : g'.operands = g.operands
  value? : ∀ o ≠ .output, g'.value? o = g.value? o
  values? : ∀ o ≠ .output, g'.values? o = g.values? o

variable {g g' : Given}

theorem Given.SameBut.has (h : g.SameBut g') {o : Opt} (ho : o ≠ .output) : g'.has o = g.has o := by
  rw [Given.has, Given.has, h.value? o ho]

/-- No command depends on the format it is shown in. -/
theorem Form.meaning_sameBut (h : g.SameBut g') {group : Group} {form : Form}
    (hgroup : group ∈ groups) (hform : form ∈ group.forms) : form.meaning g' = form.meaning g := by
  have hmode : modeOf g' = modeOf g := by rw [modeOf, modeOf, h.has (by decide)]
  have hid : oneId? g' = oneId? g := by rw [oneId?, oneId?, h.operands]
  have hcredential : credentialForm? g' = credentialForm? g := by
    simp only [credentialForm?, h.value? .hostname (by decide), h.value? .port (by decide),
      h.value? .password (by decide)]
  have hids : credentialIds? g' = credentialIds? g := by
    rw [credentialIds?, credentialIds?, h.values? _ (by decide)]
  simp only [groups, List.mem_cons, List.not_mem_nil, or_false] at hgroup
  rcases hgroup with rfl | rfl | rfl | rfl | rfl | rfl
  all_goals
    simp only [devices, credentials, discovery, targets, telemetry, config, List.mem_cons,
      List.not_mem_nil, or_false] at hform
  · rcases hform with rfl | rfl | rfl | rfl
    · rfl
    · simp only [provision?, h.operands]
    · simp only [setProvisioned?, Given.required?, h.value? .provisioned (by decide), h.operands]
    · simp only [toggle?, h.operands, h.has (o := .all) (by decide)]
  · rcases hform with rfl | rfl | rfl | rfl
    · rfl
    · simp only [hcredential]
    · simp only [updateCredential?, hid, hcredential]
    · simp only [hid]
  · rcases hform with rfl | rfl | rfl | rfl | rfl | rfl
    · rfl
    · simp only [hid, h.has (o := .expand) (by decide)]
    · simp only [createDiscovery?, hmode, h.value? .targets (by decide), hids]
    · simp only [updateDiscovery?, hid, hids, hmode, h.value? .targets (by decide),
        h.has (o := .cidr) (by decide)]
    · simp only [hid]
    · simp only [hid]
  · subst hform
    simp only [resolveTargets?, h.operands, hmode, h.has (o := .expand) (by decide),
      Given.optional?, h.value? .ceiling (by decide)]
  · subst hform
    simp only [ showTelemetry?, h.operands, Given.withDefault?, Given.optional?,
      h.value? .duration (by decide), h.value? .aggregation (by decide)]
  · rcases hform with rfl | rfl | rfl | rfl | rfl | rfl
    · rfl
    · rfl
    · rfl
    · simp only [set?, h.operands]
    · rfl
    · simp only [use?, h.operands]

/-- The format that a value stands for. -/
def Given.format? (g : Given) : Option OutputFormat :=
  g.withDefault? .output .table OutputFormat.ofName?

theorem Given.format?_of_none (h : g.value? .output = none) : g.format? = some .table := by
  rw [format?, withDefault?, optional?, h]
  rfl

theorem Given.format?_of_some {name : String} (h : g.value? .output = some name) :
    g.format? = OutputFormat.ofName? name := by
  rw [format?, withDefault?, optional?, h]
  cases hname : OutputFormat.ofName? name <;> simp [hname]

theorem format?_of_globalOptions {o : GlobalOptions} (h : globalOptions? g = some o) :
    g.format? = some o.output := by
  simp only [globalOptions?, Option.bind_eq_bind, Option.bind_eq_some_iff, Option.some.injEq] at h
  obtain ⟨f, hf, _, -, _, -, rfl⟩ := h
  exact hf

theorem globalOptions?_sameBut {o : GlobalOptions} {f : OutputFormat} (h : g.SameBut g')
    (hoptions : globalOptions? g = some o) (hf : g'.format? = some f) :
    globalOptions? g' = some { o with output := f } := by
  simp only [globalOptions?, Option.bind_eq_bind, Option.bind_eq_some_iff,
    Option.some.injEq] at hoptions
  obtain ⟨_, -, insecure, hinsecure, timeout, htimeout, rfl⟩ := hoptions
  have hinsecure' : g'.withDefault? .insecure false Text.bool? = some insecure := by
    rw [← hinsecure, Given.withDefault?, Given.withDefault?, Given.optional?, Given.optional?,
      h.value? .insecure (by decide)]
  have htimeout' : g'.optional? .timeout natural? = some timeout := by
    rw [← htimeout, Given.optional?, Given.optional?, h.value? .timeout (by decide)]
  rw [Given.format?] at hf
  simp only [globalOptions?, hf, hinsecure', htimeout', h.value? .profile (by decide),
    h.value? .server (by decide), h.has (o := .quiet) (by decide),
    h.has (o := .yes) (by decide)]
  rfl

/-! ### Scanning -/

namespace Scan

/-- Group and form are known ones, and the words stand at some level. -/
structure Known (s : Scan) : Prop where
  level : s.levels ≠ []
  group_mem : ∀ g, s.group = some g → g ∈ groups
  form_mem : ∀ f, s.form = some f → ∃ g ∈ groups, f ∈ g.forms

/-- No format was given so far. -/
def GivesNone (s : Scan) : Prop := s.values.lookup .output = none

/-- Marks the format as given at the outermost level. -/
def markOuter : List (List Opt) → List (List Opt)
  | [] => []
  | [level] => [level ++ [.output]]
  | level :: outer => level :: markOuter outer

/-- The scan after the same words, with a format given in front of them. -/
def behind (f : OutputFormat) (s : Scan) : Scan :=
  { s with values := s.values ++ [(.output, f.name)], levels := markOuter s.levels }

theorem markOuter_cons {level : List Opt} {outer : List (List Opt)} (h : outer ≠ []) :
    markOuter (level :: outer) = level :: markOuter outer := by
  cases outer with
  | nil => exact absurd rfl h
  | cons next outer => rfl

theorem mark_ne_nil (o : Opt) (levels : List (List Opt)) : mark o levels ≠ [] := by
  cases levels <;> exact List.cons_ne_nil _ _

theorem markOuter_mark {o : Opt} {levels : List (List Opt)} (h : levels ≠ []) :
    markOuter (mark o levels) = mark o (markOuter levels) := by
  match levels, h with
  | [level], _ => rfl
  | level :: next :: outer, _ => rfl

variable {f : OutputFormat} {s t : Scan}

theorem seenHere_behind {o : Opt} (ho : o ≠ .output) : (s.behind f).seenHere o = s.seenHere o := by
  have hlast (level : List Opt) : (level ++ [Opt.output]).contains o = level.contains o := by
    simp [ho]
  have hlevels : (s.behind f).levels = markOuter s.levels := rfl
  rw [seenHere, seenHere, hlevels]
  match s.levels with
  | [] => rfl
  | [level] => exact hlast level
  | level :: next :: outer => rfl

/-- What a scan goes on to is known again, and where it gives no format, the scan with a format in
front goes on alike. -/
structure Follows (f : OutputFormat) (s t : Scan) (after : Except Stop Scan) : Prop where
  known : t.Known
  alike : t.GivesNone → s.GivesNone ∧ after = .ok (t.behind f)

/-- A step that gives no option, and names neither group nor form. -/
theorem follows_of_eq (hknown : s.Known) (hlevels : t.levels = s.levels)
    (hgroup : t.group = s.group) (hform : t.form = s.form) (hvalues : t.values = s.values) :
    Follows f s t (.ok (t.behind f)) := by
  refine ⟨⟨hlevels ▸ hknown.level, hgroup ▸ hknown.group_mem, hform ▸ hknown.form_mem⟩,
    fun hnone => ⟨?_, rfl⟩⟩
  rw [GivesNone, ← hvalues]
  exact hnone

/-- One step after the other. That no format is given is carried backwards. -/
theorem Follows.trans {s' : Scan} {after next final : Except Stop Scan} (h : Follows f s s' after)
    (h' : Follows f s' t next) (hfinal : after = .ok (s'.behind f) → final = next) :
    Follows f s t final := by
  refine ⟨h'.known, fun hnone => ?_⟩
  obtain ⟨hnone', hnext⟩ := h'.alike hnone
  obtain ⟨hnone'', hafter⟩ := h.alike hnone'
  exact ⟨hnone'', (hfinal hafter).trans hnext⟩

theorem give_follows {o : Opt} {value : String} (hknown : s.Known) (h : s.give o value = .ok t) :
    Follows f s t ((s.behind f).give o value) := by
  unfold give at h
  split at h
  · rename_i haccepted
    cases h
    refine ⟨⟨mark_ne_nil o _, hknown.group_mem, hknown.form_mem⟩, fun hnone => ?_⟩
    have ho : o ≠ .output := by
      rintro rfl
      rw [GivesNone, List.lookup_cons_self] at hnone
      cases hnone
    have hnone' : s.GivesNone := by
      rw [GivesNone, List.lookup_cons, beq_false_of_ne ho.symm] at hnone
      exact hnone
    refine ⟨hnone', ?_⟩
    unfold give
    rw [seenHere_behind ho, if_pos haccepted]
    simp only [behind, List.cons_append, markOuter_mark hknown.level]
  · cases h

theorem raise_follows {o : Opt} (hknown : s.Known) (h : s.raise o = .ok t) :
    Follows f s t ((s.behind f).raise o) := by
  unfold raise at h ⊢
  split at h
  · cases h
  · cases h
  · exact give_follows hknown h

theorem options_behind : (s.behind f).options = s.options := rfl

theorem long_follows {name : String} {value : Option String} (hknown : s.Known)
    (h : s.long name value = .ok t) : Follows f s t ((s.behind f).long name value) := by
  unfold long at h ⊢
  rw [options_behind]
  split at h
  · cases h
  · split at h
    · exact give_follows hknown h
    · cases h
      exact follows_of_eq hknown rfl rfl rfl rfl
    · cases h
    · exact raise_follows hknown h

/-- Along a run of letters only the last one can take a value. -/
theorem short_follows {cs : List Char} (hknown : s.Known) (h : s.short cs = .ok t) :
    Follows f s t ((s.behind f).short cs) := by
  induction cs generalizing s with
  | nil =>
    cases h
    exact follows_of_eq hknown rfl rfl rfl rfl
  | cons c cs ih =>
    unfold short at h ⊢
    rw [options_behind]
    split at h
    · cases h
    · rename_i o _
      split at h
      · rename_i hvalue
        rw [if_pos hvalue]
        split at h
        · cases h
          exact follows_of_eq hknown rfl rfl rfl rfl
        · exact give_follows hknown h
        · exact give_follows hknown h
      · rename_i hflag
        rw [if_neg hflag]
        split at h
        · rename_i s' hraise
          have hraised := raise_follows (f := f) hknown hraise
          exact hraised.trans (ih hraised.known h) fun hraise' => by rw [hraise']
        · cases h

theorem operand_follows {word : String} (hknown : s.Known) (h : s.operand word = .ok t) :
    Follows f s t ((s.behind f).operand word) := by
  have hform : (s.behind f).form = s.form := rfl
  have hoperands : (s.behind f).operands = s.operands := rfl
  unfold operand at h ⊢
  rw [hform, hoperands]
  split at h
  · split at h
    · rename_i haccepted
      cases h
      rw [if_pos haccepted]
      exact follows_of_eq hknown rfl rfl rfl rfl
    · cases h
  · cases h

theorem plain_follows {word : String} (hknown : s.Known) (h : s.plain word = .ok t) :
    Follows f s t ((s.behind f).plain word) := by
  have hgroup : (s.behind f).group = s.group := rfl
  have hform : (s.behind f).form = s.form := rfl
  have hlevels : markOuter ([] :: s.levels) = [] :: markOuter s.levels :=
    markOuter_cons hknown.level
  unfold plain at h ⊢
  rw [hgroup, hform]
  split at h
  · split at h
    · cases h
    · rename_i hhelp
      rw [if_neg hhelp]
      split at h
      · rename_i g hg
        cases h
        have hmem : g ∈ groups := List.mem_of_find?_eq_some hg
        refine ⟨⟨List.cons_ne_nil _ _, fun _ heq => ?_, hknown.form_mem⟩, fun hnone => ⟨hnone, ?_⟩⟩
        · cases heq
          exact hmem
        · simp only [behind, hlevels]
      · cases h
  · rename_i g hg hf
    split at h
    · cases h
    · rename_i hhelp
      rw [if_neg hhelp]
      split at h
      · rename_i form hform'
        cases h
        have hmem : form ∈ g.forms := List.mem_of_find?_eq_some hform'
        refine ⟨⟨List.cons_ne_nil _ _, hknown.group_mem, fun _ heq => ?_⟩,
          fun hnone => ⟨hnone, ?_⟩⟩
        · cases heq
          exact ⟨g, hknown.group_mem g hg, hmem⟩
        · simp only [behind, hlevels]
      · cases h
  · exact operand_follows hknown h

/-- One word. -/
theorem word_follows {w : String} (hknown : s.Known) (h : s.word w = .ok t) :
    Follows f s t ((s.behind f).word w) := by
  have hescaped : (s.behind f).escaped = s.escaped := rfl
  have hpending : (s.behind f).pending = s.pending := rfl
  unfold word at h ⊢
  rw [hescaped, hpending]
  split at h
  · rename_i hesc
    rw [if_pos hesc]
    exact operand_follows hknown h
  · rename_i hesc
    rw [if_neg hesc]
    split at h
    · cases h
      exact follows_of_eq hknown rfl rfl rfl rfl
    · exact long_follows hknown h
    · exact short_follows hknown h
    · exact plain_follows hknown h
    · cases h
    · exact give_follows hknown h

/-- All words. -/
theorem words_follow {words : List String} (hknown : s.Known)
    (h : words.foldlM Scan.word s = .ok t) :
    Follows f s t (words.foldlM Scan.word (s.behind f)) := by
  induction words generalizing s with
  | nil =>
    cases h
    exact follows_of_eq hknown rfl rfl rfl rfl
  | cons w words ih =>
    rw [List.foldlM_cons] at h ⊢
    cases hword : s.word w with
    | error stop =>
      rw [hword] at h
      cases h
    | ok s' =>
      rw [hword] at h
      have hstep := word_follows (f := f) hknown hword
      refine hstep.trans (ih hstep.known h) fun hword' => ?_
      rw [hword']
      rfl

/-! ### Ending -/

def given (s : Scan) (environment : List (String × String)) : Given :=
  { environment, values := s.values, operands := s.operands }

variable {environment : List (String × String)} {i : Invocation}

theorem finish_eq_some_iff :
    s.finish environment = some i ↔
      ∃ form, s.form = some form ∧ s.pending = none ∧ s.environmentAccepted environment = true ∧
        globalOptions? (s.given environment) = some i.options ∧
        form.meaning (s.given environment) = some i.command := by
  rw [finish]
  cases s.form with
  | none => simp
  | some form =>
    cases hpending : s.pending with
    | some o => simp
    | none =>
      cases haccepted : s.environmentAccepted environment with
      | false => simp
      | true =>
        simp only [Option.bind_eq_bind, Option.bind_some, Option.isSome_none, Bool.not_true,
          Bool.or_self, Bool.false_eq_true, ↓reduceIte, Option.bind_eq_some_iff,
          Option.some.injEq, exists_eq_left', true_and, given]
        constructor
        · rintro ⟨options, hoptions, command, hcommand, rfl⟩
          exact ⟨hoptions, hcommand⟩
        · rintro ⟨hoptions, hcommand⟩
          exact ⟨_, hoptions, _, hcommand, rfl⟩

/-- Another scan that ended in the same form, and is given the same but for the format, is read as
the same command in that format. -/
theorem finish_sameBut {s' : Scan} {environment' : List (String × String)}
    (hknown : s.Known) (hform : s'.form = s.form) (hpending : s'.pending = s.pending)
    (haccepted : s'.environmentAccepted environment' = s.environmentAccepted environment)
    (hsame : (s.given environment).SameBut (s'.given environment'))
    (hformat : (s'.given environment').format? = some f) (h : s.finish environment = some i) :
    s'.finish environment' = some { i with options := { i.options with output := f } } := by
  obtain ⟨form, hs, hover, hok, hoptions, hcommand⟩ := finish_eq_some_iff.mp h
  obtain ⟨group, hgroup, hmem⟩ := hknown.form_mem form hs
  refine finish_eq_some_iff.mpr ⟨form, hform.trans hs, hpending.trans hover, haccepted.trans hok,
    globalOptions?_sameBut hsame hoptions hformat, ?_⟩
  rw [Form.meaning_sameBut hsame hgroup hmem, hcommand]

theorem all_contains_markOuter {o : Opt} (ho : o ≠ .output) (levels : List (List Opt)) :
    ((markOuter levels).all fun level => level.contains o) =
      levels.all fun level => level.contains o := by
  induction levels with
  | nil => rfl
  | cons level outer ih =>
    cases outer with
    | nil => simp [markOuter, ho]
    | cons next outer =>
      rw [markOuter_cons (List.cons_ne_nil _ _), List.all_cons, ih]
      rfl

theorem environmentAccepted_behind (hnone : environment.lookup "NMSOPS_OUTPUT" = none) :
    (s.behind f).environmentAccepted environment = s.environmentAccepted environment := by
  rw [environmentAccepted, environmentAccepted, options_behind]
  refine congrArg s.options.all (funext fun o => ?_)
  by_cases ho : o = .output
  · rw [ho]
    simp only [Opt.environment?, Option.bind_some, hnone]
  · rw [show (s.behind f).levels = markOuter s.levels from rfl, all_contains_markOuter ho]

theorem given_behind : (s.given environment).SameBut ((s.behind f).given environment) := by
  have hbefore {o : Opt} (ho : o ≠ .output) :
      (s.values ++ [(Opt.output, f.name)]).lookup o = s.values.lookup o := by
    rw [List.lookup_append, List.lookup_cons, beq_false_of_ne ho, List.lookup_nil, Option.or_none]
  refine ⟨rfl, fun o ho => ?_, fun o ho => ?_⟩
  · rw [Given.value?, Given.value?]
    exact congrArg (fun found => Option.or found _) (hbefore ho)
  · have hlast : [(Opt.output, f.name)].filter (fun e => decide (e.1 = o)) = [] := by
      simp [ho.symm]
    rw [Given.values?, Given.values?]
    simp only [given, behind, List.filter_append, hlast, List.append_nil]

/-- The format in front counts where there is no other behind it. -/
theorem format?_behind (hnone : s.GivesNone) :
    ((s.behind f).given environment).format? = some f := by
  have hlast : (s.values ++ [(Opt.output, f.name)]).lookup .output = some f.name := by
    rw [List.lookup_append, show s.values.lookup .output = none from hnone,
      List.lookup_cons_self, Option.none_or]
  have hname : ((s.behind f).given environment).value? .output = some f.name := by
    rw [Given.value?, show ((s.behind f).given environment).values.lookup .output = _ from hlast,
      Option.some_or]
  rw [Given.format?_of_some hname, OutputFormat.ofName?_name]

end Scan

variable {environment : List (String × String)} {words : List String} {i : Invocation}
  {f : OutputFormat}

/-- The name of the format, on the command line or in its variable, where one is given. -/
def formatGiven? (environment : List (String × String)) (words : List String) : Option String :=
  (words.foldlM Scan.word {}).toOption.bind fun s => (s.given environment).value? .output

theorem read_eq_ok_iff :
    read environment words = .ok i ↔
      ∃ s, words.foldlM Scan.word {} = .ok s ∧ s.finish environment = some i := by
  rw [read]
  cases words.foldlM Scan.word {} with
  | error stop => simp
  | ok s => cases hfinish : s.finish environment <;> simp [hfinish]

theorem known_start : Scan.Known {} := ⟨by decide, by simp, by simp⟩

theorem known_of_words {s : Scan} (h : words.foldlM Scan.word {} = .ok s) : s.Known :=
  (Scan.words_follow (f := .table) known_start h).known

theorem foldlM_format (f : OutputFormat) (words : List String) :
    ("--output" :: f.name :: words).foldlM Scan.word {} =
      words.foldlM Scan.word (Scan.behind f {}) := by
  have hflag : Scan.word {} "--output" = .ok { pending := some .output } := rfl
  have hname : Scan.word { pending := some .output } f.name = .ok (Scan.behind f {}) := by
    cases f <;> rfl
  rw [List.foldlM_cons, hflag]
  change (f.name :: words).foldlM Scan.word { pending := some .output } = _
  rw [List.foldlM_cons, hname]
  rfl

/-- Where no format is given it is the table, and one in front of the words is followed. -/
theorem read_format_of_none (h : read environment words = .ok i)
    (hnone : formatGiven? environment words = none) :
    i.options.output = .table ∧
      ∀ f : OutputFormat, read environment ("--output" :: f.name :: words) =
        .ok { i with options := { i.options with output := f } } := by
  obtain ⟨s, hs, hfinish⟩ := read_eq_ok_iff.mp h
  obtain ⟨-, -, -, -, hoptions, -⟩ := Scan.finish_eq_some_iff.mp hfinish
  rw [formatGiven?, hs] at hnone
  have hvalue : (s.given environment).value? .output = none := hnone
  have htable := Given.format?_of_none hvalue
  obtain ⟨hwords, hvariable⟩ : s.GivesNone ∧ environment.lookup "NMSOPS_OUTPUT" = none :=
    Option.or_eq_none_iff.mp hvalue
  refine ⟨Option.some.inj ((format?_of_globalOptions hoptions).symm.trans htable), fun f => ?_⟩
  have hrun := (Scan.words_follow (f := f) known_start hs).alike hwords
  refine read_eq_ok_iff.mpr ⟨s.behind f, (foldlM_format f words).trans hrun.2, ?_⟩
  exact Scan.finish_sameBut (known_of_words hs) rfl rfl
    (Scan.environmentAccepted_behind hvariable) Scan.given_behind (Scan.format?_behind hwords)
    hfinish

/-- A format that is given is the format of the command. -/
theorem format_of_read {name : String} (h : read environment words = .ok i)
    (hsome : formatGiven? environment words = some name) :
    OutputFormat.ofName? name = some i.options.output := by
  obtain ⟨s, hs, hfinish⟩ := read_eq_ok_iff.mp h
  obtain ⟨-, -, -, -, hoptions, -⟩ := Scan.finish_eq_some_iff.mp hfinish
  rw [formatGiven?, hs] at hsome
  rw [← Given.format?_of_some hsome]
  exact format?_of_globalOptions hoptions

/-- Only the variables of options matter. -/
theorem read_congr {environment' : List (String × String)} (h : read environment words = .ok i)
    (hvariables : ∀ (o : Opt) name, o.environment? = some name →
      environment'.lookup name = environment.lookup name) :
    read environment' words = .ok i := by
  obtain ⟨s, hs, hfinish⟩ := read_eq_ok_iff.mp h
  obtain ⟨-, -, -, -, hoptions, -⟩ := Scan.finish_eq_some_iff.mp hfinish
  have hlookup (o : Opt) : (o.environment?.bind fun name => environment'.lookup name) =
      o.environment?.bind fun name => environment.lookup name := by
    cases ho : o.environment? with
    | none => rfl
    | some name => exact hvariables o name ho
  have hvalue (o : Opt) : (s.given environment').value? o = (s.given environment).value? o :=
    congrArg (Option.or _) (hlookup o)
  have haccepted : s.environmentAccepted environment' = s.environmentAccepted environment := by
    simp only [Scan.environmentAccepted, hlookup]
  have hformat : (s.given environment').format? = some i.options.output := by
    rw [← format?_of_globalOptions hoptions, Given.format?, Given.format?, Given.withDefault?,
      Given.withDefault?, Given.optional?, Given.optional?, hvalue]
  exact read_eq_ok_iff.mpr ⟨s, hs, Scan.finish_sameBut (known_of_words hs) rfl rfl haccepted
    ⟨rfl, fun o _ => hvalue o, fun _ _ => rfl⟩ hformat hfinish⟩

end CommandLine
end DeviceConsole
