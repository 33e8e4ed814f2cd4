import DeviceConsole.Proofs.Telemetry.Series
import DeviceConsole.Proofs.Text.Blank
import Mathlib.Data.List.Perm.Basic

/-! Spellings of one series. Backends differ in how they wrap the points of a device, how they
write a point and its timestamp, and in which order they send points of different times; the
series does not. -/
namespace DeviceConsole

/-! ### Spellings -/

/-- The forms in which the points of a device come. -/
inductive Envelope where
  | bare
  | dotted
  | packed
deriving DecidableEq, Repr

/-- Points under one key. -/
def Json.keyed (key : String) (items : List Json) : Json :=
  .obj [("data", .obj [(key, .arr items)])]

def Envelope.wrap (d : Address) (items : List Json) : Envelope → Json
  | bare => .arr items
  | dotted => .keyed d.text items
  | packed => .keyed d.packedText items

/-- A timestamp is written as a number, or as a literal of it with blanks around. -/
inductive SpellsTime (n : Int64) : Json → Prop
  | number : SpellsTime n (.int n.toInt)
  | text {before literal after : List Char} (leading : ∀ c ∈ before, Text.isBlank c = true)
      (digits : IsLiteral literal n.toInt) (trailing : ∀ c ∈ after, Text.isBlank c = true) :
      SpellsTime n (.str (String.ofList (before ++ literal ++ after)))

def SameTime (t t' : Json) : Prop := t = t' ∨ ∃ n, SpellsTime n t ∧ SpellsTime n t'

/-- A point is written as the array of timestamp and value, or as an object with both. -/
inductive Spells (t v : Json) : Json → Prop
  | pair : Spells t v (.arr [t, v])
  | record {fields : List (String × Json)} (timestamp : HasField fields "timestamp" t)
      (value : HasField fields "value" v) : Spells t v (.obj fields)

/-- Whether an item is a point or not, it is the same as itself. -/
def SamePoint (j j' : Json) : Prop :=
  j = j' ∨ ∃ t t' v, Spells t v j ∧ Spells t' v j' ∧ SameTime t t'

def HasTime (n : Int64) (j : Json) : Prop := ∃ p, IsPoint j p ∧ Denotes p.time n

theorem hasTime_iff {n : Int64} {j : Json} :
    ((RawPoint.ofJson j).bind fun p => p.time.toSeconds) = .ok n ↔ HasTime n j := by
  simp only [HasTime, ← RawPoint.ofJson_iff, ← RawTime.toSeconds_iff]
  cases RawPoint.ofJson j <;> simp [Except.bind]

instance (n : Int64) : DecidablePred (HasTime n) := fun _ => decidable_of_iff _ hasTime_iff

/-- Another order of the items, in which those of one time come as they came before. -/
structure Reordered (items items' : List Json) : Prop where
  perm : items'.Perm items
  stable : ∀ n, items'.filter (HasTime n) = items.filter (HasTime n)

/-! ### What an item yields -/

/-- The item is a point, and its time can be told in milliseconds. -/
def Yields (j : Json) (s : Sample) : Prop := ∃ p, IsPoint j p ∧ IsSample p s

/-- The times a timestamp gives. -/
def IsSeconds (t : Json) (n : Int64) : Prop := ∃ time, IsTime t time ∧ Denotes time n

theorem IsLiteral.not_blank {cs : List Char} {i : Int} (h : IsLiteral cs i) :
    ∀ c ∈ cs, Text.isBlank c = false := by
  have hdigits {ds : List Char} (hd : Decimal.isDigits ds = true) :
      ∀ c ∈ ds, Text.isBlank c = false := fun c hc =>
    Text.isBlank_of_isDigit ((Decimal.isDigits_iff.mp hd).2 c hc)
  cases h with
  | plain hd => exact hdigits hd
  | plus hd => exact List.forall_mem_cons.mpr ⟨by decide, hdigits hd⟩
  | minus hd => exact List.forall_mem_cons.mpr ⟨by decide, hdigits hd⟩

theorem SpellsTime.isSeconds {t : Json} {n : Int64} (h : SpellsTime n t) : IsSeconds t n := by
  cases h with
  | number => exact ⟨_, .seconds n, .seconds n⟩
  | @text before literal after hleading hdigits htrailing =>
    have htrim := Text.trimChars_padded hleading hdigits.not_blank htrailing
    exact ⟨_, .text _, .text (by rwa [String.toList_ofList, htrim])⟩

theorem IsSeconds.unique {t : Json} {n m : Int64} (h : IsSeconds t n) (h' : IsSeconds t m) :
    n = m := by
  obtain ⟨time, ht, hn⟩ := h
  obtain ⟨time', ht', hm⟩ := h'
  obtain rfl := ht.unique ht'
  exact hn.unique hm

theorem Spells.yields_iff {t v j : Json} {s : Sample} (h : Spells t v j) :
    Yields j s ↔ (∃ n, IsSeconds t n ∧ s.millis.toInt = n.toInt * 1000) ∧ IsValue v s.value := by
  constructor
  · rintro ⟨p, hp, ⟨n, hn, hm⟩, hv⟩
    rw [hv]
    cases h with
    | pair =>
      cases hp with
      | pair htime hnumber => exact ⟨⟨n, ⟨_, htime, hn⟩, hm⟩, hnumber⟩
    | record ht hj =>
      cases hp with
      | record ht' hj' htime hnumber =>
        obtain rfl := ht.unique ht'
        obtain rfl := hj.unique hj'
        exact ⟨⟨n, ⟨_, htime, hn⟩, hm⟩, hnumber⟩
  · rintro ⟨⟨n, ⟨time, ht, hn⟩, hm⟩, hv⟩
    refine ⟨⟨time, s.value⟩, ?_, ⟨n, hn, hm⟩, rfl⟩
    cases h with
    | pair => exact .pair ht hv
    | record htime hvalue => exact .record htime hvalue ht hv

/-- The spelling of a point leaves no trace in its sample. -/
theorem SamePoint.yields_iff {j j' : Json} (h : SamePoint j j') (s : Sample) :
    Yields j s ↔ Yields j' s := by
  have hsame {t t' : Json} (h : SameTime t t') (n : Int64) : IsSeconds t n ↔ IsSeconds t' n := by
    rcases h with rfl | ⟨m, ht, ht'⟩
    · rfl
    · constructor
      · intro hn
        exact ht.isSeconds.unique hn ▸ ht'.isSeconds
      · intro hn
        exact ht'.isSeconds.unique hn ▸ ht.isSeconds
  rcases h with rfl | ⟨t, t', v, hj, hj', ht⟩
  · rfl
  · simp only [hj.yields_iff, hj'.yields_iff, hsame ht]

theorem Yields.unique {j : Json} {s s' : Sample} (h : Yields j s) (h' : Yields j s') : s = s' := by
  obtain ⟨p, hp, hs⟩ := h
  obtain ⟨p', hp', hs'⟩ := h'
  obtain rfl := hp.unique hp'
  exact hs.unique hs'

theorem rightUnique_yields : Relator.RightUnique Yields := fun _ _ _ h h' => h.unique h'

/-- The samples of one time are those of the points that have it. -/
theorem Yields.millis_iff {j : Json} {s : Sample} (h : Yields j s) {m n : Int64}
    (hm : m.toInt = n.toInt * 1000) : HasTime n j ↔ s.millis = m := by
  obtain ⟨p, hp, ⟨k, hk, hs⟩, -⟩ := h
  rw [← Int64.toInt_inj, hs, hm]
  constructor
  · rintro ⟨p', hp', hn⟩
    obtain rfl := hp.unique hp'
    rw [hk.unique hn]
  · intro heq
    obtain rfl : k = n := Int64.toInt_inj.mp (by omega)
    exact ⟨p, hp, hk⟩

/-! ### What arrives -/

variable {d : Address} {items items' mid : List Json} {arrived : List Sample}

theorem holds_keyed_iff {key : String} (h : key = d.text ∨ key = d.packedText)
    {all own : List Json} : Holds d (.keyed key items) all own ↔ all = items ∧ own = items := by
  have hfound : ((([(key, items)] : List (String × List Json)).lookup d.text).or
      ([(key, items)].lookup d.packedText)).getD [] = items := by
    rcases h with rfl | rfl
    · simp
    · rw [lookup_cons_eq_ite]
      split <;> simp
  constructor
  · intro hholds
    cases hholds with
    | noData hd => simp at hd
    | nullData hd => simp at hd
    | keyed groups hd =>
      have hgroups : groups.map (fun g => (g.1, Json.arr g.2)) = [(key, .arr items)] := by
        simpa using hd.symm
      obtain ⟨⟨name, points⟩, rfl, heq⟩ := List.map_eq_singleton_iff.mp hgroups
      obtain ⟨rfl, ⟨⟩⟩ := Prod.mk.inj heq
      exact ⟨by simp, hfound⟩
  · rintro ⟨rfl, rfl⟩
    have hholds : Holds d (.keyed key own) ([(key, own)].flatMap (·.2)) _ := .keyed [(key, own)] rfl
    rw [hfound] at hholds
    simpa using hholds

theorem holds_wrap_iff (e : Envelope) {all own : List Json} :
    Holds d (e.wrap d items) all own ↔ all = items ∧ own = items := by
  cases e with
  | bare =>
    constructor
    · rintro ⟨⟩
      exact ⟨rfl, rfl⟩
    · rintro ⟨rfl, rfl⟩
      exact .bare _
  | dotted => exact holds_keyed_iff (.inl rfl)
  | packed => exact holds_keyed_iff (.inr rfl)

theorem forall₂_yields_iff : List.Forall₂ Yields items arrived ↔
    ∃ points, List.Forall₂ IsPoint items points ∧ List.Forall₂ IsSample points arrived := by
  constructor
  · intro h
    induction h with
    | nil => exact ⟨[], .nil, .nil⟩
    | cons hy _ ih =>
      obtain ⟨p, hp, hs⟩ := hy
      obtain ⟨points, hpoints, hsamples⟩ := ih
      exact ⟨p :: points, .cons hp hpoints, .cons hs hsamples⟩
  · rintro ⟨points, hpoints, hsamples⟩
    induction hpoints generalizing arrived with
    | nil =>
      cases hsamples
      exact .nil
    | cons hp _ ih =>
      cases hsamples with
      | cons hs hrest => exact .cons ⟨_, hp, hs⟩ (ih hrest)

/-- In an envelope of its own a point needs nothing but to yield a sample. -/
theorem arrives_wrap_iff (e : Envelope) :
    Arrives (e.wrap d items) d arrived ↔ List.Forall₂ Yields items arrived := by
  rw [forall₂_yields_iff]
  constructor
  · rintro ⟨all, own, points, hholds, -, hpoints, hsamples⟩
    obtain ⟨-, rfl⟩ := (holds_wrap_iff e).mp hholds
    exact ⟨points, hpoints, hsamples⟩
  · rintro ⟨points, hpoints, hsamples⟩
    exact ⟨items, items, points, (holds_wrap_iff e).mpr ⟨rfl, rfl⟩,
      TelemetryBody.exists_points_iff.mp ⟨points, hpoints⟩, hpoints, hsamples⟩

theorem yields_filter (h : List.Forall₂ Yields items arrived) {m n : Int64}
    (hm : m.toInt = n.toInt * 1000) :
    List.Forall₂ Yields (items.filter (HasTime n)) (arrived.filter fun s => s.millis = m) :=
  List.rel_filter (fun _ _ hy => by simpa using hy.millis_iff hm) h

theorem forall₂_yields_congr (h : List.Forall₂ SamePoint items mid) :
    List.Forall₂ Yields items arrived ↔ List.Forall₂ Yields mid arrived := by
  induction h generalizing arrived with
  | nil => rfl
  | cons hsame _ ih =>
    rw [List.forall₂_cons_left_iff, List.forall₂_cons_left_iff]
    simp only [hsame.yields_iff, ih]

theorem exists_seconds (h : List.Forall₂ Yields items arrived) {s : Sample} (hs : s ∈ arrived) :
    ∃ n : Int64, s.millis.toInt = n.toInt * 1000 := by
  induction h with
  | nil => cases hs
  | cons hy _ ih =>
    rcases List.mem_cons.mp hs with rfl | hs
    · obtain ⟨p, -, ⟨n, -, hm⟩, -⟩ := hy
      exact ⟨n, hm⟩
    · exact ih hs

theorem Reordered.symm (ho : Reordered items items') : Reordered items' items :=
  ⟨ho.perm.symm, fun n => (ho.stable n).symm⟩

/-- Items in another order yield their samples in another order, equal times as before. -/
theorem Reordered.yields (ho : Reordered items items') (h : List.Forall₂ Yields items arrived) :
    ∃ arrived', List.Forall₂ Yields items' arrived' ∧
      ∀ m, arrived'.filter (fun s => s.millis = m) = arrived.filter fun s => s.millis = m := by
  obtain ⟨arrived', harrived, hperm⟩ := List.perm_comp_forall₂ ho.perm h
  refine ⟨arrived', harrived, fun m => ?_⟩
  by_cases hany : ∃ s ∈ arrived, s.millis = m
  · obtain ⟨s, hs, rfl⟩ := hany
    obtain ⟨n, hn⟩ := exists_seconds h hs
    have hold := yields_filter h hn
    rw [← ho.stable n] at hold
    exact List.right_unique_forall₂' rightUnique_yields (yields_filter harrived hn) hold
  -- A time that no sample has is not to be found in any order.
  · have hnone : arrived.filter (fun s => s.millis = m) = [] :=
      List.filter_eq_nil_iff.mpr fun s hs he => hany ⟨s, hs, of_decide_eq_true he⟩
    have hfilter := hperm.filter fun s => decide (s.millis = m)
    rw [hnone] at hfilter ⊢
    exact hfilter.eq_nil

/-! ### The series -/

theorem normalize_wrap (e : Envelope) (h : List.Forall₂ Yields items arrived) :
    normalize (e.wrap d items) d =
      { samples := arrived.mergeSort fun a b => a.millis ≤ b.millis } := by
  rcases normalize_cases (e.wrap d items) d with ⟨arrived', harrived, hn⟩ | ⟨hnone, -⟩
  · rw [arrives_wrap_iff] at harrived
    rw [hn, List.right_unique_forall₂' rightUnique_yields harrived h]
  · exact absurd ⟨arrived, (arrives_wrap_iff e).mpr h⟩ hnone

theorem normalize_wrap_malformed (e : Envelope)
    (h : ¬ ∃ arrived, List.Forall₂ Yields items arrived) :
    ∃ reason, normalize (e.wrap d items) d =
      { diagnostic := some (.malformedTelemetry reason) } := by
  rcases normalize_cases (e.wrap d items) d with ⟨arrived, harrived, -⟩ | ⟨-, hn⟩
  · exact absurd ⟨arrived, (arrives_wrap_iff e).mp harrived⟩ h
  · exact hn

/-- How a backend wraps the points of a device, how it writes each of them and its time, and the
order it sends those of different times in make no difference to the samples, nor to whether there
are any: there are where every item yields one, and then they are these, sorted. -/
theorem normalize_spelling (d : Address) (e e' : Envelope) {items mid items' : List Json}
    (hs : List.Forall₂ SamePoint items mid) (ho : Reordered mid items') :
    let series := normalize (e.wrap d items) d
    let series' := normalize (e'.wrap d items') d
    series.samples = series'.samples ∧ series.isMalformed = series'.isMalformed ∧
      (series.isMalformed = false ↔ ∃ arrived, List.Forall₂ Yields items arrived) ∧
      ∀ arrived, List.Forall₂ Yields items arrived → IsStableSort arrived series.samples := by
  intro series series'
  by_cases h : ∃ arrived, List.Forall₂ Yields items arrived
  · have hall := h
    obtain ⟨arrived, harrived⟩ := h
    obtain ⟨arrived', harrived', hfilter⟩ := ho.yields ((forall₂_yields_congr hs).mp harrived)
    have hsort := IsStableSort.mergeSort arrived
    have hsort' := IsStableSort.mergeSort arrived'
    dsimp only [series, series']
    rw [normalize_wrap e harrived, normalize_wrap e' harrived']
    refine ⟨eq_of_filter_eq hsort.ascending hsort'.ascending fun m => ?_, rfl,
      iff_of_true rfl hall, fun other hother => ?_⟩
    · rw [hsort.stable, hsort'.stable, hfilter]
    · rw [List.right_unique_forall₂' rightUnique_yields hother harrived]
      exact hsort
  · have h' : ¬ ∃ arrived, List.Forall₂ Yields items' arrived := by
      rintro ⟨arrived', harrived'⟩
      obtain ⟨arrived, harrived, -⟩ := ho.symm.yields harrived'
      exact h ⟨arrived, (forall₂_yields_congr hs).mpr harrived⟩
    obtain ⟨_, hn⟩ := normalize_wrap_malformed (d := d) e h
    obtain ⟨_, hn'⟩ := normalize_wrap_malformed (d := d) e' h'
    dsimp only [series, series']
    rw [hn, hn']
    exact ⟨rfl, rfl, iff_of_false Bool.noConfusion h, fun arrived ha => absurd ⟨arrived, ha⟩ h⟩

/-- Two points as arrays, and the same two the other way round under the packed key, one of them an
object whose time is a padded text. -/
theorem normalize_spelling_padded :
    let late : Json := .obj [("value", .int 1), ("timestamp", .str " +05\t")]
    let early : Json := .arr [.int 3, .int 2]
    let bare : Json := .arr [.arr [.int 5, .int 1], early]
    let packed : Json := .obj [("data", .obj [("7", .arr [early, late])])]
    (normalize bare ⟨7⟩).samples = (normalize packed ⟨7⟩).samples ∧
      (normalize bare ⟨7⟩).isMalformed = (normalize packed ⟨7⟩).isMalformed := by
  intro late early bare packed
  have htext : SpellsTime 5 (.str " +05\t") :=
    @SpellsTime.text 5 [' '] ['+', '0', '5'] ['\t'] (List.forall_mem_singleton.mpr (by decide))
      (readInt?_iff.mp (by decide)) (List.forall_mem_singleton.mpr (by decide))
  have hlate : SamePoint (.arr [.int 5, .int 1]) late :=
    .inr ⟨_, _, _, .pair, .record rfl rfl, .inr ⟨5, .number, htext⟩⟩
  have ho : Reordered [late, early] [early, late] := by
    refine ⟨.swap late early [], fun n => ?_⟩
    by_cases h5 : HasTime n late
    · have h3 : ¬ HasTime n early := by
        intro h
        have hfive : n = 5 := (Except.ok.inj (hasTime_iff.mpr h5)).symm
        have hthree : n = 3 := (Except.ok.inj (hasTime_iff.mpr h)).symm
        exact absurd (hfive.symm.trans hthree) (by decide)
      simp [h5, h3]
    · simp [List.filter_cons, h5]
  obtain ⟨hsamples, hmalformed, -⟩ :=
    normalize_spelling ⟨7⟩ .bare .packed (.cons hlate (.cons (.inl rfl) .nil)) ho
  exact ⟨hsamples, hmalformed⟩

end DeviceConsole
