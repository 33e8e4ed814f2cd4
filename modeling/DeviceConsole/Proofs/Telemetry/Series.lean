import DeviceConsole.Proofs.Sorting
import DeviceConsole.Proofs.Telemetry.Body

/-! What a series is made of: the points of a device in milliseconds, sorted by time with equal
times in order of arrival, or nothing but a diagnostic. -/
namespace DeviceConsole

/-- A decimal literal: digits with an optional sign. -/
inductive IsLiteral : List Char → Int → Prop
  | plain {ds : List Char} (digits : Decimal.isDigits ds = true) :
      IsLiteral ds (Nat.ofDigitChars 10 ds 0)
  | plus {ds : List Char} (digits : Decimal.isDigits ds = true) :
      IsLiteral ('+' :: ds) (Nat.ofDigitChars 10 ds 0)
  | minus {ds : List Char} (digits : Decimal.isDigits ds = true) :
      IsLiteral ('-' :: ds) (-(Nat.ofDigitChars 10 ds 0 : Int))

/-- The number of seconds a timestamp denotes: itself, or the literal that is left of a text when
the blanks around it are gone. -/
inductive Denotes : RawTime → Int64 → Prop
  | seconds (n : Int64) : Denotes (.seconds n) n
  | text {s : String} {n : Int64} (literal : IsLiteral (Text.trimChars s.toList) n.toInt) :
      Denotes (.text s) n

/-- The sample of a point: its time in milliseconds, its value as it is. -/
def IsSample (p : RawPoint) (s : Sample) : Prop :=
  (∃ n, Denotes p.time n ∧ s.millis.toInt = n.toInt * 1000) ∧ s.value = p.value

/-- The samples a body has for a device, in order of arrival. Every point of the body has to be
one, but only those of the device need a time. -/
def Arrives (raw : Json) (d : Address) (arrived : List Sample) : Prop :=
  ∃ all own points, Holds d raw all own ∧ (∀ j ∈ all, ∃ p, IsPoint j p) ∧
    List.Forall₂ IsPoint own points ∧ List.Forall₂ IsSample points arrived

/-- Ascending in time, equal times in the order they had. -/
structure IsStableSort (arrived sorted : List Sample) : Prop where
  perm : sorted.Perm arrived
  ascending : sorted.Pairwise fun a b => a.millis ≤ b.millis
  stable : ∀ m, sorted.filter (fun s => s.millis = m) = arrived.filter fun s => s.millis = m

theorem readInt?_iff {cs : List Char} {i : Int} :
    Decimal.readInt? cs = some i ↔ IsLiteral cs i := by
  have hread {ds : List Char} (hd : Decimal.isDigits ds = true) :
      Decimal.readDigits? ds = some (Nat.ofDigitChars 10 ds 0) :=
    Decimal.readDigits?_eq_some_iff.mpr ⟨hd, rfl⟩
  constructor
  · intro h
    unfold Decimal.readInt? at h
    split at h
    · obtain ⟨_, hbind, rfl⟩ := Option.map_eq_some_iff.mp h
      obtain ⟨n, hn, he⟩ := Option.bind_eq_some_iff.mp hbind
      obtain ⟨hd, rfl⟩ := Decimal.readDigits?_eq_some_iff.mp hn
      cases he
      exact .minus hd
    · obtain ⟨n, hn, rfl⟩ := Option.map_eq_some_iff.mp h
      obtain ⟨hd, rfl⟩ := Decimal.readDigits?_eq_some_iff.mp hn
      exact .plus hd
    · obtain ⟨n, hn, rfl⟩ := Option.map_eq_some_iff.mp h
      obtain ⟨hd, rfl⟩ := Decimal.readDigits?_eq_some_iff.mp hn
      exact .plain hd
  · intro h
    cases h with
    | plus hd => simp [Decimal.readInt?, hread hd]
    | minus hd => simp [Decimal.readInt?, hread hd]
    | plain hd =>
      unfold Decimal.readInt?
      split
      · simp [Decimal.isDigits] at hd
      · simp [Decimal.isDigits] at hd
      · simp [hread hd]

theorem RawTime.toSeconds_iff {time : RawTime} {n : Int64} :
    time.toSeconds = .ok n ↔ Denotes time n := by
  constructor
  · intro h
    cases time with
    | seconds m =>
      cases h
      exact .seconds n
    | text s =>
      cases hr : Decimal.readInt64? (Text.trimChars s.toList) with
      | none => simp [toSeconds, hr] at h
      | some m =>
        obtain rfl : m = n := by simpa [toSeconds, hr] using h
        obtain ⟨i, hi, hm⟩ := Option.bind_eq_some_iff.mp hr
        rw [← Decimal.toInt_of_int64? hm] at hi
        exact .text (readInt?_iff.mp hi)
  · intro h
    cases h with
    | seconds => rfl
    | @text s _ hl =>
      simp [toSeconds, Decimal.readInt64?, readInt?_iff.mpr hl, Decimal.int64?_toInt]

theorem Denotes.unique {time : RawTime} {n m : Int64} (h : Denotes time n) (h' : Denotes time m) :
    n = m := by
  rw [← RawTime.toSeconds_iff] at h h'
  exact Except.ok.inj (h.symm.trans h')

theorem RawPoint.toSample_iff {p : RawPoint} {s : Sample} :
    p.toSample = .ok s ↔ IsSample p s := by
  constructor
  · intro h
    unfold toSample at h
    cases hn : p.time.toSeconds with
    | error e => simp [hn] at h
    | ok n =>
      cases hm : Decimal.int64? (n.toInt * 1000) with
      | none => simp [hn, hm] at h
      | some m =>
        obtain rfl : (⟨m, p.value⟩ : Sample) = s := by simpa [hn, hm] using h
        exact ⟨⟨n, RawTime.toSeconds_iff.mp hn, Decimal.toInt_of_int64? hm⟩, rfl⟩
  · rintro ⟨⟨n, hn, hm⟩, hv⟩
    obtain ⟨m, v⟩ := s
    obtain rfl : v = p.value := hv
    have hint : Decimal.int64? (n.toInt * 1000) = some m := Decimal.int64?_eq_some_iff.mpr hm
    simp [toSample, RawTime.toSeconds_iff.mpr hn, hint]

theorem IsSample.unique {p : RawPoint} {s s' : Sample} (h : IsSample p s) (h' : IsSample p s') :
    s = s' := by
  rw [← RawPoint.toSample_iff] at h h'
  exact Except.ok.inj (h.symm.trans h')

theorem arrives_iff {raw : Json} {d : Address} {arrived : List Sample} :
    (∃ body, TelemetryBody.ofJson raw = .ok body ∧
      (body.pointsFor d).mapM RawPoint.toSample = .ok arrived) ↔ Arrives raw d arrived := by
  have hsamples {ps : List RawPoint} :
      ps.mapM RawPoint.toSample = .ok arrived ↔ List.Forall₂ IsSample ps arrived := by
    rw [mapM_ok_iff]
    simp only [RawPoint.toSample_iff]
  constructor
  · rintro ⟨body, hbody, hs⟩
    obtain ⟨all, own, hholds, hall, hown⟩ :=
      TelemetryBody.ofJson_pointsFor_iff.mp ⟨body, hbody, rfl⟩
    exact ⟨all, own, _, hholds, hall, hown, hsamples.mp hs⟩
  · rintro ⟨all, own, points, hholds, hall, hown, hs⟩
    obtain ⟨body, hbody, rfl⟩ :=
      TelemetryBody.ofJson_pointsFor_iff.mpr ⟨all, own, hholds, hall, hown⟩
    exact ⟨body, hbody, hsamples.mpr hs⟩

/-! ### Sorting -/

theorem IsStableSort.mergeSort (arrived : List Sample) :
    IsStableSort arrived (arrived.mergeSort fun a b => a.millis ≤ b.millis) := by
  have h := StablySorted.mergeSort Sample.millis (fun _ _ => decide_eq_true_iff)
    (fun _ _ _ => Int64.le_trans) Int64.le_total arrived
  exact ⟨h.perm, h.ascending, h.stable⟩

/-- Two ascending lists that agree on the samples of each time are one list. -/
theorem eq_of_filter_eq {l l' : List Sample} (h : l.Pairwise fun a b => a.millis ≤ b.millis)
    (h' : l'.Pairwise fun a b => a.millis ≤ b.millis)
    (heq : ∀ m, l.filter (fun s => s.millis = m) = l'.filter fun s => s.millis = m) : l = l' := by
  have hmem (s : Sample) : s ∈ l ↔ s ∈ l' := by
    have := congrArg (s ∈ ·) (heq s.millis)
    simpa using this
  induction l generalizing l' with
  | nil =>
    cases l' with
    | nil => rfl
    | cons b bs => exact absurd ((hmem b).mpr (by simp)) (by simp)
  | cons a as ih =>
    cases l' with
    | nil => exact absurd ((hmem a).mp (by simp)) (by simp)
    | cons b bs =>
      obtain ⟨ha, has⟩ := List.pairwise_cons.mp h
      obtain ⟨hb, hbs⟩ := List.pairwise_cons.mp h'
      have hle : a.millis ≤ b.millis := by
        rcases List.mem_cons.mp ((hmem b).mpr (by simp)) with rfl | hin
        · exact Int64.le_refl _
        · exact ha b hin
      have hge : b.millis ≤ a.millis := by
        rcases List.mem_cons.mp ((hmem a).mp (by simp)) with rfl | hin
        · exact Int64.le_refl _
        · exact hb a hin
      have hm : a.millis = b.millis := Int64.le_antisymm hle hge
      obtain rfl : a = b := by
        have := heq a.millis
        simp only [List.filter_cons, hm, decide_true, ↓reduceIte, List.cons.injEq] at this
        exact this.1
      have htail (m : Int64) :
          as.filter (fun s => s.millis = m) = bs.filter fun s => s.millis = m := by
        have := heq m
        by_cases hma : a.millis = m <;> simpa [hma] using this
      rw [ih has hbs htail fun s => ?_]
      have := congrArg (s ∈ ·) (htail s.millis)
      simpa using this

theorem IsStableSort.unique {arrived l l' : List Sample} (h : IsStableSort arrived l)
    (h' : IsStableSort arrived l') : l = l' :=
  eq_of_filter_eq h.ascending h'.ascending fun m => (h.stable m).trans (h'.stable m).symm

/-! ### The series -/

/-- A series is the sorted samples that arrive, or where there are none to be had a diagnostic. -/
theorem normalize_cases (raw : Json) (d : Address) :
    (∃ arrived, Arrives raw d arrived ∧
      normalize raw d = { samples := arrived.mergeSort fun a b => a.millis ≤ b.millis }) ∨
    ((¬ ∃ arrived, Arrives raw d arrived) ∧
      ∃ reason, normalize raw d = { diagnostic := some (.malformedTelemetry reason) }) := by
  simp only [← arrives_iff, normalize]
  cases hbody : TelemetryBody.ofJson raw with
  | error e => simp [bind, Except.bind]
  | ok body =>
    cases hs : (body.pointsFor d).mapM RawPoint.toSample with
    | error e => simp [hs, TelemetryBody.samplesFor, bind, Except.bind, Except.map]
    | ok arrived => simp [hs, TelemetryBody.samplesFor, bind, Except.bind, Except.map]

theorem normalize_null (d : Address) : normalize .null d = {} := by
  simp [normalize, TelemetryBody.ofJson, TelemetryBody.samplesFor, TelemetryBody.pointsFor,
    bind, Except.bind, Except.map, pure, Except.pure]

/-- A body with a sample for each point of the device gives the stable sort of these samples; any
other gives an empty series and a reason. -/
theorem normalize_determined (raw : Json) (d : Address) :
    (∀ arrived, Arrives raw d arrived →
      (normalize raw d).diagnostic = none ∧ IsStableSort arrived (normalize raw d).samples) ∧
    ((¬ ∃ arrived, Arrives raw d arrived) →
      (normalize raw d).samples = [] ∧
        ∃ reason, (normalize raw d).diagnostic = some (.malformedTelemetry reason)) := by
  constructor
  · intro arrived h
    obtain ⟨body, hbody, hs⟩ := arrives_iff.mpr h
    have hn : normalize raw d =
        { samples := arrived.mergeSort fun a b => a.millis ≤ b.millis } := by
      simp [normalize, hbody, TelemetryBody.samplesFor, hs, bind, Except.bind, Except.map]
    rw [hn]
    exact ⟨rfl, .mergeSort arrived⟩
  · intro h
    unfold normalize
    split
    · rename_i samples hok
      refine absurd ?_ h
      cases hbody : TelemetryBody.ofJson raw with
      | error e => simp [hbody, bind, Except.bind] at hok
      | ok body =>
        cases hs : (body.pointsFor d).mapM RawPoint.toSample with
        | error e =>
          simp [hbody, TelemetryBody.samplesFor, hs, bind, Except.bind, Except.map] at hok
        | ok arrived => exact ⟨arrived, arrives_iff.mp ⟨body, hbody, hs⟩⟩
    · exact ⟨rfl, _, rfl⟩

/-- A point of five seconds and, after it, the text of three. The value of the first is five; that of
the second is the integer behind `2 ^ 53`, which rounds to it. -/
theorem normalize_determined_pair :
    let raw : Json := .arr [.arr [.int 5, .int 5], .arr [.str " 3", .int 9007199254740993]]
    let arrived : List Sample := [⟨5000, ⟨0x4014000000000000⟩⟩, ⟨3000, ⟨0x4340000000000000⟩⟩]
    Arrives raw ⟨7⟩ arrived ∧ (normalize raw ⟨7⟩).diagnostic = none ∧
      IsStableSort arrived (normalize raw ⟨7⟩).samples := by
  intro raw arrived
  have hfive : Binary64.ofInt 5 = ⟨0x4014000000000000⟩ := by decide +kernel
  have hgreat : Binary64.ofInt 9007199254740993 = ⟨0x4340000000000000⟩ := by decide +kernel
  have h : Arrives raw ⟨7⟩ arrived := by
    refine arrives_iff.mp
      ⟨.bare [⟨.seconds 5, .ofInt 5⟩, ⟨.text " 3", .ofInt 9007199254740993⟩], rfl, ?_⟩
    rw [hfive, hgreat]
    rfl
  exact ⟨h, (normalize_determined raw ⟨7⟩).1 arrived h⟩

end DeviceConsole
