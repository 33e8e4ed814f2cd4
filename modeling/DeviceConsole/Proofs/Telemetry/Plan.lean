import DeviceConsole.Proofs.Telemetry.Window
import DeviceConsole.Wire.Query
import Mathlib.Data.List.Induction
import Mathlib.Data.List.Nodup

/-! Query plans. Whatever steps a plan is made by, what it asks for is told by the devices in order
of first mention and by the last value given for each other field, and a plan fails or makes its
queries by these alone. -/
namespace DeviceConsole

namespace QueryPlan

/-! ### Steps -/

inductive Field where
  | devices | duration | aggregation | counters
deriving DecidableEq, Repr

/-- A change of one field of a plan. -/
inductive Step where
  | device (a : Address)
  | duration (seconds : Int64)
  | preset (p : DurationPreset)
  | aggregation (m : Aggregation)
  | counters (cs : List UInt16)
deriving DecidableEq, Repr

namespace Step

def apply (p : QueryPlan) : Step → QueryPlan
  | device a => p.addDevice a
  | duration seconds => p.withDuration seconds
  | preset q => p.withPreset q
  | aggregation m => p.withAggregation m
  | counters cs => p.withCounters cs

def field : Step → Field
  | device _ => .devices
  | duration _ => .duration
  | preset _ => .duration
  | aggregation _ => .aggregation
  | counters _ => .counters

def device? : Step → Option Address
  | device a => some a
  | _ => none

def duration? : Step → Option Int64
  | duration seconds => some seconds
  | preset q => some q.seconds
  | _ => none

def aggregation? : Step → Option Aggregation
  | aggregation m => some m
  | _ => none

def counters? : Step → Option (List UInt16)
  | counters cs => some cs
  | _ => none

variable {s : Step}

theorem device?_eq_none (h : s.field ≠ .devices) : s.device? = none := by
  cases s with
  | device a => exact absurd rfl h
  | _ => rfl

theorem duration?_eq_none (h : s.field ≠ .duration) : s.duration? = none := by
  cases s with
  | duration seconds => exact absurd rfl h
  | preset q => exact absurd rfl h
  | _ => rfl

theorem aggregation?_eq_none (h : s.field ≠ .aggregation) : s.aggregation? = none := by
  cases s with
  | aggregation m => exact absurd rfl h
  | _ => rfl

theorem counters?_eq_none (h : s.field ≠ .counters) : s.counters? = none := by
  cases s with
  | counters cs => exact absurd rfl h
  | _ => rfl

end Step

/-- A plan for one device, or the default one. -/
def start : Option Address → QueryPlan
  | some device => .ofDevice device
  | none => {}

def run (p : QueryPlan) (steps : List Step) : QueryPlan := steps.foldl Step.apply p

/-- What steps tell of a plan: the devices in order of first mention, and of every other field the
last value, or the default where there is none. -/
def told (first : Option Address) (steps : List Step) : QueryPlan where
  devices := (first.toList ++ steps.filterMap Step.device?).eraseDups
  duration := (steps.filterMap Step.duration?).getLast?.getD 3600
  aggregation := (steps.filterMap Step.aggregation?).getLast?.getD .avg
  counters := (steps.filterMap Step.counters?).getLast?.getD [1, 2]

variable {p : QueryPlan} {now : Int64}

/-! ### What steps tell -/

theorem eraseDups_concat (as : List Address) (a : Address) :
    (as ++ [a]).eraseDups = if a ∈ as.eraseDups then as.eraseDups else as.eraseDups ++ [a] := by
  rw [List.eraseDups_append, List.removeAll, List.filter_singleton]
  by_cases h : a ∈ as <;> simp [h, List.eraseDups_cons]

theorem nodup_eraseDups (as : List Address) : as.eraseDups.Nodup := by
  induction as using List.reverseRecOn with
  | nil => exact List.nodup_nil
  | append_singleton as a ih =>
    rw [eraseDups_concat]
    split
    · exact ih
    · rename_i h
      exact List.nodup_append'.mpr ⟨ih, List.nodup_singleton a, by simpa using h⟩

theorem addDevice_eq (p : QueryPlan) (a : Address) : p.addDevice a =
    { p with devices := if a ∈ p.devices then p.devices else p.devices ++ [a] } := by
  rw [addDevice]
  split <;> rfl

theorem told_concat (first : Option Address) (steps : List Step) (s : Step) :
    told first (steps ++ [s]) = s.apply (told first steps) := by
  cases s with
  | device a =>
    have hdevices : first.toList ++ (steps ++ [Step.device a]).filterMap Step.device? =
        (first.toList ++ steps.filterMap Step.device?) ++ [a] := by
      rw [List.filterMap_append, ← List.append_assoc]
      rfl
    rw [Step.apply, addDevice_eq, told, hdevices, eraseDups_concat]
    simp [told, List.filterMap_cons, Step.duration?, Step.aggregation?, Step.counters?]
  | _ =>
    simp [told, Step.apply, withPreset, withDuration, withAggregation, withCounters,
      List.filterMap_cons, Step.device?, Step.duration?, Step.aggregation?, Step.counters?]

/-- A plan is what its steps tell. -/
theorem run_start (first : Option Address) (steps : List Step) :
    (start first).run steps = told first steps := by
  induction steps using List.reverseRecOn with
  | nil => cases first <;> rfl
  | append_singleton steps s ih =>
    rw [told_concat, ← ih, run, run, List.foldl_append, List.foldl_cons, List.foldl_nil]

/-- Neighbouring steps on different fields may change places. -/
theorem told_swap (first : Option Address) (before after : List Step) {s t : Step}
    (h : s.field ≠ t.field) :
    told first (before ++ s :: t :: after) = told first (before ++ t :: s :: after) := by
  -- What is read of one field is read of one of the two steps at most.
  have hswap {α : Type} {f : Step → Option α} {F : Field} (hf : ∀ {u}, u.field ≠ F → f u = none) :
      (before ++ s :: t :: after).filterMap f = (before ++ t :: s :: after).filterMap f := by
    by_cases hs : s.field = F
    · have ht : f t = none := hf (hs ▸ h.symm)
      simp [List.filterMap_cons, ht]
    · simp [List.filterMap_cons, hf hs]
  rw [told, told, hswap Step.device?_eq_none, hswap Step.duration?_eq_none,
    hswap Step.aggregation?_eq_none, hswap Step.counters?_eq_none]

/-! ### Queries -/

/-- Why a plan makes no queries: the first of the causes that holds. -/
inductive Fails (p : QueryPlan) (now : Int64) : ConsoleError → Prop
  | noDevice (hdevices : p.devices = []) :
      Fails p now (.invalidInput "telemetry query needs at least one device")
  | noCounter (hdevices : p.devices ≠ []) (hcounters : p.counters = []) :
      Fails p now (.invalidInput "telemetry query needs at least one counter")
  | noWindow (hdevices : p.devices ≠ []) (hcounters : p.counters ≠ [])
      (hinvalid : TimeWindow.Invalid now p.duration) :
      Fails p now (.invalidWindow (TimeWindow.saturatingSub now p.duration) now)

/-- The window ends at the given time and starts the duration before, or at the least time there
is. It is not empty, and 64 bits hold its length. -/
structure IsWindow (now duration : Int64) (w : TimeWindow) : Prop where
  stop : w.stop = now
  start : w.start.toInt = max (now.toInt - duration.toInt) Int64.minValue.toInt
  start_lt_stop : w.start.toInt < w.stop.toInt
  length_le : w.stop.toInt - w.start.toInt ≤ Int64.maxValue.toInt

/-- A duration to pick from has its own interval, any other the finest. -/
structure IsInterval (duration : Int64) (interval : UInt32) : Prop where
  preset : ∀ q : DurationPreset, q.seconds = duration → interval = q.interval
  other : (∀ q : DurationPreset, q.seconds ≠ duration) → interval = 1

/-- One query for each counter in order, all over one window and with one interval. -/
structure Makes (p : QueryPlan) (now : Int64) (queries : List TelemetryQuery) : Prop where
  devices_ne_nil : p.devices ≠ []
  counters_ne_nil : p.counters ≠ []
  valid : ¬ TimeWindow.Invalid now p.duration
  exists_window : ∃ window interval, IsWindow now p.duration window ∧
    IsInterval p.duration interval ∧ queries = p.counters.map fun counter =>
      { window, devices := p.devices, aggregation := p.aggregation, interval, counter }

/-- The request of a query: its numbers as they are, its aggregation on both axes. -/
structure IsRequest (q : TelemetryQuery) (j : Json) : Prop where
  start : j.field? "from" = some (.int q.window.start.toInt)
  stop : j.field? "to" = some (.int q.window.stop.toInt)
  objects : j.field? "object_ids" = some (.arr (q.devices.map fun a => .int a.toNat))
  vertical : j.field? "vertical_aggregation" = some (.str q.aggregation.text)
  horizontal : j.field? "horizontal_aggregation" = some (.str q.aggregation.text)
  interval : j.field? "interval" = some (.int q.interval.toNat)
  counter : j.field? "counter_id" = some (.int q.counter.toNat)

theorem isInterval (duration : Int64) : IsInterval duration (intervalFor duration) where
  preset := by
    rintro q rfl
    rfl
  other h := by
    have h6 : duration ≠ 21600 := (h .last6Hours).symm
    have h24 : duration ≠ 86400 := (h .last24Hours).symm
    have h2 : duration ≠ 172800 := (h .last2Days).symm
    have h7 : duration ≠ 604800 := (h .last7Days).symm
    simp [intervalFor, h6, h24, h2, h7]

theorem IsInterval.unique {duration : Int64} {i j : UInt32} (hi : IsInterval duration i)
    (hj : IsInterval duration j) : i = j := by
  by_cases h : ∃ q : DurationPreset, q.seconds = duration
  · obtain ⟨q, hq⟩ := h
    rw [hi.preset q hq, hj.preset q hq]
  · have hother : ∀ q : DurationPreset, q.seconds ≠ duration := fun q hq => h ⟨q, hq⟩
    rw [hi.other hother, hj.other hother]

theorem isWindow {duration : Int64} {w : TimeWindow} (hstop : w.stop = now)
    (hstart : w.start.toInt = max (now.toInt - duration.toInt) Int64.minValue.toInt) :
    IsWindow now duration w := by
  refine ⟨hstop, hstart, Int64.lt_iff_toInt_lt.mp w.start_lt_stop, ?_⟩
  have hduration := duration.toInt_lt
  rw [hstop, hstart, Int64.toInt_minValue, Int64.toInt_maxValue]
  omega

theorem IsWindow.unique {duration : Int64} {v w : TimeWindow} (hv : IsWindow now duration v)
    (hw : IsWindow now duration w) : v = w := by
  have hstart : v.start = w.start := Int64.toInt_inj.mp (hv.start.trans hw.start.symm)
  have hstop : v.stop = w.stop := hv.stop.trans hw.stop.symm
  cases v
  cases w
  simp_all

theorem Makes.unique {qs rs : List TelemetryQuery} (hq : p.Makes now qs) (hr : p.Makes now rs) :
    qs = rs := by
  obtain ⟨v, i, hv, hi, rfl⟩ := hq.exists_window
  obtain ⟨w, j, hw, hj, rfl⟩ := hr.exists_window
  rw [hv.unique hw, hi.unique hj]

theorem Makes.not_fails {qs : List TelemetryQuery} {e : ConsoleError} (h : p.Makes now qs) :
    ¬ p.Fails now e := by
  rintro (hdevices | ⟨-, hcounters⟩ | ⟨-, -, hinvalid⟩)
  · exact h.devices_ne_nil hdevices
  · exact h.counters_ne_nil hcounters
  · exact h.valid hinvalid

theorem Fails.unique {e e' : ConsoleError} (h : p.Fails now e) (h' : p.Fails now e') : e = e' := by
  cases h with
  | noDevice hd =>
    cases h' with
    | noDevice => rfl
    | noCounter hd' => exact absurd hd hd'
    | noWindow hd' => exact absurd hd hd'
  | noCounter hd hc =>
    cases h' with
    | noDevice hd' => exact absurd hd' hd
    | noCounter => rfl
    | noWindow _ hc' => exact absurd hc hc'
  | noWindow hd hc =>
    cases h' with
    | noDevice hd' => exact absurd hd' hd
    | noCounter _ hc' => exact absurd hc' hc
    | noWindow => rfl

/-- A plan fails for a reason or makes its queries. -/
theorem build_cases (p : QueryPlan) (now : Int64) :
    (∃ e, p.Fails now e ∧ p.build now = .error e) ∨
      ∃ qs, p.Makes now qs ∧ p.build now = .ok qs := by
  rw [build]
  split
  · rename_i hd
    exact .inl ⟨_, .noDevice (List.isEmpty_iff.mp hd), rfl⟩
  · rename_i hd
    have hdevices : p.devices ≠ [] := fun h => hd (List.isEmpty_iff.mpr h)
    split
    · rename_i hc
      exact .inl ⟨_, .noCounter hdevices (List.isEmpty_iff.mp hc), rfl⟩
    · rename_i hc
      have hcounters : p.counters ≠ [] := fun h => hc (List.isEmpty_iff.mpr h)
      rcases TimeWindow.endingAt_cases now p.duration with
        ⟨hinvalid, herror⟩ | ⟨hvalid, w, hok, hstop, hstart⟩
      · exact .inl ⟨_, .noWindow hdevices hcounters hinvalid, by rw [herror]; rfl⟩
      · exact .inr ⟨_, ⟨hdevices, hcounters, hvalid, w, _, isWindow hstop hstart,
          isInterval p.duration, rfl⟩, by rw [hok]; rfl⟩

theorem build_eq_error_iff {e : ConsoleError} : p.build now = .error e ↔ p.Fails now e := by
  rcases p.build_cases now with ⟨e', hfails, herror⟩ | ⟨qs, hmakes, hok⟩
  · rw [herror, Except.error.injEq]
    exact ⟨fun h => h ▸ hfails, hfails.unique⟩
  · rw [hok]
    exact iff_of_false (by rintro ⟨⟩) hmakes.not_fails

theorem build_eq_ok_iff {qs : List TelemetryQuery} : p.build now = .ok qs ↔ p.Makes now qs := by
  rcases p.build_cases now with ⟨e, hfails, herror⟩ | ⟨rs, hmakes, hok⟩
  · rw [herror]
    exact iff_of_false (by rintro ⟨⟩) fun h => h.not_fails hfails
  · rw [hok, Except.ok.injEq]
    exact ⟨fun h => h ▸ hmakes, hmakes.unique⟩

theorem exists_fails_iff : (∃ e, p.Fails now e) ↔
    p.devices = [] ∨ p.counters = [] ∨ p.duration ≤ 0 ∨ now = Int64.minValue := by
  constructor
  · rintro ⟨_, hdevices | ⟨-, hcounters⟩ | ⟨-, -, hinvalid⟩⟩
    · exact .inl hdevices
    · exact .inr (.inl hcounters)
    · exact .inr (.inr hinvalid)
  · intro h
    by_cases hdevices : p.devices = []
    · exact ⟨_, .noDevice hdevices⟩
    · by_cases hcounters : p.counters = []
      · exact ⟨_, .noCounter hdevices hcounters⟩
      · exact ⟨_, .noWindow hdevices hcounters
          ((h.resolve_left hdevices).resolve_left hcounters)⟩

theorem isRequest (q : TelemetryQuery) : IsRequest q (QueryBody.ofQuery q).toJson where
  start := rfl
  stop := rfl
  objects := congrArg (fun items => some (Json.arr items)) List.map_map
  vertical := rfl
  horizontal := rfl
  interval := rfl
  counter := rfl

/-- A plan is told by the devices its steps name, in order of first mention, and by the last value
of each other field, so that steps on different fields may change places. It fails without a device,
then without a counter, then without a window to ask for; otherwise it makes one query for each
counter, all over one window and with one interval, and a query is sent with its numbers as they are
and with its aggregation on both axes. -/
theorem build_run (first : Option Address) (now : Int64) :
    (∀ steps, (start first).run steps = told first steps) ∧
    (∀ before after (s t : Step), s.field ≠ t.field →
      (start first).run (before ++ s :: t :: after) =
        (start first).run (before ++ t :: s :: after)) ∧
    (∀ steps, let p := told first steps
      p.devices.Nodup ∧
      (∀ e, ((start first).run steps).build now = .error e ↔ p.Fails now e) ∧
      ((∃ e, ((start first).run steps).build now = .error e) ↔
        p.devices = [] ∨ p.counters = [] ∨ p.duration ≤ 0 ∨ now = Int64.minValue) ∧
      ∀ qs, ((start first).run steps).build now = .ok qs ↔ p.Makes now qs) ∧
    DurationPreset.all.map (fun q => (q.seconds, q.interval)) =
      [(3600, 1), (21600, 5), (86400, 10), (172800, 30), (604800, 30)] ∧
    ∀ q, IsRequest q (QueryBody.ofQuery q).toJson := by
  refine ⟨run_start first, fun before after s t h => ?_, fun steps => ?_, rfl, isRequest⟩
  · rw [run_start, run_start, told_swap first before after h]
  · simp only [run_start, build_eq_error_iff, build_eq_ok_iff, implies_true, and_true, true_and]
    exact ⟨nodup_eraseDups _, exists_fails_iff⟩

/-- Ten seconds after the least time there is, over a longer duration and without an interval of its
own; the device named again stays where it was first named. -/
theorem build_run_early :
    let near : Address := .ofOctets 10 0 0 1
    let far : Address := .ofOctets 10 0 0 2
    let now : Int64 := -9223372036854775798
    let steps : List Step := [.device near, .preset .last7Days, .counters [7, 9], .device far,
      .duration 999, .device near, .aggregation .max]
    (∃ w, w.start = Int64.minValue ∧ w.stop = now ∧ ((start none).run steps).build now =
      .ok [⟨w, [near, far], .max, 1, 7⟩, ⟨w, [near, far], .max, 1, 9⟩]) ∧
    (told none steps).Makes now [⟨⟨Int64.minValue, now, by decide⟩, [near, far], .max, 1, 7⟩,
      ⟨⟨Int64.minValue, now, by decide⟩, [near, far], .max, 1, 9⟩] ∧
    (start none).run [.duration 999, .device near] =
      (start none).run [.device near, .duration 999] ∧
    ((start none).run [.counters []]).build now =
      .error (.invalidInput "telemetry query needs at least one device") := by
  intro near far now steps
  obtain ⟨-, hswap, hbuild, -, -⟩ := build_run none now
  obtain ⟨-, -, -, hok⟩ := hbuild steps
  obtain ⟨-, herror, -, -⟩ := hbuild [.counters []]
  let w : TimeWindow := ⟨Int64.minValue, now, by decide⟩
  have hbuilt : ((start none).run steps).build now =
      .ok [⟨w, [near, far], .max, 1, 7⟩, ⟨w, [near, far], .max, 1, 9⟩] := by decide +kernel
  exact ⟨⟨w, rfl, rfl, hbuilt⟩, (hok _).mp hbuilt,
    hswap [] [] (.duration 999) (.device near) (by decide), (herror _).mpr (.noDevice rfl)⟩

end QueryPlan
end DeviceConsole
