import DeviceConsole.Proofs.Decimal
import DeviceConsole.Telemetry.Window
import Mathlib.Logic.Basic

/-! Windows over the whole range of 64 bits: which lengths make one that ends at a given time, and
which windows have a duration. -/
namespace DeviceConsole

theorem Decimal.toInt_ofInt_heldInt64 (i : Int) :
    (Int64.ofInt (heldInt64 i)).toInt = heldInt64 i := by
  have h : minInt64 ≤ heldInt64 i ∧ heldInt64 i ≤ maxInt64 := by
    unfold heldInt64
    split
    · decide
    · split
      · decide
      · omega
  exact toInt_of_int64? (if_pos h)

namespace TimeWindow

theorem toInt_saturatingSub (a b : Int64) :
    (saturatingSub a b).toInt = Decimal.heldInt64 (a.toInt - b.toInt) :=
  Decimal.toInt_ofInt_heldInt64 _

/-- No length or no past makes a window invalid. -/
def Invalid (now duration : Int64) : Prop := duration ≤ 0 ∨ now = Int64.minValue

instance (now duration : Int64) : Decidable (Invalid now duration) :=
  inferInstanceAs (Decidable (duration ≤ 0 ∨ now = Int64.minValue))

theorem saturatingSub_lt_iff {now duration : Int64} :
    saturatingSub now duration < now ↔ ¬ Invalid now duration := by
  have hnow := now.le_toInt
  have hlt := now.toInt_lt
  have hmin : now = Int64.minValue ↔ now.toInt = -9223372036854775808 := by
    rw [← Int64.toInt_inj, Int64.toInt_minValue]
    rfl
  rw [Int64.lt_iff_toInt_lt, toInt_saturatingSub, Invalid, hmin, Int64.le_iff_toInt_le]
  simp only [Decimal.heldInt64, Decimal.minInt64, Decimal.maxInt64, Int64.toInt_zero]
  omega

/-- The window of a length ends at the given time; its start is the exact difference, or the least
time there is where that lies before it. -/
theorem endingAt_cases (now duration : Int64) :
    (Invalid now duration ∧
      endingAt now duration = .error (.invalidWindow (saturatingSub now duration) now)) ∨
    (¬ Invalid now duration ∧ ∃ w, endingAt now duration = .ok w ∧ w.stop = now ∧
      w.start.toInt = max (now.toInt - duration.toInt) Int64.minValue.toInt) := by
  by_cases h : saturatingSub now duration < now
  · have hvalid := saturatingSub_lt_iff.mp h
    refine .inr ⟨hvalid, ⟨_, now, h⟩, dif_pos h, rfl, ?_⟩
    have hlt := now.toInt_lt
    have hpos : ¬ duration.toInt ≤ 0 := fun hd => hvalid (.inl (Int64.le_iff_toInt_le.mpr hd))
    rw [toInt_saturatingSub, Int64.toInt_minValue]
    simp only [Decimal.heldInt64, Decimal.minInt64, Decimal.maxInt64]
    omega
  · exact .inl ⟨by_contra fun hv => h (saturatingSub_lt_iff.mpr hv), dif_neg h⟩

/-- The lengths there are to pick from always make a window, unless there is no past. -/
theorem invalid_preset_iff {now : Int64} (preset : DurationPreset) :
    Invalid now preset.seconds ↔ now = Int64.minValue :=
  or_iff_right (by cases preset <;> decide)

/-! ### Durations -/

/-- The number of seconds, told without a bound. -/
def length (w : TimeWindow) : Int := w.stop.toInt - w.start.toInt

variable {w : TimeWindow} {start stop now duration n : Int64}

theorem length_pos (w : TimeWindow) : 0 < w.length := by
  have hlt := Int64.lt_iff_toInt_lt.mp w.start_lt_stop
  rw [length]
  omega

theorem ofBounds_eq_ok_iff : ofBounds start stop = .ok w ↔ w.start = start ∧ w.stop = stop := by
  constructor
  · intro h
    unfold ofBounds at h
    split at h
    · cases h
      exact ⟨rfl, rfl⟩
    · cases h
  · rintro ⟨rfl, rfl⟩
    exact dif_pos w.start_lt_stop

theorem duration?_eq_some_iff : w.duration? = some n ↔ n.toInt = w.length :=
  Decimal.int64?_eq_some_iff

theorem duration?_eq_none_iff : w.duration? = none ↔ Int64.maxValue.toInt < w.length := by
  have hpos := w.length_pos
  rw [duration?, Decimal.int64?_eq_none_iff, ← length, Int64.toInt_maxValue]
  simp only [Decimal.minInt64, Decimal.maxInt64]
  omega

/-- A length that 64 bits do not hold is told by the sign of the difference that wraps around. -/
theorem sub_neg_iff : w.stop - w.start < 0 ↔ Int64.maxValue.toInt < w.length := by
  have hpos := w.length_pos
  have hlt : w.length < 18446744073709551616 := by
    have hstart := w.start.le_toInt
    have hstop := w.stop.toInt_lt
    rw [length]
    omega
  rw [Int64.lt_iff_toInt_lt, Int64.toInt_sub, ← length, Int64.toInt_zero, Int64.toInt_maxValue,
    Int.bmod_def]
  omega

/-- The length that was asked for, or all the past there is. -/
theorem length_of_endingAt (h : endingAt now duration = .ok w) :
    w.length = min duration.toInt (now.toInt - Int64.minValue.toInt) := by
  rcases endingAt_cases now duration with ⟨-, herror⟩ | ⟨-, v, hv, hstop, hstart⟩
  · cases herror.symm.trans h
  · obtain rfl : v = w := Except.ok.inj (hv.symm.trans h)
    rw [length, hstop, hstart]
    omega

/-- The duration that is asked for is itself a number of 64 bits, so 64 bits hold what there is
of it. -/
theorem duration?_of_endingAt (h : endingAt now duration = .ok w) :
    ∃ n, w.duration? = some n ∧ n.toInt = w.length := by
  have hlength := length_of_endingAt h
  have hlt := duration.toInt_lt
  cases hn : w.duration? with
  | none =>
    rw [duration?_eq_none_iff, Int64.toInt_maxValue] at hn
    omega
  | some n => exact ⟨n, rfl, duration?_eq_some_iff.mp hn⟩

/-- The duration of a window with given bounds is their exact difference, which is positive, except
where 64 bits do not hold it: such a window has no duration, and the difference that wraps around is
negative. A window that ends at a given time always has one: the duration that was asked for, unless
that reaches back before the least time there is, and then less. -/
theorem duration_exact (start stop now duration : Int64) :
    ((∃ w, ofBounds start stop = .ok w) ↔ start < stop) ∧
    (∀ w, ofBounds start stop = .ok w →
      0 < stop.toInt - start.toInt ∧
      (∀ n, w.duration? = some n ↔ n.toInt = stop.toInt - start.toInt) ∧
      (w.duration? = none ↔ Int64.maxValue.toInt < stop.toInt - start.toInt) ∧
      (w.duration? = none ↔ stop - start < 0)) ∧
    ∀ w, endingAt now duration = .ok w →
      ∃ n, w.duration? = some n ∧ n.toInt = w.stop.toInt - w.start.toInt ∧ 0 < n ∧
        (Int64.minValue.toInt ≤ now.toInt - duration.toInt → n = duration) ∧
        (now.toInt - duration.toInt < Int64.minValue.toInt → n < duration) := by
  refine ⟨⟨?_, fun h => ⟨_, dif_pos h⟩⟩, fun w hw => ?_, fun w hw => ?_⟩
  · rintro ⟨w, hw⟩
    obtain ⟨rfl, rfl⟩ := ofBounds_eq_ok_iff.mp hw
    exact w.start_lt_stop
  · obtain ⟨rfl, rfl⟩ := ofBounds_eq_ok_iff.mp hw
    exact ⟨w.length_pos, fun n => duration?_eq_some_iff, duration?_eq_none_iff,
      duration?_eq_none_iff.trans sub_neg_iff.symm⟩
  · have hlength := length_of_endingAt hw
    obtain ⟨n, hn, hexact⟩ := duration?_of_endingAt hw
    refine ⟨n, hn, hexact, ?_, fun h => ?_, fun h => ?_⟩
    · rw [Int64.lt_iff_toInt_lt, hexact]
      exact w.length_pos
    · rw [← Int64.toInt_inj]
      omega
    · rw [Int64.lt_iff_toInt_lt]
      omega

/-- The longest window with a duration and the one that is a second longer, both from the least time
there is; and two windows that end at a time, one of them ten seconds behind that least time. -/
theorem duration_exact_longest :
    (∃ w, ofBounds Int64.minValue (-1) = .ok w ∧ w.duration? = some Int64.maxValue) ∧
    (∃ w, ofBounds Int64.minValue 0 = .ok w ∧ w.duration? = none) ∧
    (∃ w, endingAt 10000 3600 = .ok w ∧ w.duration? = some 3600) ∧
    ∃ w n, endingAt (-9223372036854775798) 604800 = .ok w ∧ w.duration? = some n ∧ n < 604800 := by
  have hhour : endingAt 10000 3600 = .ok ⟨6400, 10000, by decide⟩ := rfl
  have hearly : endingAt (-9223372036854775798) 604800 =
      .ok ⟨Int64.minValue, -9223372036854775798, by decide⟩ := rfl
  obtain ⟨hlongest, hexact, hasked⟩ := duration_exact Int64.minValue (-1) 10000 3600
  obtain ⟨hlonger, hnone, hreached⟩ :=
    duration_exact Int64.minValue 0 (-9223372036854775798) 604800
  obtain ⟨w, hw⟩ := hlongest.mpr (by decide)
  obtain ⟨v, hv⟩ := hlonger.mpr (by decide)
  obtain ⟨-, hsome, -, -⟩ := hexact w hw
  obtain ⟨-, -, hoverflow, -⟩ := hnone v hv
  obtain ⟨n, hn, -, -, hwhole, -⟩ := hasked _ hhour
  obtain ⟨m, hm, -, -, -, hless⟩ := hreached _ hearly
  obtain rfl : n = 3600 := hwhole (by decide)
  exact ⟨⟨w, hw, (hsome _).mpr (by decide)⟩, ⟨v, hv, hoverflow.mpr (by decide)⟩, ⟨_, hhour, hn⟩,
    _, m, hearly, hm, hless (by decide)⟩

/-- A second before the epoch to the last time there is: the bounds make a window, and its exact
length is one more than 64 bits hold. -/
theorem duration_overflows :
    ∃ w, ofBounds (-1) Int64.maxValue = .ok w ∧ w.length = 9223372036854775808 ∧
      w.duration? = none ∧ w.stop - w.start = Int64.minValue :=
  ⟨⟨-1, Int64.maxValue, by decide⟩, rfl, by decide, by decide, by decide⟩

end TimeWindow
end DeviceConsole
