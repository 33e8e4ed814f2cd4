import DeviceConsole.Binary64.Basic
import Mathlib.Algebra.Order.Field.Power
import Mathlib.Data.Rat.Cast.Order
import Mathlib.Tactic.FieldSimp
import Mathlib.Tactic.GCongr
import Mathlib.Tactic.Linarith
import Mathlib.Tactic.Positivity
import Mathlib.Tactic.Ring

/-! The numbers that doubles stand for, and rounding: what is made of a ratio is the double nearest
to it, of two equally near the one with an even last bit. -/
namespace DeviceConsole.Binary64

/-! ### Values -/

/-- A magnitude in units of the least positive double, by the layout of its bits: below `2 ^ 52` as
it is, else the lower 52 bits behind a one, scaled by the exponent above them. -/
def units (m : ℕ) : ℕ :=
  if m < 2 ^ 52 then m else (2 ^ 52 + m % 2 ^ 52) * 2 ^ (m / 2 ^ 52 - 1)

/-- The magnitude of infinity. -/
def limit : ℕ := 2047 * 2 ^ 52

/-- A finite double or an infinity. -/
def IsNumber (x : Binary64) : Prop := x.bits.toNat % 2 ^ 63 ≤ limit

/-- The number a double stands for. An infinity counts as the power of two behind the largest
double. -/
def toRat (x : Binary64) : ℚ :=
  (if x.bits.toNat < 2 ^ 63 then 1 else -1) * (units (x.bits.toNat % 2 ^ 63) / 2 ^ 1074)

/-- The number rounded to a double: none is nearer, of two that are equally near it is the one with
an even last bit, and it has the sign of the number. -/
structure IsNearest (q : ℚ) (x : Binary64) : Prop where
  number : x.IsNumber
  negative : 2 ^ 63 ≤ x.bits.toNat ↔ q < 0
  nearest : ∀ y : Binary64, y.IsNumber → |q - x.toRat| ≤ |q - y.toRat|
  even : ∀ y : Binary64, y.IsNumber → y.toRat ≠ x.toRat → |q - y.toRat| = |q - x.toRat| →
    2 ∣ x.bits.toNat

/-! ### Magnitudes -/

/-- A significand of 53 bits at a scale; without scale, of fewer bits as well. -/
theorem units_scaled {s p : ℕ} (hp : p ≤ 2 ^ 53) (h : s = 0 ∨ 2 ^ 52 ≤ p) :
    units (s * 2 ^ 52 + p) = p * 2 ^ s := by
  rcases Nat.lt_or_ge p (2 ^ 52) with hlow | hhigh
  · obtain rfl : s = 0 := by omega
    rw [Nat.zero_mul, Nat.zero_add, units, if_pos hlow, Nat.pow_zero, Nat.mul_one]
  · rcases Nat.lt_or_eq_of_le hp with hlt | rfl
    · have hdiv : (s * 2 ^ 52 + p) / 2 ^ 52 = s + 1 := by omega
      have hmod : 2 ^ 52 + (s * 2 ^ 52 + p) % 2 ^ 52 = p := by omega
      rw [units, if_neg (by omega), hdiv, hmod, Nat.add_sub_cancel]
    · have hdiv : (s * 2 ^ 52 + 2 ^ 53) / 2 ^ 52 = s + 2 := by omega
      have hmod : 2 ^ 52 + (s * 2 ^ 52 + 2 ^ 53) % 2 ^ 52 = 2 ^ 52 := by omega
      rw [units, if_neg (by omega), hdiv, hmod, show s + 2 - 1 = s + 1 by omega]
      ring

/-- Every magnitude is a significand at a scale. -/
theorem exists_scaled (m : ℕ) :
    ∃ s p, m = s * 2 ^ 52 + p ∧ p < 2 ^ 53 ∧ (s = 0 ∨ 2 ^ 52 ≤ p) := by
  rcases Nat.lt_or_ge m (2 ^ 53) with h | h
  · exact ⟨0, m, by omega, h, .inl rfl⟩
  · exact ⟨m / 2 ^ 52 - 1, 2 ^ 52 + m % 2 ^ 52, by omega, by omega, .inr (by omega)⟩

theorem units_zero : units 0 = 0 := rfl

theorem units_strictMono : StrictMono units := by
  refine strictMono_nat_of_lt_succ fun m => ?_
  obtain ⟨s, p, rfl, hp, h⟩ := exists_scaled m
  rw [units_scaled hp.le h, Nat.add_assoc, units_scaled hp (by omega)]
  exact Nat.mul_lt_mul_of_pos_right p.lt_succ_self (Nat.two_pow_pos s)

/-- No magnitude is nearer to so many units, and of two equally near it is the even one. -/
structure IsClosest (u : ℚ) (m : ℕ) : Prop where
  nearest : ∀ n, |u - units m| ≤ |u - units n|
  even : ∀ n ≠ m, |u - units n| = |u - units m| → 2 ∣ m

variable {u : ℚ} {m n : ℕ}

theorem units_cast_le (h : m ≤ n) : (units m : ℚ) ≤ units n := by
  exact_mod_cast units_strictMono.monotone h

theorem units_cast_lt (h : m < n) : (units m : ℚ) < units n := by
  exact_mod_cast units_strictMono h

/-- Between two magnitudes in a row the lower one is closest up to the middle, which is its own if
it is even. -/
theorem IsClosest.lower (hle : (units m : ℚ) ≤ u) (hnear : u - units m ≤ units (m + 1) - u)
    (heven : u - units m = units (m + 1) - u → 2 ∣ m) : IsClosest u m where
  nearest n := by
    rw [abs_of_nonneg (sub_nonneg.mpr hle)]
    rcases Nat.lt_or_ge m n with h | h
    · have := units_cast_le h
      exact le_trans (by linarith) (neg_le_abs _)
    · have := units_cast_le h
      exact le_trans (by linarith) (le_abs_self _)
  even n hn htie := by
    rw [abs_of_nonneg (sub_nonneg.mpr hle)] at htie
    rcases Nat.lt_or_ge m n with h | h
    · have hle' := units_cast_le h
      rw [abs_of_nonpos (by linarith)] at htie
      exact heven (by linarith)
    · have hlt := units_cast_lt (lt_of_le_of_ne h hn)
      rw [abs_of_nonneg (by linarith)] at htie
      linarith

/-- From the middle on it is the upper one. -/
theorem IsClosest.upper (hle : u ≤ units (m + 1)) (hnear : units (m + 1) - u ≤ u - units m)
    (heven : u - units m = units (m + 1) - u → 2 ∣ m + 1) : IsClosest u (m + 1) where
  nearest n := by
    rw [abs_of_nonpos (sub_nonpos.mpr hle)]
    rcases Nat.lt_or_ge m n with h | h
    · have := units_cast_le h
      exact le_trans (by linarith) (neg_le_abs _)
    · have := units_cast_le h
      exact le_trans (by linarith) (le_abs_self _)
  even n hn htie := by
    rw [abs_of_nonpos (sub_nonpos.mpr hle)] at htie
    rcases Nat.lt_or_ge m n with h | h
    · have hlt := units_cast_lt (lt_of_le_of_ne h hn.symm)
      rw [abs_of_nonpos (by linarith)] at htie
      linarith
    · have hle' := units_cast_le h
      rw [abs_of_nonneg (by linarith)] at htie
      exact heven (by linarith)

/-! ### Rounding a ratio -/

theorem roundDiv_cases (n d : ℕ) :
    (roundDiv n d = n / d ∧ (2 * (n % d) < d ∨ 2 * (n % d) = d ∧ 2 ∣ n / d)) ∨
      (roundDiv n d = n / d + 1 ∧ (d < 2 * (n % d) ∨ 2 * (n % d) = d ∧ 2 ∣ n / d + 1)) := by
  simp only [roundDiv, Bool.or_eq_true, Bool.and_eq_true, decide_eq_true_eq]
  split
  · exact .inr ⟨rfl, by omega⟩
  · exact .inl ⟨rfl, by omega⟩

/-- A quotient of at most 53 bits, rounded at its scale. Without scale it may have fewer bits. -/
theorem roundDiv_isClosest {n d s : ℕ} (hd : 0 < d) (hlt : n / d < 2 ^ 53)
    (h : s = 0 ∨ 2 ^ 52 ≤ n / d) :
    IsClosest ((n / d : ℚ) * 2 ^ s) (s * 2 ^ 52 + roundDiv n d) := by
  have hd' : (0 : ℚ) < d := by exact_mod_cast hd
  have hs : (0 : ℚ) < 2 ^ s := by positivity
  have hlower : (units (s * 2 ^ 52 + n / d) : ℚ) = (n / d : ℕ) * 2 ^ s := by
    rw [units_scaled hlt.le h]
    push_cast
    rfl
  have hupper : (units (s * 2 ^ 52 + n / d + 1) : ℚ) = ((n / d : ℕ) + 1) * 2 ^ s := by
    rw [Nat.add_assoc, units_scaled hlt (by omega)]
    push_cast
    rfl
  -- what is left of the quotient is a part `r` of one unit at the scale
  obtain ⟨r, hr⟩ : ∃ r : ℚ, r = (n % d : ℕ) / d := ⟨_, rfl⟩
  have hquot : (n / d : ℚ) = (n / d : ℕ) + r := by
    have : (d : ℚ) * (n / d : ℕ) + (n % d : ℕ) = n := by exact_mod_cast Nat.div_add_mod n d
    rw [hr, ← this]
    field_simp
  have hrlow : 0 ≤ r := hr ▸ by positivity
  have hrhigh : r ≤ 1 := by
    rw [hr, div_le_one hd']
    exact_mod_cast (Nat.mod_lt n hd).le
  have hlow : r ≤ 1 - r ↔ 2 * (n % d) ≤ d := by
    rw [le_sub_iff_add_le, ← two_mul, hr, ← mul_div_assoc, div_le_one hd']
    exact_mod_cast Iff.rfl
  have hhigh : 1 - r ≤ r ↔ d ≤ 2 * (n % d) := by
    rw [sub_le_iff_le_add, ← two_mul, hr, ← mul_div_assoc, one_le_div hd']
    exact_mod_cast Iff.rfl
  have hdown : (n / d : ℚ) * 2 ^ s - units (s * 2 ^ 52 + n / d) = r * 2 ^ s := by
    rw [hlower, hquot]
    ring
  have hup : units (s * 2 ^ 52 + n / d + 1) - (n / d : ℚ) * 2 ^ s = (1 - r) * 2 ^ s := by
    rw [hupper, hquot]
    ring
  have htie (h : r * 2 ^ s = (1 - r) * 2 ^ s) : 2 * (n % d) = d := by
    have hsame := mul_right_cancel₀ hs.ne' h
    exact le_antisymm (hlow.mp hsame.le) (hhigh.mp hsame.ge)
  rcases roundDiv_cases n d with ⟨hround, hrem⟩ | ⟨hround, hrem⟩
  · rw [hround]
    refine .lower (sub_nonneg.mp (hdown ▸ by positivity)) ?_ ?_
    · rw [hdown, hup]
      exact mul_le_mul_of_nonneg_right (hlow.mpr (by omega)) hs.le
    · rw [hdown, hup]
      intro h
      have := htie h
      omega
  · rw [hround, ← Nat.add_assoc]
    refine .upper (sub_nonneg.mp (hup ▸ mul_nonneg (sub_nonneg.mpr hrhigh) hs.le)) ?_ ?_
    · rw [hdown, hup]
      exact mul_le_mul_of_nonneg_right (hhigh.mpr (by omega)) hs.le
    · rw [hdown, hup]
      intro h
      have := htie h
      omega

theorem two_zpow (k : ℤ) : (2 : ℚ) ^ k = 2 ^ k.toNat / 2 ^ (-k).toNat := by
  rw [← zpow_natCast, ← zpow_natCast, ← zpow_sub₀ two_ne_zero]
  congr 1
  omega

theorem ratio_lt_two_zpow {n d : ℕ} (hd : 0 < d) (k : ℤ) :
    (n / d : ℚ) < 2 ^ k ↔ n * twoTo (-k).toNat < d * twoTo k.toNat := by
  have hd' : (0 : ℚ) < d := by exact_mod_cast hd
  rw [two_zpow, div_lt_div_iff₀ hd' (by positivity), mul_comm _ (d : ℚ)]
  exact_mod_cast Iff.rfl

/-- The logarithm of a ratio to the base two, rounded down. -/
theorem log2Ratio_spec {n d : ℕ} (hn : 0 < n) (hd : 0 < d) :
    (2 : ℚ) ^ log2Ratio n d ≤ n / d ∧ (n / d : ℚ) < 2 ^ (log2Ratio n d + 1) := by
  have hd' : (0 : ℚ) < d := by exact_mod_cast hd
  have hnlow : (2 : ℚ) ^ (n.log2 : ℤ) ≤ n := by exact_mod_cast Nat.log2_self_le hn.ne'
  have hnhigh : (n : ℚ) < 2 ^ ((n.log2 : ℤ) + 1) := by exact_mod_cast Nat.lt_log2_self
  have hdlow : (2 : ℚ) ^ (d.log2 : ℤ) ≤ d := by exact_mod_cast Nat.log2_self_le hd.ne'
  have hdhigh : (d : ℚ) < 2 ^ ((d.log2 : ℤ) + 1) := by exact_mod_cast Nat.lt_log2_self
  obtain ⟨k, hk⟩ : ∃ k : ℤ, k = (n.log2 : ℤ) - d.log2 := ⟨_, rfl⟩
  have hlow : (2 : ℚ) ^ (k - 1) ≤ n / d := by
    rw [le_div_iff₀ hd']
    calc (2 : ℚ) ^ (k - 1) * d ≤ 2 ^ (k - 1) * 2 ^ ((d.log2 : ℤ) + 1) := by gcongr
      _ = 2 ^ (n.log2 : ℤ) := by
        rw [← zpow_add₀ two_ne_zero]
        congr 1
        omega
      _ ≤ n := hnlow
  have hhigh : (n / d : ℚ) < 2 ^ (k + 1) := by
    rw [div_lt_iff₀ hd']
    calc (n : ℚ) < 2 ^ ((n.log2 : ℤ) + 1) := hnhigh
      _ = 2 ^ (k + 1) * 2 ^ (d.log2 : ℤ) := by
        rw [← zpow_add₀ two_ne_zero]
        congr 1
        omega
      _ ≤ 2 ^ (k + 1) * d := by gcongr
  unfold log2Ratio
  rw [← hk]
  simp only [← ratio_lt_two_zpow hd]
  split
  · next h => exact ⟨hlow, by rwa [Int.sub_add_cancel]⟩
  · next h => exact ⟨not_lt.mp h, hhigh⟩

theorem twoTo_eq (n : ℕ) : twoTo n = 2 ^ n := rfl

/-- Both ways to round at the scale are one. -/
theorem roundedMagnitude_eq (n d : ℕ) : roundedMagnitude n d = scaleOf n d * 2 ^ 52 +
    roundDiv (n * 2 ^ (1074 - scaleOf n d)) (d * 2 ^ (scaleOf n d - 1074)) := by
  simp only [roundedMagnitude, twoTo_eq]
  split
  · next h => rw [Nat.sub_eq_zero_of_le h, Nat.pow_zero, Nat.mul_one]
  · next h => rw [Nat.sub_eq_zero_of_le (not_le.mp h).le, Nat.pow_zero, Nat.mul_one]

theorem roundedMagnitude_isClosest {n d : ℕ} (hn : 0 < n) (hd : 0 < d) :
    IsClosest ((n / d : ℚ) * 2 ^ 1074) (roundedMagnitude n d) := by
  obtain ⟨s, hs⟩ : ∃ s, s = scaleOf n d := ⟨_, rfl⟩
  have hd' : (0 : ℚ) < d := by exact_mod_cast hd
  have hD : 0 < d * 2 ^ (s - 1074) := by positivity
  obtain ⟨hlow, hhigh⟩ := log2Ratio_spec hn hd
  have hquot : ((n * 2 ^ (1074 - s) : ℕ) / (d * 2 ^ (s - 1074) : ℕ) : ℚ) =
      (n / d : ℚ) * 2 ^ (1074 - s : ℤ) := by
    have hup : (1074 - s : ℤ).toNat = 1074 - s := by omega
    have hdown : (-(1074 - s : ℤ)).toNat = s - 1074 := by omega
    rw [two_zpow, hup, hdown, ← mul_div_mul_comm]
    push_cast
    rfl
  have hunits : (n / d : ℚ) * 2 ^ 1074 =
      ((n * 2 ^ (1074 - s) : ℕ) / (d * 2 ^ (s - 1074) : ℕ) : ℚ) * 2 ^ s := by
    rw [hquot, mul_assoc, ← zpow_natCast, ← zpow_natCast, ← zpow_add₀ two_ne_zero]
    congr 2
    push_cast
    ring
  have hlt : n * 2 ^ (1074 - s) / (d * 2 ^ (s - 1074)) < 2 ^ 53 := by
    rw [Nat.div_lt_iff_lt_mul hD]
    have : ((n * 2 ^ (1074 - s) : ℕ) / (d * 2 ^ (s - 1074) : ℕ) : ℚ) < 2 ^ (53 : ℤ) := by
      calc _ = (n / d : ℚ) * 2 ^ (1074 - s : ℤ) := hquot
        _ < 2 ^ (log2Ratio n d + 1) * 2 ^ (1074 - s : ℤ) := by gcongr
        _ = 2 ^ (log2Ratio n d + 1 + (1074 - s)) := (zpow_add₀ two_ne_zero _ _).symm
        _ ≤ 2 ^ (53 : ℤ) := zpow_le_zpow_right₀ one_le_two (by rw [hs, scaleOf]; omega)
    rw [div_lt_iff₀ (by exact_mod_cast hD)] at this
    exact_mod_cast this
  have hle : s = 0 ∨ 2 ^ 52 ≤ n * 2 ^ (1074 - s) / (d * 2 ^ (s - 1074)) := by
    rw [Nat.le_div_iff_mul_le hD, or_iff_not_imp_left]
    intro hpos
    have : (2 : ℚ) ^ (52 : ℤ) ≤ (n * 2 ^ (1074 - s) : ℕ) / (d * 2 ^ (s - 1074) : ℕ) := by
      calc (2 : ℚ) ^ (52 : ℤ) = 2 ^ (log2Ratio n d + (1074 - s)) := by
            congr 1
            rw [scaleOf] at hs
            omega
        _ = 2 ^ log2Ratio n d * 2 ^ (1074 - s : ℤ) := zpow_add₀ two_ne_zero _ _
        _ ≤ (n / d : ℚ) * 2 ^ (1074 - s : ℤ) := by gcongr
        _ = _ := hquot.symm
    rw [le_div_iff₀ (by exact_mod_cast hD)] at this
    exact_mod_cast this
  rw [roundedMagnitude_eq, ← hs, hunits]
  exact roundDiv_isClosest hD hlt hle

/-- The double of a magnitude. -/
def ofMagnitude (m : ℕ) : Binary64 := ⟨.ofNat m⟩

theorem ofRatio_eq {n : ℕ} (hn : 0 < n) (d : ℕ) :
    ofRatio n d = ofMagnitude (min (roundedMagnitude n d) limit) := by
  rw [ofRatio, if_neg hn.ne']
  change (if roundedMagnitude n d < limit then _ else _) = _
  split
  · next h => rw [min_eq_left h.le, ofMagnitude]
  · next h => rw [min_eq_right (not_lt.mp h)]; rfl

/-! ### Rounding to a double -/

/-- Where it is too great, the greatest magnitude there is. -/
theorem IsClosest.capped (h : IsClosest u m) {n : ℕ} (hn : n ≤ limit) :
    |u - units (min m limit)| ≤ |u - units n| ∧
      (n ≠ min m limit → |u - units n| = |u - units (min m limit)| → 2 ∣ min m limit) := by
  rcases Nat.lt_or_ge limit m with hm | hm
  · rw [min_eq_right hm.le]
    have hlt := units_cast_lt hm
    have hbelow : (units limit : ℚ) ≤ u := by
      by_contra! hu
      have hnear := h.nearest limit
      rw [abs_of_neg (by linarith), abs_of_neg (by linarith)] at hnear
      linarith
    rw [abs_of_nonneg (sub_nonneg.mpr hbelow)]
    have := units_cast_le hn
    exact ⟨le_trans (by linarith) (le_abs_self _), fun _ _ => by decide⟩
  · rw [min_eq_left hm]
    exact ⟨h.nearest n, h.even n⟩

theorem toNat_ofMagnitude (hm : m ≤ limit) : (ofMagnitude m).bits.toNat = m :=
  UInt64.toNat_ofNat_of_lt' (lt_of_le_of_lt hm (by decide))

theorem toRat_ofMagnitude (hm : m ≤ limit) : (ofMagnitude m).toRat = units m / 2 ^ 1074 := by
  have hlt : m < 2 ^ 63 := lt_of_le_of_lt hm (by decide)
  rw [toRat, toNat_ofMagnitude hm, if_pos hlt, Nat.mod_eq_of_lt hlt, one_mul]

theorem toRat_mul (y : Binary64) : y.toRat * 2 ^ 1074 =
    if y.bits.toNat < 2 ^ 63 then (units (y.bits.toNat % 2 ^ 63) : ℚ)
    else -units (y.bits.toNat % 2 ^ 63) := by
  rw [toRat, mul_assoc, div_mul_cancel₀ _ (by positivity)]
  split
  · rw [one_mul]
  · rw [neg_one_mul]

/-- The other sign is no nearer to what is not negative. -/
theorem abs_sub_units_le (hu : 0 ≤ u) (y : Binary64) :
    |u - units (y.bits.toNat % 2 ^ 63)| ≤ |u - y.toRat * 2 ^ 1074| := by
  have hv : (0 : ℚ) ≤ units (y.bits.toNat % 2 ^ 63) := Nat.cast_nonneg _
  rw [toRat_mul]
  split
  · rfl
  · rw [sub_neg_eq_add, abs_of_nonneg (add_nonneg hu hv), abs_le]
    constructor <;> linarith

theorem IsClosest.isNearest {q : ℚ} (hq : 0 ≤ q) (h : IsClosest (q * 2 ^ 1074) m) :
    IsNearest q (ofMagnitude (min m limit)) := by
  have hk : min m limit ≤ limit := min_le_right m limit
  have hc : (0 : ℚ) < 2 ^ 1074 := by positivity
  have hu : 0 ≤ q * 2 ^ 1074 := by positivity
  have hdist (r : ℚ) : |q - r| * 2 ^ 1074 = |q * 2 ^ 1074 - r * 2 ^ 1074| := by
    rw [← sub_mul, abs_mul, abs_of_pos hc]
  have hvalue : (ofMagnitude (min m limit)).toRat * 2 ^ 1074 = units (min m limit) := by
    rw [toRat_ofMagnitude hk, div_mul_cancel₀ _ hc.ne']
  refine ⟨?_, ?_, fun y hy => ?_, fun y hy hne htie => ?_⟩
  · rw [IsNumber, toNat_ofMagnitude hk]
    exact (Nat.mod_le _ _).trans hk
  · rw [toNat_ofMagnitude hk]
    have : limit < 2 ^ 63 := by decide
    exact ⟨fun h => by omega, fun h => absurd hq (not_le.mpr h)⟩
  · refine le_of_mul_le_mul_right ?_ hc
    rw [hdist, hdist, hvalue]
    exact (h.capped hy).1.trans (abs_sub_units_le hu y)
  · obtain ⟨hnear, heven⟩ := h.capped hy
    have hsame := congrArg (· * (2 : ℚ) ^ 1074) htie
    simp only [hdist, hvalue] at hsame
    rw [toNat_ofMagnitude hk]
    by_cases hn : y.bits.toNat % 2 ^ 63 = min m limit
    · -- the same magnitude with the other sign is as near only where both are zero
      have hzero : |q * 2 ^ 1074 - units (min m limit)| ≤ q * 2 ^ 1074 := by
        have := (h.capped (Nat.zero_le limit)).1
        rwa [units_zero, Nat.cast_zero, sub_zero, abs_of_nonneg hu] at this
      have hv : (0 : ℚ) ≤ units (min m limit) := Nat.cast_nonneg _
      have hother := toRat_mul y
      rw [hn] at hother
      refine absurd (mul_right_cancel₀ hc.ne' ?_) hne
      rw [hvalue, hother]
      split
      · rfl
      · next hsign =>
        rw [hother, if_neg hsign, sub_neg_eq_add, abs_of_nonneg (add_nonneg hu hv)] at hsame
        have hle := (add_le_iff_nonpos_right _).mp (hsame.trans_le hzero)
        rw [le_antisymm hle hv, neg_zero]
    · exact heven hn (le_antisymm ((abs_sub_units_le hu y).trans hsame.le) hnear)

theorem isClosest_zero : IsClosest 0 0 := by
  refine .lower (by rw [units_zero, Nat.cast_zero]) ?_ fun _ => dvd_zero 2
  have := units_cast_le (Nat.zero_le 1)
  linarith

/-- A ratio is rounded to the nearest double. -/
theorem ofRatio_isNearest (n : ℕ) {d : ℕ} (hd : 0 < d) : IsNearest (n / d) (ofRatio n d) := by
  rcases Nat.eq_zero_or_pos n with rfl | hn
  · rw [Nat.cast_zero, zero_div]
    exact IsClosest.isNearest le_rfl (by rw [zero_mul]; exact isClosest_zero)
  · rw [ofRatio_eq hn]
    exact (roundedMagnitude_isClosest hn hd).isNearest (by positivity)

/-! ### The other sign -/

theorem toNat_neg_mod (x : Binary64) : x.neg.bits.toNat % 2 ^ 63 = x.bits.toNat % 2 ^ 63 := by
  rw [neg, UInt64.toNat_xor, Nat.xor_mod_two_pow]
  exact Nat.xor_zero _

theorem toNat_neg_div (x : Binary64) : x.neg.bits.toNat / 2 ^ 63 = 1 - x.bits.toNat / 2 ^ 63 := by
  have htop : x.bits.toNat / 2 ^ 63 = 0 ∨ x.bits.toNat / 2 ^ 63 = 1 := by
    have := x.bits.toNat_lt
    omega
  rw [neg, UInt64.toNat_xor, Nat.xor_div_two_pow]
  rcases htop with h | h <;> rw [h] <;> rfl

theorem toNat_neg_lt_iff (x : Binary64) : x.neg.bits.toNat < 2 ^ 63 ↔ 2 ^ 63 ≤ x.bits.toNat := by
  have := x.toNat_neg_div
  have := x.bits.toNat_lt
  omega

theorem toRat_neg (x : Binary64) : x.neg.toRat = -x.toRat := by
  rw [toRat, toRat, x.toNat_neg_mod, ← neg_mul]
  congr 1
  by_cases h : x.bits.toNat < 2 ^ 63
  · rw [if_pos h, if_neg fun hneg => absurd (x.toNat_neg_lt_iff.mp hneg) (not_le.mpr h)]
  · rw [if_neg h, if_pos (x.toNat_neg_lt_iff.mpr (not_lt.mp h)), neg_neg]

theorem abs_neg_sub (q : ℚ) (x : Binary64) : |-q - x.toRat| = |q - x.neg.toRat| := by
  rw [toRat_neg, ← abs_neg]
  congr 1
  ring

theorem neg_neg_eq (x : Binary64) : x.neg.neg = x := by
  rw [neg, neg, UInt64.xor_assoc, UInt64.xor_self, UInt64.xor_zero]

theorem isNumber_neg (x : Binary64) : x.neg.IsNumber ↔ x.IsNumber := by
  rw [IsNumber, IsNumber, x.toNat_neg_mod]

theorem two_dvd_toNat_neg (x : Binary64) : 2 ∣ x.neg.bits.toNat ↔ 2 ∣ x.bits.toNat := by
  have := x.toNat_neg_mod
  omega

theorem IsNearest.neg {q : ℚ} {x : Binary64} (h : IsNearest q x) (hq : q ≠ 0) :
    IsNearest (-q) x.neg where
  number := x.isNumber_neg.mpr h.number
  negative := by
    rw [neg_lt_zero, ← not_lt, x.toNat_neg_lt_iff, h.negative, not_lt]
    exact ⟨fun hle => lt_of_le_of_ne hle hq.symm, le_of_lt⟩
  nearest y hy := by
    rw [abs_neg_sub, abs_neg_sub, neg_neg_eq]
    exact h.nearest y.neg (y.isNumber_neg.mpr hy)
  even y hy hne htie := by
    rw [abs_neg_sub, abs_neg_sub, neg_neg_eq] at htie
    refine x.two_dvd_toNat_neg.mpr (h.even y.neg (y.isNumber_neg.mpr hy) (fun hsame => hne ?_) htie)
    rw [toRat_neg, ← hsame, toRat_neg, neg_neg]

/-- An integer is rounded to the nearest double. -/
theorem ofInt_isNearest (i : ℤ) : IsNearest i (ofInt i) := by
  have habs : IsNearest i.natAbs (ofNat i.natAbs) := by
    have := ofRatio_isNearest i.natAbs Nat.one_pos
    rwa [Nat.cast_one, div_one] at this
  rw [ofInt]
  split
  · next h =>
    have hi : (i : ℚ) = -(i.natAbs : ℚ) := by
      rw [Nat.cast_natAbs, abs_of_neg h, Int.cast_neg, neg_neg]
    rw [hi]
    exact habs.neg (by simpa using h.ne)
  · next h => rwa [Nat.cast_natAbs, abs_of_nonneg (not_lt.mp h)] at habs

/-! ### Only one double is nearest -/

theorem ofMagnitude_toNat (x : Binary64) : ofMagnitude x.bits.toNat = x :=
  congrArg mk (UInt64.ofNat_toNat)

/-- What is as near to two numbers is in their middle, and so nearer to all between. -/
theorem abs_sub_lt_of_between {q a b c : ℚ} (hab : a < b) (hbc : b < c)
    (htie : |q - a| = |q - c|) : |q - b| < |q - a| := by
  rcases le_or_gt q a with h | h
  · rw [abs_of_nonpos (by linarith), abs_of_nonpos (by linarith)] at htie
    linarith
  · rcases le_or_gt c q with h' | h'
    · rw [abs_of_nonneg (by linarith), abs_of_nonneg (by linarith)] at htie
      linarith
    · rw [abs_of_pos (by linarith), abs_of_neg (by linarith)] at htie
      rw [abs_of_pos (by linarith : 0 < q - a), abs_lt]
      constructor <;> linarith

variable {q : ℚ} {x y : Binary64}

theorem IsNearest.toNat_le (h : IsNearest q x) (hq : 0 ≤ q) : x.bits.toNat ≤ limit := by
  have hpos := not_le.mp fun hneg => absurd (h.negative.mp hneg) (not_lt.mpr hq)
  have hnumber := h.number
  rwa [IsNumber, Nat.mod_eq_of_lt hpos] at hnumber

theorem IsNearest.not_lt_of_nonneg (h : IsNearest q x) (h' : IsNearest q y) (hq : 0 ≤ q) :
    ¬ x.bits.toNat < y.bits.toNat := by
  intro hlt
  have hy := h'.toNat_le hq
  have hvalue {m : ℕ} (hm : m ≤ y.bits.toNat) :
      (ofMagnitude m).toRat = units m / 2 ^ 1074 := toRat_ofMagnitude (hm.trans hy)
  have hbetween {m n : ℕ} (hmn : m < n) (hn : n ≤ y.bits.toNat) :
      (ofMagnitude m).toRat < (ofMagnitude n).toRat := by
    rw [hvalue (hmn.le.trans hn), hvalue hn]
    exact div_lt_div_of_pos_right (units_cast_lt hmn) (by positivity)
  have hxy := hbetween hlt le_rfl
  rw [ofMagnitude_toNat, ofMagnitude_toNat] at hxy
  have htie : |q - x.toRat| = |q - y.toRat| :=
    le_antisymm (h.nearest y h'.number) (h'.nearest x h.number)
  -- both are even, so there is a double between them
  have hxeven := h.even y h'.number hxy.ne' htie.symm
  have hyeven := h'.even x h.number hxy.ne htie
  have hxz := hbetween (Nat.lt_succ_self x.bits.toNat) hlt
  have hzy := hbetween (show x.bits.toNat + 1 < y.bits.toNat by omega) le_rfl
  rw [ofMagnitude_toNat] at hxz hzy
  have hnumber : (ofMagnitude (x.bits.toNat + 1)).IsNumber := by
    rw [IsNumber, toNat_ofMagnitude (by omega)]
    exact (Nat.mod_le _ _).trans (by omega)
  exact absurd (h.nearest _ hnumber) (not_le.mpr (abs_sub_lt_of_between hxz hzy htie))

theorem IsNearest.unique (h : IsNearest q x) (h' : IsNearest q y) : x = y := by
  have hpos {q : ℚ} {x y : Binary64} (hq : 0 ≤ q) (h : IsNearest q x) (h' : IsNearest q y) :
      x = y := by
    have hsame : x.bits.toNat = y.bits.toNat :=
      le_antisymm (not_lt.mp (h'.not_lt_of_nonneg h hq)) (not_lt.mp (h.not_lt_of_nonneg h' hq))
    rw [← ofMagnitude_toNat x, hsame, ofMagnitude_toNat]
  rcases le_or_gt 0 q with hq | hq
  · exact hpos hq h h'
  · have hneg := hpos (neg_nonneg.mpr hq.le) (h.neg hq.ne) (h'.neg hq.ne)
    rw [← x.neg_neg_eq, hneg, y.neg_neg_eq]

/-! ### Integers that fit -/

theorem IsNearest.toRat_eq (h : IsNearest q x) (hy : y.IsNumber) (hq : y.toRat = q) :
    x.toRat = q := by
  have := h.nearest y hy
  rw [hq, sub_self, abs_zero, abs_nonpos_iff, sub_eq_zero] at this
  exact this.symm

/-- A natural number of at most 53 bits, or the one behind them, is a double. -/
theorem exists_units_eq {n : ℕ} (hn : n ≤ 2 ^ 53) : ∃ m ≤ limit, units m = n * 2 ^ 1074 := by
  rcases Nat.eq_zero_or_pos n with rfl | hpos
  · exact ⟨0, Nat.zero_le _, by rw [units_zero, Nat.zero_mul]⟩
  obtain ⟨k, hk⟩ : ∃ k, k = 52 - n.log2 := ⟨_, rfl⟩
  have hlow : 2 ^ 52 ≤ n * 2 ^ k := by
    calc 2 ^ 52 ≤ 2 ^ (n.log2 + k) := Nat.pow_le_pow_right Nat.two_pos (by omega)
      _ = 2 ^ n.log2 * 2 ^ k := pow_add ..
      _ ≤ n * 2 ^ k := Nat.mul_le_mul_right _ (Nat.log2_self_le hpos.ne')
  have hhigh : n * 2 ^ k ≤ 2 ^ 53 := by
    rcases Nat.eq_zero_or_pos k with h0 | hkpos
    · rwa [h0, Nat.pow_zero, Nat.mul_one]
    · calc n * 2 ^ k ≤ 2 ^ (n.log2 + 1) * 2 ^ k :=
            Nat.mul_le_mul_right _ Nat.lt_log2_self.le
        _ = 2 ^ (n.log2 + 1 + k) := (pow_add ..).symm
        _ = 2 ^ 53 := congrArg _ (by omega)
  refine ⟨(1074 - k) * 2 ^ 52 + n * 2 ^ k, ?_, ?_⟩
  · calc (1074 - k) * 2 ^ 52 + n * 2 ^ k ≤ 1074 * 2 ^ 52 + 2 ^ 53 :=
          Nat.add_le_add (Nat.mul_le_mul_right _ (Nat.sub_le _ _)) hhigh
      _ ≤ limit := by decide
  · rw [units_scaled hhigh (.inr hlow), Nat.mul_assoc, ← pow_add,
      show k + (1074 - k) = 1074 by omega]

/-- An integer of at most 53 bits stays what it is. -/
theorem toRat_ofInt {i : ℤ} (h : i.natAbs ≤ 2 ^ 53) : (ofInt i).toRat = i := by
  obtain ⟨m, hm, hunits⟩ := exists_units_eq h
  have hvalue : (ofMagnitude m).toRat = i.natAbs := by
    rw [toRat_ofMagnitude hm, hunits, Nat.cast_mul, Nat.cast_pow, Nat.cast_ofNat,
      mul_div_cancel_right₀ _ (by positivity)]
  have hnumber : (ofMagnitude m).IsNumber := by
    rw [IsNumber, toNat_ofMagnitude hm]
    exact (Nat.mod_le _ _).trans hm
  have hi := ofInt_isNearest i
  rcases le_or_gt 0 i with hpos | hneg
  · refine hi.toRat_eq hnumber (hvalue.trans ?_)
    rw [Nat.cast_natAbs, abs_of_nonneg hpos]
  · refine hi.toRat_eq ((ofMagnitude m).isNumber_neg.mpr hnumber) ?_
    rw [toRat_neg, hvalue, Nat.cast_natAbs, abs_of_neg hneg, Int.cast_neg, neg_neg]

end DeviceConsole.Binary64
