import DeviceConsole.Decimal.Integer

/-! Double precision numbers by their bits, with exact arithmetic on their values: every
operation goes through a ratio of naturals and one rounding. -/
namespace DeviceConsole

structure Binary64 where
  bits : UInt64
deriving DecidableEq, Repr, Inhabited

namespace Binary64

def zero : Binary64 := ⟨0⟩

def infinity : Binary64 := ⟨0x7FF0000000000000⟩

def isNegative (x : Binary64) : Bool := 0x8000000000000000 ≤ x.bits

def neg (x : Binary64) : Binary64 := ⟨x.bits ^^^ 0x8000000000000000⟩

/-- The bits without the sign, as a natural number. -/
def magnitude (x : Binary64) : Nat := x.bits.toNat % twoTo 63

def isFinite (x : Binary64) : Bool := x.magnitude < 2047 * twoTo 52

def isZero (x : Binary64) : Bool := x.magnitude = 0

/-- The integer significand: the magnitude of a finite number is
`significand * 2 ^ (scale - 1074)`. -/
def significand (x : Binary64) : Nat :=
  let e := x.magnitude / twoTo 52
  if e = 0 then x.magnitude else x.magnitude % twoTo 52 + twoTo 52

def scale (x : Binary64) : Nat := x.magnitude / twoTo 52 - 1

/-- Numerator and denominator of the magnitude of a finite number. -/
def ratio (x : Binary64) : Nat × Nat :=
  if 1074 ≤ x.scale then (x.significand * twoTo (x.scale - 1074), 1)
  else (x.significand, twoTo (1074 - x.scale))

/-- The quotient rounded to the nearest natural, a half to the even neighbour. -/
def roundDiv (n d : Nat) : Nat :=
  let q := n / d
  let r := 2 * (n % d)
  if d < r || (d = r && q % 2 = 1) then q + 1 else q

/-- The largest `k` with `2 ^ k ≤ n / d`, for positive `n` and `d`. -/
def log2Ratio (n d : Nat) : Int :=
  let k := (Nat.log2 n : Int) - Nat.log2 d
  if n * twoTo (-k).toNat < d * twoTo k.toNat then k - 1 else k

/-- The scale at which the significand of `n / d` has 53 bits, or fewer at the least scale. -/
def scaleOf (n d : Nat) : Nat := (log2Ratio n d + 1022).toNat

/-- The significand of `n / d` rounded at its scale, with the scale above it. A significand that is
rounded up to 54 bits carries into the scale. -/
def roundedMagnitude (n d : Nat) : Nat :=
  let s := scaleOf n d
  s * twoTo 52 +
    if 1074 ≤ s then roundDiv n (d * twoTo (s - 1074)) else roundDiv (n * twoTo (1074 - s)) d

/-- The double nearest to `n / d`, ties to even; beyond the largest double, infinity. -/
def ofRatio (n d : Nat) : Binary64 :=
  if n = 0 then zero
  else if roundedMagnitude n d < 2047 * twoTo 52 then ⟨UInt64.ofNat (roundedMagnitude n d)⟩
  else infinity

def ofNat (n : Nat) : Binary64 := ofRatio n 1

def ofInt (i : Int) : Binary64 :=
  if i < 0 then neg (ofNat i.natAbs) else ofNat i.natAbs

def mul (x y : Binary64) : Binary64 :=
  ofRatio (x.ratio.1 * y.ratio.1) (x.ratio.2 * y.ratio.2)

/-- The quotient of two magnitudes, the second not zero. -/
def div (x y : Binary64) : Binary64 :=
  ofRatio (x.ratio.1 * y.ratio.2) (x.ratio.2 * y.ratio.1)

/-- The double nearest to `n * 10 ^ e`. -/
def ofDecimal (n : Nat) (e : Int) : Binary64 :=
  if n = 0 then zero
  else if 400 < e then infinity
  else if e < -400 - (Nat.toDigits 10 n).length then zero
  else ofRatio (n * tenTo e.toNat) (tenTo (-e).toNat)

/-- Scales by a power of ten in steps of at most 308 places, rounding after each step.
`none` when the number is too large for a double. -/
def scaleTen? (x : Binary64) (e : Int) : Option Binary64 :=
  if e < -308 then
    if x.isZero then some x else scaleTen? (x.div (ofNat (tenTo 308))) (e + 308)
  else if e < 0 then some (x.div (ofNat (tenTo (-e).toNat)))
  else if e ≤ 308 then
    let y := x.mul (ofNat (tenTo e.toNat))
    if y.isFinite then some y else none
  else if x.isZero then some x else none
termination_by e.natAbs
decreasing_by omega

def hex (x : Binary64) : String :=
  let ds := Nat.toDigits 16 x.bits.toNat
  String.ofList (List.replicate (16 - ds.length) '0' ++ ds)

end Binary64
end DeviceConsole
