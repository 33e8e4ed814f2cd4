import DeviceConsole.Binary64.Basic

/-! Decimal text of a finite double: the fewest digits that read back, and a fixed number of
decimal places. -/
namespace DeviceConsole.Binary64

/-- Four times the significand and the two ends of the interval of reals that round to the
number, all in units of a quarter of its last place. The lower neighbour is closer below a
power of two. -/
def interval (x : Binary64) : Nat × Nat × Nat :=
  let m := 4 * x.significand
  let below := if x.significand = twoTo 52 && 0 < x.scale then 1 else 2
  (m, m - below, m + 2)

/-- The largest `k` with `10 ^ k ≤ n / d`, for positive `n` and `d`. -/
def log10Ratio (n d : Nat) : Int :=
  let k := ((Nat.toDigits 10 n).length : Int) - (Nat.toDigits 10 d).length
  if n * tenTo (-k).toNat < d * tenTo k.toNat then k - 1 else k

/-- The point of the grid of `count` significant digits that is nearest to the number among those
that read back as the number. `k` is the place of the leading digit. -/
def gridPoint? (x : Binary64) (k : Int) (count : Nat) : Option Nat :=
  let (m, lo, hi) := x.interval
  let e := k - count + 1
  let unit := (if 1074 ≤ x.scale then twoTo (x.scale - 1074) else 1) * tenTo (-e).toNat
  let den := (if 1074 ≤ x.scale then 4 else 4 * twoTo (1074 - x.scale)) * tenTo e.toNat
  let inside (g : Nat) : Bool :=
    if x.significand % 2 = 0 then lo * unit ≤ g * den && g * den ≤ hi * unit
    else lo * unit < g * den && g * den < hi * unit
  let below := m * unit / den
  let twice := 2 * (m * unit % den)
  match inside below, inside (below + 1) with
  | true, true =>
      some (if twice < den || (twice = den && below % 2 = 0) then below else below + 1)
  | true, false => some below
  | false, true => some (below + 1)
  | false, false => none

/-- Removes trailing zeros, counting them. -/
def dropZeros : Nat → Nat → Int → Nat × Int
  | 0, n, e => (n, e)
  | fuel + 1, n, e => if n % 10 = 0 && n ≠ 0 then dropZeros fuel (n / 10) (e + 1) else (n, e)

/-- Digits and exponent of the shortest decimal that reads back as the magnitude. -/
def shortest (x : Binary64) : Nat × Int :=
  let k := log10Ratio x.ratio.1 x.ratio.2
  let hit := (List.range 17).findSome? fun i =>
    (x.gridPoint? k (i + 1)).map fun g => (g, k - i)
  let (g, e) := hit.getD (0, 0)
  dropZeros 18 g e

def signText (x : Binary64) : String := if x.isNegative then "-" else ""

/-- Positional from `1e-5` up to sixteen digits before the point, always with a decimal point;
otherwise scientific. -/
def text (x : Binary64) : String :=
  if x.isZero then x.signText ++ "0.0"
  else
    let (n, e) := x.shortest
    let ds := Nat.toDigits 10 n
    let point : Int := ds.length + e
    let body : List Char :=
      if 0 ≤ e ∧ point ≤ 16 then ds ++ List.replicate e.toNat '0' ++ ['.', '0']
      else if 0 < point ∧ point ≤ 16 then
        ds.take point.toNat ++ ['.'] ++ ds.drop point.toNat
      else if -5 < point ∧ point ≤ 0 then
        ['0', '.'] ++ List.replicate (-point).toNat '0' ++ ds
      else
        let tail := if ds.length = 1 then [] else '.' :: ds.drop 1
        ds.take 1 ++ tail ++ ['e'] ++ (toString (point - 1)).toList
    x.signText ++ String.ofList body

/-- A fixed number of places, a half going to the even neighbour. -/
def fixed (places : Nat) (x : Binary64) : String :=
  let (n, d) := x.ratio
  let ds := Nat.toDigits 10 (roundDiv (n * tenTo places) d)
  let ds := List.replicate (places + 1 - ds.length) '0' ++ ds
  let whole := ds.length - places
  x.signText ++ String.ofList (ds.take whole ++ ['.'] ++ ds.drop whole)

end DeviceConsole.Binary64
