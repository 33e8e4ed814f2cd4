/-! Punycode: text of any script in letters, digits and hyphens. The characters outside ASCII are
inserted one after the other in ascending order, each told by the distance from the one before
as a number of variable length. -/
namespace DeviceConsole.Url.Punycode

def digit (n : Nat) : Char :=
  if n < 26 then Char.ofNat (0x61 + n) else Char.ofNat (0x30 + n - 26)

def digitValue? (c : Char) : Option Nat :=
  if 'a' ≤ c && c ≤ 'z' then some (c.toNat - 0x61)
  else if 'A' ≤ c && c ≤ 'Z' then some (c.toNat - 0x41)
  else if c.isDigit then some (c.toNat - 0x30 + 26)
  else none

/-- The threshold of the digit at weight `k`. -/
def threshold (k bias : Nat) : Nat := max 1 (min 26 (k - bias))

def damp (fuel : Nat) (delta k : Nat) : Nat :=
  match fuel with
  | 0 => k
  | fuel + 1 =>
      if 455 < delta then damp fuel (delta / 35) (k + 36) else k + 36 * delta / (delta + 38)

/-- The bias after a distance, from which the next thresholds follow. -/
def adapt (delta points : Nat) (first : Bool) : Nat :=
  let d := if first then delta / 700 else delta / 2
  damp (d + 1) (d + d / points) 0

def encodeDistance (fuel q k bias : Nat) : List Char :=
  match fuel with
  | 0 => []
  | fuel + 1 =>
      let t := threshold k bias
      if q < t then [digit q]
      else
        digit (t + (q - t) % (36 - t)) :: encodeDistance fuel ((q - t) / (36 - t)) (k + 36) bias

structure Encoding where
  delta : Nat
  bias : Nat
  handled : Nat
  output : List Char

/-- One character of the text while the code point `n` is inserted. -/
def Encoding.visit (basic n : Nat) (e : Encoding) (c : Char) : Encoding :=
  if c.toNat < n then { e with delta := e.delta + 1 }
  else if c.toNat = n then
    { delta := 0
      bias := adapt e.delta (e.handled + 1) (e.handled = basic)
      handled := e.handled + 1
      output := e.output ++ encodeDistance (e.delta + 1) e.delta 36 e.bias }
  else e

/-- Inserts the code points of an ascending list, all of them above `n`. -/
def insertAll (basic : Nat) (text : List Char) : Nat → Encoding → List Nat → Encoding
  | _, e, [] => e
  | n, e, m :: ms =>
      let e := { e with delta := e.delta + (m - n) * (e.handled + 1) }
      let e := text.foldl (Encoding.visit basic m) e
      insertAll basic text (m + 1) { e with delta := e.delta + 1 } ms

def encode (text : List Char) : List Char :=
  let basic := text.filter fun c => c.toNat < 0x80
  let others := ((text.map Char.toNat).filter fun n => 0x80 ≤ n).mergeSort.eraseDups
  let start : Encoding :=
    { delta := 0, bias := 72, handled := basic.length
      output := if basic.isEmpty then [] else basic ++ ['-'] }
  (insertAll basic.length text 0x80 start others).output

/-- A distance and the digits after it. -/
def decodeDistance : List Char → Nat → Nat → Nat → Nat → Option (Nat × List Char)
  | [], _, _, _, _ => none
  | c :: cs, i, w, k, bias => do
      let d ← digitValue? c
      let i := i + d * w
      let t := threshold k bias
      if d < t then some (i, cs) else decodeDistance cs i (w * (36 - t)) (k + 36) bias

def decodeAll : Nat → List Char → List Char → Nat → Nat → Nat → Option (List Char)
  | 0, _, _, _, _, _ => none
  | _ + 1, [], output, _, _, _ => some output
  | fuel + 1, cs, output, n, i, bias => do
      let (j, rest) ← decodeDistance cs i 1 36 bias
      let size := output.length + 1
      let n := n + j / size
      if 0x110000 ≤ n then none
      else
        let place := j % size
        decodeAll fuel rest (output.take place ++ [Char.ofNat n] ++ output.drop place) n (place + 1)
          (adapt (j - i) size (i = 0))

def decode? (cs : List Char) : Option (List Char) :=
  let tail := (cs.reverse.takeWhile (· ≠ '-')).reverse
  let basic := if tail.length = cs.length then [] else cs.take (cs.length - tail.length - 1)
  decodeAll (tail.length + 1) tail basic 0x80 0 72

end DeviceConsole.Url.Punycode
