import DocLoad.Number.Double
import DocLoad.Text.Digits

/-!
# DocLoad.Number.Shortest — the fewest digits that read back

`Shortest.digits` finds, for a finite non-zero magnitude, the decimal with the fewest significant
digits that rounds to it, and among those the nearest (of two equally near the larger).  All
comparisons are made on integers: magnitudes, interval ends and grid points are scaled by
`2 ^ 1075 * 10 ^ 345`, which turns every one of them into a natural number.

`Double.positional` writes the digits without an exponent.
-/

namespace DocLoad

namespace Shortest

/-- The power of ten that makes every grid point of interest an integer. -/
def scale : Nat := 345

/-- Twice the magnitude of a code, scaled. -/
def point (code : Nat) : Nat :=
  2 * Double.unitsOf code * Nat.pow 10 scale

/-- The scaled midpoint between two codes. -/
def midpoint (low high : Nat) : Nat :=
  (Double.unitsOf low + Double.unitsOf high) * Nat.pow 10 scale

/-- Whether a scaled point rounds to the code: it lies between the midpoints to the neighbouring
codes, which themselves belong to the even code. -/
def roundsTo (code p : Nat) : Bool :=
  let low := midpoint (code - 1) code
  let high := midpoint code (code + 1)
  if code % 2 = 0 then low ≤ p && p ≤ high else low < p && p < high

/-- The scaled distance between neighbours on the grid of `k` significant digits, for a magnitude
with `magnitude` integer digits after scaling by `10 ^ scale`. -/
def step (magnitude k : Nat) : Nat :=
  Nat.pow 2 1075 * Nat.pow 10 (magnitude - k)

/-- The neighbour on the grid of `k` digits that reads back, if one does; the nearer of the two,
and the upper one at equal distance. -/
def onGrid? (code magnitude k : Nat) : Option Nat :=
  let x := point code
  let g := step magnitude k
  let n := x / g
  let low := roundsTo code (n * g)
  let high := roundsTo code ((n + 1) * g)
  if low && (!high || x - n * g < (n + 1) * g - x) then some n
  else if high then some (n + 1)
  else none

/-- The number of decimal digits of a magnitude after scaling by `10 ^ scale`. -/
def magnitude (code : Nat) : Nat :=
  (Nat.toDigits 10 (Double.unitsOf code * Nat.pow 10 scale / Nat.pow 2 1074)).length

/-- Tries the grids of `k`, `k + 1`, … digits, `fuel` of them. -/
def search (code magnitude : Nat) : (k fuel : Nat) → Nat × Nat
  | k, 0 => (point code / step magnitude k, k)
  | k, fuel + 1 =>
    match onGrid? code magnitude k with
    | some n => (n, k)
    | none => search code magnitude (k + 1) fuel

/-- The significand `n` and the exponent `e` of the shortest decimal `n * 10 ^ e` that reads back
as the magnitude with the given code.  Seventeen digits always suffice. -/
def digits (code : Nat) : Nat × Int :=
  let m := magnitude code
  let (n, k) := search code m 1 17
  (n, (m : Int) - k - scale)

end Shortest

/-- The decimal `n * 10 ^ e` without an exponent and without superfluous zeros. -/
def positionalText (n : Nat) (e : Int) : List Char :=
  let ds := ((Nat.toDigits 10 n).reverse.dropWhile (· == '0')).reverse
  let e := e + ((Nat.toDigits 10 n).length - ds.length : Nat)
  match e with
  | .ofNat zeros => ds ++ List.replicate zeros '0'
  | .negSucc w =>
    let places := w + 1
    let padded := List.replicate (places + 1 - ds.length) '0' ++ ds
    padded.take (padded.length - places) ++ '.' :: padded.drop (padded.length - places)

/-- The magnitude of a finite number in positional notation. -/
def Double.magnitudeText (x : Double) : List Char :=
  if x.code = 0 then ['0']
  else
    let (n, e) := Shortest.digits x.code
    positionalText n e

/-- A number in positional notation, with the given words for infinity; a zero keeps its sign. -/
def Double.positional (infinity : String) (x : Double) : String :=
  if x.isNaN then "NaN"
  else
    let sign := if x.negative then "-" else ""
    if x.isInfinite then sign ++ infinity else sign ++ String.ofList x.magnitudeText

end DocLoad
