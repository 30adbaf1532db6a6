import DocLoad.Number.Literal
import DocLoad.Text.Digits

/-!
# DocLoad.Number.Decimal128 — 34-digit decimals

A finite `Decimal128` is a coefficient of at most 34 digits and an exponent from -6176 to 6111;
`1.5` and `1.50` are different values.  `read?` accepts a text only when it is representable
without rounding, and takes a significand without digits for zero.  `toText` writes a plain or a
scientific form as the format prescribes.
-/

namespace DocLoad

/-- A decimal floating-point number with its exact representation. -/
inductive Decimal128 where
  | finite (negative : Bool) (coefficient : Nat) (exponent : Int)
  | infinity (negative : Bool)
  | nan (negative signalling : Bool)
deriving DecidableEq, Repr

namespace Decimal128

/-- The number of digits of a coefficient. -/
def precision : Nat := 34

/-- The least exponent. -/
def minExponent : Int := -6176

/-- The greatest exponent. -/
def maxExponent : Int := 6111

/-! ## Reading

The significand of a text is a row of figures times a power of ten.  The row may open with a plus
sign even behind zeros, and the sign takes up a place like a digit. -/

/-- A row of figures and the power of ten that it counts. -/
structure Row where
  figures : List Char
  exponent : Int
deriving DecidableEq, Repr

/-- Whether a power of ten fits 16 bits. -/
def exponentFits (e : Int) : Bool :=
  -32768 ≤ e && e ≤ 32767

/-- Takes `n` zeros off the end, if there are so many. -/
def dropZeros? (n : Nat) (cs : List Char) : Option (List Char) :=
  if n ≤ cs.length ∧ (cs.drop (cs.length - n)).all (· = '0') then some (cs.take (cs.length - n))
  else none

namespace Row

/-- The row without zeros in front; nothing at all is a zero. -/
def trim (r : Row) : Row :=
  match r.figures.dropWhile (· = '0') with
  | [] => { r with figures := ['0'] }
  | cs => { r with figures := cs }

/-- The figures around the first point in one row. -/
def ofSignificand? (cs : List Char) (e : Int) : Option Row :=
  let whole := cs.takeWhile (· ≠ '.')
  let fraction := (cs.dropWhile (· ≠ '.')).drop 1
  if exponentFits fraction.length && exponentFits (e - fraction.length) then
    some (trim ⟨whole ++ fraction, e - fraction.length⟩)
  else none

/-- The row with no more figures than the precision: only zeros may go. -/
def fitPrecision? (r : Row) : Option Row :=
  let surplus := r.figures.length - precision
  if exponentFits surplus && exponentFits (r.exponent + surplus) then
    (dropZeros? surplus r.figures).map fun cs => ⟨cs, r.exponent + surplus⟩
  else none

/-- The row with an exponent in range: zeros go or come at the end, and a single zero takes every
exponent. -/
def fitExponent? (r : Row) : Option Row :=
  if r.figures = ['0'] then
    some { r with exponent := max minExponent (min maxExponent r.exponent) }
  else if r.exponent < minExponent then
    (dropZeros? (minExponent - r.exponent).toNat r.figures).map fun cs => ⟨cs, minExponent⟩
  else if maxExponent < r.exponent then
    let n := (r.exponent - maxExponent).toNat
    if r.figures.length + n ≤ precision then
      some ⟨r.figures ++ List.replicate n '0', maxExponent⟩
    else none
  else some r

/-- The coefficient that the figures write. -/
def coefficient? (r : Row) : Option Nat :=
  match r.figures with
  | '+' :: ds => Text.readDecimal ds
  | ds => Text.readDecimal ds

end Row

/-- The exponent behind a significand: none at all, or a letter and an integer. -/
def readExponent? : List Char → Option Int
  | [] => some 0
  | _ :: cs => (Text.readInt cs).filter exponentFits

/-- The finite number that a text without its sign writes. -/
def readFinite? (negative : Bool) (cs : List Char) : Option Decimal128 := do
  let isLetter := fun c => c = 'e' || c = 'E'
  let e ← readExponent? (cs.dropWhile fun c => !isLetter c)
  let r ← Row.ofSignificand? (cs.takeWhile fun c => !isLetter c) e
  let r ← r.fitPrecision?
  let r ← r.fitExponent?
  return .finite negative (← r.coefficient?) r.exponent

/-- The number that a text writes: infinity or NaN by name in letters of either case, or a finite
number. -/
def read? (cs : List Char) : Option Decimal128 :=
  let (negative, rest) := Numeral.sign cs
  match String.ofList (rest.map Char.toLower) with
  | "inf" | "infinity" => some (.infinity negative)
  | "nan" => some (.nan negative false)
  | "snan" => some (.nan negative true)
  | _ => readFinite? negative rest

/-! ## Writing -/

/-- The scientific form: one digit, the others after a point, and a signed exponent. -/
def scientificText (ds : List Char) (e : Int) : List Char :=
  let mantissa := match ds with
    | d :: d' :: rest => d :: '.' :: d' :: rest
    | ds => ds
  mantissa ++ 'E' :: (if e < 0 then '-' else '+') :: Nat.toDigits 10 e.natAbs

/-- The plain form of an integer coefficient with `places` digits after the point. -/
def plainText (ds : List Char) (places : Nat) : List Char :=
  if places = 0 then ds
  else
    let padded := List.replicate (places + 1 - ds.length) '0' ++ ds
    padded.take (padded.length - places) ++ '.' :: padded.drop (padded.length - places)

/-- A finite magnitude: plain when the exponent is not positive and the number is not below
`10 ^ -6`, scientific otherwise. -/
def finiteText (coefficient : Nat) (exponent : Int) : List Char :=
  let ds := Nat.toDigits 10 coefficient
  let adjusted := exponent + (ds.length - 1 : Nat)
  if exponent ≤ 0 ∧ -6 ≤ adjusted then plainText ds (-exponent).toNat
  else scientificText ds adjusted

/-- The text of a number; a NaN is written without its sign. -/
def toText : Decimal128 → String
  | .finite negative c e => (if negative then "-" else "") ++ String.ofList (finiteText c e)
  | .infinity negative => if negative then "-Infinity" else "Infinity"
  | .nan _ _ => "NaN"

end Decimal128
end DocLoad
