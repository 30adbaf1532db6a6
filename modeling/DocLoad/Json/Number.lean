import DocLoad.Number.Double
import DocLoad.Text.Digits

/-!
# DocLoad.Json.Number — number literals of JSON

A literal without point and exponent is an integer when it fits 64 bits, with or without sign.
Every other literal is a binary64 number found by scaling: the significand is cut to the digits
that fit 64 unsigned bits, converted, and then multiplied or divided by a power of ten.  The two
roundings make the result differ from the nearest number in the last place now and then.
-/

namespace DocLoad.Json

/-- A JSON number. -/
inductive Number where
  | integer (n : Int)
  | double (x : Double)
deriving DecidableEq, Repr

namespace Number

/-- A literal in its parts. -/
structure Literal where
  negative : Bool
  whole : List Char
  fraction : List Char
  exponentNegative : Bool
  exponent : List Char
  isInteger : Bool
deriving DecidableEq, Repr

/-- Appends a digit to a significand if the result fits 64 bits. -/
def push? (significand : Nat) (c : Char) : Option Nat :=
  let n := 10 * significand + Text.digitValue c
  if n < UInt64.size then some n else none

/-- The significand made of the longest run of digits that fits, and the digits left over. -/
def significand : (acc : Nat) → List Char → Nat × List Char
  | acc, [] => (acc, [])
  | acc, c :: cs =>
    match push? acc c with
    | some acc => significand acc cs
    | none => (acc, c :: cs)

/-- Multiplies or divides by a power of ten.  A quotient by more than `10 ^ 308` is taken in steps
of that size; a product that overflows has no value. -/
def scale : (fuel : Nat) → Double → Int → Option Double
  | 0, x, _ => some x
  | fuel + 1, x, e =>
    if e.natAbs ≤ 308 then
      let y := if 0 ≤ e then x.mulPow10 e.natAbs else x.divPow10 e.natAbs
      if y.isInfinite then none else some y
    else if x.code = 0 then some x
    else if 0 ≤ e then none
    else scale fuel (x.divPow10 308) (e + 308)

/-- The number of quotients by `10 ^ 308` after which every significand has become zero. -/
def scaleSteps : Nat := 4

/-- The number `± significand * 10 ^ e`. -/
def ofScaled (negative : Bool) (significand : Nat) (e : Int) : Option Double :=
  (scale scaleSteps (Double.ofInt significand) e).map fun x => ⟨negative, x.code, x.code_lt⟩

/-- The significand and the power of ten that the digits of a literal stand for.  A digit left over
before the point counts as a zero, one left over after it not at all. -/
def scaledDigits (whole fraction : List Char) : Nat × Int :=
  let (m, unused) := significand 0 whole
  let (m, ignored) := significand m fraction
  (m, (unused.length : Int) - (fraction.length - ignored.length : Nat))

/-- The binary64 number that a literal writes. -/
def Literal.toDouble? (l : Literal) : Option Double :=
  let (m, e) := scaledDigits l.whole l.fraction
  let written := Text.decimalValue l.exponent
  if written < Nat.pow 2 31 then
    let e := if l.exponentNegative then e - written else e + written
    ofScaled l.negative m (max Int32.minValue.toInt (min Int32.maxValue.toInt e))
  else if m ≠ 0 ∧ !l.exponentNegative then none
  else some (.zero l.negative)

/-- The number that a literal writes; a negative zero is a binary64 number. -/
def Literal.toNumber? (l : Literal) : Option Number :=
  let n := Text.decimalValue l.whole
  if l.isInteger && !l.negative && n < UInt64.size then some (.integer n)
  else if l.isInteger && l.negative && 0 < n && n ≤ Nat.pow 2 63 then some (.integer (-n))
  else l.toDouble?.map .double

/-- Reads the digits before a point: a zero alone, or digits that do not start with zero. -/
def readWhole : List Char → Option (List Char × List Char)
  | '0' :: cs =>
    match cs with
    | c :: _ => if Text.isDigit c then none else some (['0'], cs)
    | [] => some (['0'], [])
  | cs =>
    let (ds, rest) := Text.spanDigits cs
    if ds.isEmpty then none else some (ds, rest)

/-- Reads a point and at least one digit, if there is a point. -/
def readFraction : List Char → Option (Option (List Char) × List Char)
  | '.' :: cs =>
    let (ds, rest) := Text.spanDigits cs
    if ds.isEmpty then none else some (some ds, rest)
  | cs => some (none, cs)

/-- Reads an exponent with at least one digit, if there is an exponent mark. -/
def readExponent : List Char → Option (Option (Bool × List Char) × List Char)
  | c :: cs =>
    if c = 'e' ∨ c = 'E' then
      let (negative, cs) := match cs with
        | '-' :: cs => (true, cs)
        | '+' :: cs => (false, cs)
        | cs => (false, cs)
      let (ds, rest) := Text.spanDigits cs
      if ds.isEmpty then none else some (some (negative, ds), rest)
    else some (none, c :: cs)
  | [] => some (none, [])

/-- Reads a number literal from the front of a text. -/
def read (cs : List Char) : Option (Number × List Char) := do
  let (negative, cs) := match cs with
    | '-' :: cs => (true, cs)
    | cs => (false, cs)
  let (whole, cs) ← readWhole cs
  let (fraction, cs) ← readFraction cs
  let (exponent, cs) ← readExponent cs
  let literal : Literal :=
    { negative, whole
      fraction := fraction.getD []
      exponentNegative := (exponent.map (·.1)).getD false
      exponent := (exponent.map (·.2)).getD []
      isInteger := fraction.isNone && exponent.isNone }
  let number ← literal.toNumber?
  return (number, cs)

end Number
end DocLoad.Json
