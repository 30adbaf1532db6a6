import DocLoad.Number.Double
import DocLoad.Text.Digits

/-!
# DocLoad.Number.Literal — decimal numerals

A `Numeral` is the parsed form of an optional sign, digits with at most one point among or around
them, and an optional exponent.  `Numeral.read` accepts exactly these texts, `Numeral.toDouble`
rounds them correctly.
-/

namespace DocLoad

/-- A decimal numeral in its parts.  `fraction` is present when a point was written. -/
structure Numeral where
  negative : Bool
  whole : List Char
  fraction : Option (List Char)
  exponent : Option Int
deriving DecidableEq, Repr

namespace Numeral

/-- An optional sign and the rest. -/
def sign : List Char → Bool × List Char
  | '-' :: cs => (true, cs)
  | '+' :: cs => (false, cs)
  | cs => (false, cs)

/-- An exponent part that takes up the whole text, or nothing at all. -/
def readExponent : List Char → Option (Option Int)
  | [] => some none
  | c :: cs => if c = 'e' ∨ c = 'E' then (Text.readInt cs).map some else none

/-- The parts of a text that is a numeral. -/
def read (cs : List Char) : Option Numeral :=
  let (negative, cs) := sign cs
  let (whole, rest) := Text.spanDigits cs
  match rest with
  | '.' :: rest =>
    let (fraction, rest) := Text.spanDigits rest
    if whole.isEmpty && fraction.isEmpty then none
    else (readExponent rest).map fun e => ⟨negative, whole, some fraction, e⟩
  | rest =>
    if whole.isEmpty then none
    else (readExponent rest).map fun e => ⟨negative, whole, none, e⟩

/-- The integer that a numeral without point and exponent writes. -/
def toInt? (n : Numeral) : Option Int :=
  match n.fraction, n.exponent with
  | none, none =>
    let m : Int := Text.decimalValue n.whole
    some (if n.negative then -m else m)
  | _, _ => none

/-- The binary64 number nearest to the value of a numeral. -/
def toDouble (n : Numeral) : Double :=
  let fraction := n.fraction.getD []
  Double.ofScientific n.negative (Text.decimalValue (n.whole ++ fraction))
    (n.exponent.getD 0 - fraction.length)

end Numeral

/-- The binary64 number that a text writes: a numeral, or an infinity or NaN by name in letters of
either case. -/
def Double.ofText? (cs : List Char) : Option Double :=
  match Numeral.read cs with
  | some n => some n.toDouble
  | none =>
    let (negative, rest) := Numeral.sign cs
    match String.ofList (rest.map Char.toLower) with
    | "inf" | "infinity" => some (.infinity negative)
    | "nan" => some .nan
    | _ => none

end DocLoad
