/-!
# DocLoad.Number.Double — binary64 numbers by exact arithmetic

A `Double` is a sign and the other 63 bits read as one natural number, its `code`.  Codes grow
with the magnitude they stand for: below `infinityCode` they are finite, `infinityCode` is
infinity and larger ones are NaN.  `unitsOf` gives the magnitude of a finite code exactly, as a
natural multiple of `2 ^ -1074`, and `nearestCode` goes back: it rounds a ratio of natural numbers
to the nearest code, ties to even.

No machine float is involved, so every fact about rounding is a fact about `Nat`.
-/

namespace DocLoad

/-- A binary64 number: its sign bit and its remaining 63 bits as a number. -/
structure Double where
  negative : Bool
  code : Nat
  code_lt : code < Nat.pow 2 63
deriving DecidableEq, Repr

namespace Double

/-! ## Classes -/

/-- The code of infinity: all exponent bits set, fraction zero. -/
def infinityCode : Nat := 2047 * Nat.pow 2 52

theorem infinityCode_lt : infinityCode < Nat.pow 2 63 := by decide

/-- Neither infinite nor NaN. -/
def isFinite (x : Double) : Bool := x.code < infinityCode

def isInfinite (x : Double) : Bool := x.code == infinityCode

def isNaN (x : Double) : Bool := infinityCode < x.code

/-- A zero of the given sign. -/
def zero (negative : Bool) : Double := ⟨negative, 0, by decide⟩

/-- An infinity of the given sign. -/
def infinity (negative : Bool) : Double := ⟨negative, infinityCode, infinityCode_lt⟩

/-- The NaN whose only fraction bit is the quiet bit. -/
def nan : Double := ⟨false, infinityCode + Nat.pow 2 51, by decide⟩

/-! ## Bits -/

/-- The number whose 64 bits are given. -/
def ofBits (bits : UInt64) : Double :=
  ⟨Nat.pow 2 63 ≤ bits.toNat, bits.toNat % Nat.pow 2 63, Nat.mod_lt _ (by decide)⟩

/-- The 64 bits of a number. -/
def toBits (x : Double) : UInt64 :=
  UInt64.ofNat ((if x.negative then Nat.pow 2 63 else 0) + x.code)

/-! ## Magnitudes -/

/-- The magnitude of a finite code in units of `2 ^ -1074`.  Exponent field zero means a fraction
without the implicit leading bit. -/
def unitsOf (code : Nat) : Nat :=
  let exponent := code / Nat.pow 2 52
  let fraction := code % Nat.pow 2 52
  if exponent = 0 then fraction else (Nat.pow 2 52 + fraction) <<< (exponent - 1)

/-- The quotient rounded to the nearest integer, a half to the even neighbour. -/
def roundDiv (num den : Nat) : Nat :=
  let q := num / den
  let r := num % den
  if den < 2 * r ∨ (2 * r = den ∧ q % 2 = 1) then q + 1 else q

/-- The code nearest to `num / den`; a magnitude beyond the largest finite one is infinite.

With `k` the number of low bits that do not fit, the rounded 53-bit significand is added to `k`
times the size of a binade: a carry out of the significand then moves into the exponent. -/
def nearestCode (num den : Nat) : Nat :=
  let scaled := num <<< 1074
  let k := Nat.log2 (scaled / den) - 52
  min infinityCode (k * Nat.pow 2 52 + roundDiv scaled (den <<< k))

/-- Every nearest code is in range, since none is beyond infinity. -/
theorem nearestCode_lt (num den : Nat) : nearestCode num den < Nat.pow 2 63 :=
  Nat.lt_of_le_of_lt (Nat.min_le_left _ _) infinityCode_lt

/-- The number nearest to `num / den` with the given sign. -/
def ofRatio (negative : Bool) (num den : Nat) : Double :=
  ⟨negative, nearestCode num den, nearestCode_lt num den⟩

/-- The number nearest to an integer. -/
def ofInt (n : Int) : Double :=
  ofRatio (n < 0) n.natAbs 1

/-- The number nearest to `m * 10 ^ e`.  The two outer cases answer without the power: there the
magnitude is above the largest finite one, or below a quarter of the smallest. -/
def ofScientific (negative : Bool) (m : Nat) (e : Int) : Double :=
  match e with
  | .ofNat e =>
    if m = 0 then zero negative
    else if 400 < e then infinity negative
    else ofRatio negative (m * Nat.pow 10 e) 1
  | .negSucc e =>
    if Nat.log2 m + 1077 ≤ 3 * (e + 1) then zero negative
    else ofRatio negative m (Nat.pow 10 (e + 1))

/-! ## Comparison -/

/-- Equality of numbers: a NaN equals nothing, and the two zeros are equal. -/
def numEq (x y : Double) : Bool :=
  !x.isNaN && !y.isNaN && x.code == y.code && (x.negative == y.negative || x.code == 0)

/-! ## Arithmetic on magnitudes -/

/-- The rounded product with a power of ten that is itself rounded. -/
def mulPow10 (x : Double) (n : Nat) : Double :=
  ofRatio x.negative (unitsOf x.code * unitsOf (nearestCode (Nat.pow 10 n) 1)) (Nat.pow 2 2148)

/-- The rounded quotient by a power of ten that is itself rounded. -/
def divPow10 (x : Double) (n : Nat) : Double :=
  ofRatio x.negative (unitsOf x.code) (unitsOf (nearestCode (Nat.pow 10 n) 1))

end Double
end DocLoad
