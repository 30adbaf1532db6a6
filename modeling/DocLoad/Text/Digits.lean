/-!
# DocLoad.Text.Digits — digits and the numbers they write

Decimal digits are the ten ASCII digits.  `decimalValue` reads a digit text, `decimal` and
`decimalInt` write one; `hexOfBytes` and `bytesOfHex` write and read pairs of hexadecimal digits.
-/

namespace DocLoad.Text

/-! ## Decimal digits -/

/-- The ten ASCII digits. -/
def isDigit (c : Char) : Bool :=
  '0' ≤ c && c ≤ '9'

/-- The number that a digit stands for. -/
def digitValue (c : Char) : Nat :=
  c.toNat - '0'.toNat

/-- The number that a text of digits writes, most significant digit first. -/
def decimalValue (cs : List Char) : Nat :=
  cs.foldl (fun n c => 10 * n + digitValue c) 0

/-- The number that a non-empty text of digits writes. -/
def readDecimal (cs : List Char) : Option Nat :=
  if cs.isEmpty || !cs.all isDigit then none else some (decimalValue cs)

/-- The decimal digits of a number, without leading zeros. -/
def decimal (n : Nat) : String :=
  String.ofList (Nat.toDigits 10 n)

/-- The decimal digits of a number, with zeros in front up to the given width. -/
def decimalPadded (width n : Nat) : String :=
  let ds := Nat.toDigits 10 n
  String.ofList (List.replicate (width - ds.length) '0' ++ ds)

/-- The decimal digits of an integer, after a minus sign if it is negative. -/
def decimalInt : Int → String
  | .ofNat n => decimal n
  | .negSucc n => "-" ++ decimal (n + 1)

/-- An integer as an optional sign and decimal digits. -/
def readInt : List Char → Option Int
  | '-' :: cs => (readDecimal cs).map fun n => -(n : Int)
  | '+' :: cs => (readDecimal cs).map fun n => (n : Int)
  | cs => (readDecimal cs).map fun n => (n : Int)

/-- The digits at the front of a text and what follows them. -/
def spanDigits (cs : List Char) : List Char × List Char :=
  (cs.takeWhile isDigit, cs.dropWhile isDigit)

/-! ## Hexadecimal digits -/

/-- The number that a hexadecimal digit of either case stands for. -/
def hexValue (c : Char) : Option Nat :=
  if isDigit c then some (digitValue c)
  else if 'a' ≤ c && c ≤ 'f' then some (c.toNat - 'a'.toNat + 10)
  else if 'A' ≤ c && c ≤ 'F' then some (c.toNat - 'A'.toNat + 10)
  else none

/-- The number that a text of hexadecimal digits writes. -/
def hexNumber (cs : List Char) : Option Nat :=
  cs.foldl (fun n c => do return 16 * (← n) + (← hexValue c)) (some 0)

/-- The small hexadecimal digit for a number below sixteen. -/
def hexDigit (n : Nat) : Char :=
  if n < 10 then Char.ofNat ('0'.toNat + n) else Char.ofNat ('a'.toNat + (n - 10))

/-- A byte as two small hexadecimal digits. -/
def hexByte (b : UInt8) : List Char :=
  [hexDigit (b.toNat / 16), hexDigit (b.toNat % 16)]

/-- Bytes as pairs of small hexadecimal digits. -/
def hexOfBytes (bytes : List UInt8) : String :=
  String.ofList (bytes.flatMap hexByte)

/-- The bytes that pairs of hexadecimal digits write. -/
def bytesOfHex : List Char → Option (List UInt8)
  | [] => some []
  | h :: l :: cs => do
    let high ← hexValue h
    let low ← hexValue l
    let bytes ← bytesOfHex cs
    return UInt8.ofNat (16 * high + low) :: bytes
  | [_] => none

end DocLoad.Text
