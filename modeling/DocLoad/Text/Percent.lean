import DocLoad.Text.Digits

/-!
# DocLoad.Text.Percent — percent-encoded text

A byte may be written as a percent sign and two hexadecimal digits.  `percentDecode?` puts the
bytes back; a percent sign without two digits stands for itself.
-/

namespace DocLoad.Text

/-- The bytes that a percent-encoded text stands for. -/
def percentBytes : List Char → List UInt8
  | '%' :: a :: b :: cs =>
    match bytesOfHex [a, b] with
    | some [byte] => byte :: percentBytes cs
    | _ => '%'.toNat.toUInt8 :: percentBytes (a :: b :: cs)
  | c :: cs => (String.singleton c).toUTF8.data.toList ++ percentBytes cs
  | [] => []

/-- The text that a percent-encoded text stands for, if its bytes are one. -/
def percentDecode? (cs : List Char) : Option String :=
  String.fromUTF8? ⟨(percentBytes cs).toArray⟩

end DocLoad.Text
