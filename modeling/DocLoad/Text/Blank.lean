/-!
# DocLoad.Text.Blank — blank characters and trimming

`isBlank` is the Unicode property `White_Space`.  `trim` removes blank characters from both
ends of a text; a text is *blank* when nothing is left of it.
-/

namespace DocLoad.Text

/-- The characters with the Unicode property `White_Space`. -/
def isBlank (c : Char) : Bool :=
  (9 ≤ c.val && c.val ≤ 13) || c.val == 0x20 || c.val == 0x85 || c.val == 0xA0 ||
    c.val == 0x1680 || (0x2000 ≤ c.val && c.val ≤ 0x200A) || c.val == 0x2028 ||
    c.val == 0x2029 || c.val == 0x202F || c.val == 0x205F || c.val == 0x3000

/-- The characters between the first and the last one that are not blank. -/
def trimChars (cs : List Char) : List Char :=
  ((cs.dropWhile isBlank).reverse.dropWhile isBlank).reverse

/-- The text without the blank characters at its ends. -/
def trim (s : String) : String :=
  String.ofList (trimChars s.toList)

/-- The text with its ASCII capitals replaced by small letters. -/
def lowerAscii (s : String) : String :=
  String.ofList (s.toList.map Char.toLower)

end DocLoad.Text
