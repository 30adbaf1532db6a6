/-!
# DocLoad.Text.Split — cutting a text at separators

`splitChar` cuts at every occurrence of one character and `splitPair` at the occurrences of a pair
of characters, taken from left to right without overlap.  Both always yield at least one piece.
`cutFirst` cuts at the first occurrence only.
-/

namespace DocLoad.Text

/-- Puts a character in front of the first piece. -/
def consFirst (c : Char) : List (List Char) → List (List Char)
  | [] => [[c]]
  | p :: ps => (c :: p) :: ps

/-- The pieces between the occurrences of `sep`. -/
def splitChar (sep : Char) : List Char → List (List Char)
  | [] => [[]]
  | c :: cs => if c = sep then [] :: splitChar sep cs else consFirst c (splitChar sep cs)

/-- The pieces between the occurrences of `a` followed by `b`. -/
def splitPair (a b : Char) : List Char → List (List Char)
  | [] => [[]]
  | [c] => [[c]]
  | c :: d :: cs =>
    if c = a ∧ d = b then [] :: splitPair a b cs else consFirst c (splitPair a b (d :: cs))

/-- What stands before and after the first `sep`, if there is one. -/
def cutFirst (sep : Char) : List Char → Option (List Char × List Char)
  | [] => none
  | c :: cs =>
    if c = sep then some ([], cs) else (cutFirst sep cs).map fun (p, q) => (c :: p, q)

/-- Whether `pattern` occurs somewhere in the text. -/
def containsSub (pattern : List Char) : List Char → Bool
  | [] => pattern.isEmpty
  | c :: cs => pattern.isPrefixOf (c :: cs) || containsSub pattern cs

end DocLoad.Text
