/-!
# DocLoad.Render.Layout — nested items on one line or on several

A `Layout` is a text that is never broken, or a bracketed list of labelled items.  `flat` writes
everything on one line.  `text` keeps a list on one line if its items, as they are laid out, are
narrow enough and hold no line break; otherwise every item takes a line of its own.
-/

namespace DocLoad

/-- The two kinds of brackets. -/
inductive Bracket where
  | square
  | curly
deriving DecidableEq, Repr

namespace Bracket

def opening : Bracket → Char
  | square => '['
  | curly => '\x7b'

def closing : Bracket → Char
  | square => ']'
  | curly => '\x7d'

end Bracket

/-- A text, or a list in brackets whose items have labels in front of them. -/
inductive Layout where
  | atom (text : List Char)
  | block (bracket : Bracket) (items : List (List Char × Layout))
deriving Repr, Inhabited

namespace Layout

/-- The greatest width of the items of a list on one line. -/
def inlineWidth : Nat := 72

/-- The number of bytes of a text in UTF-8. -/
def width : List Char → Nat
  | [] => 0
  | c :: cs => c.utf8Size + width cs

/-- The texts with a comma and a blank between them. -/
def joined : List (List Char) → List Char
  | [] => []
  | [t] => t
  | t :: ts => t ++ ',' :: ' ' :: joined ts

/-- A list of texts in brackets on one line. -/
def inline (b : Bracket) (ts : List (List Char)) : List Char :=
  if ts.isEmpty then [b.opening, b.closing]
  else b.opening :: ' ' :: joined ts ++ [' ', b.closing]

/-- Two blanks for every level. -/
def indent (depth : Nat) : List Char :=
  List.replicate (2 * depth) ' '

/-- Texts on lines of their own, with commas at the ends of all but the last. -/
def lines (depth : Nat) : List (List Char) → List Char
  | [] => []
  | [t] => indent depth ++ t ++ ['\n']
  | t :: ts => indent depth ++ t ++ ',' :: '\n' :: lines depth ts

/-- A list of texts in brackets, one text a line. -/
def broken (b : Bracket) (depth : Nat) (ts : List (List Char)) : List Char :=
  b.opening :: '\n' :: lines (depth + 1) ts ++ indent depth ++ [b.closing]

/-- The number of bytes of texts, with two more for the separator of each. -/
def totalWidth : List (List Char) → Nat
  | [] => 0
  | t :: ts => width t + 2 + totalWidth ts

/-- Whether texts fit on one line. -/
def fits (ts : List (List Char)) : Bool :=
  totalWidth ts ≤ inlineWidth && ts.all fun t => !t.contains '\n'

mutual
/-- Everything on one line. -/
def flat : Layout → List Char
  | .atom t => t
  | .block b items => inline b (flatItems items)
/-- The items, each on one line behind its label. -/
def flatItems : List (List Char × Layout) → List (List Char)
  | [] => []
  | (label, l) :: rest => (label ++ flat l) :: flatItems rest
end

mutual
/-- The laid-out text of a list that is nested `depth` levels deep. -/
def textAt (depth : Nat) : Layout → List Char
  | .atom t => t
  | .block b items =>
    let ts := textsAt (depth + 1) items
    if ts.isEmpty || fits ts then inline b ts else broken b depth ts
/-- The laid-out items, each behind its label. -/
def textsAt (depth : Nat) : List (List Char × Layout) → List (List Char)
  | [] => []
  | (label, l) :: rest => (label ++ textAt depth l) :: textsAt depth rest
end

/-- The laid-out text. -/
def text (l : Layout) : List Char :=
  textAt 0 l

end Layout
end DocLoad
