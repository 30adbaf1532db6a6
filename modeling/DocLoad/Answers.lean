import DocLoad.Draft
import DocLoad.Error

/-!
# DocLoad.Answers — the operator's input as answers

The operator answers each question with one line.  `Answers.ofBytes` cuts an input into lines and
gives the answer in each: what is left of its text without the line end after all backspaces, or
the failure of a line that is not text.
-/

namespace DocLoad.Answers

/-- The byte that ends a line. -/
def lineFeed : UInt8 := 10

/-- The byte that may stand before a line feed. -/
def carriageReturn : UInt8 := 13

/-- The lines of an input, each with its line feed; only the last one may lack it. -/
def lines : List UInt8 → List (List UInt8)
  | [] => []
  | b :: bs =>
    if b = lineFeed then [b] :: lines bs
    else
      match lines bs with
      | [] => [[b]]
      | l :: ls => (b :: l) :: ls

/-- No byte is lost between the lines. -/
theorem flatten_lines (bs : List UInt8) : (lines bs).flatten = bs := by
  induction bs with
  | nil => rfl
  | cons b bs ih =>
    unfold lines
    split
    · simp [ih]
    · cases h : lines bs <;> simp_all

/-- A line without its line feed, and without a carriage return before that. -/
def withoutEnd (line : List UInt8) : List UInt8 :=
  if line.getLast? = some lineFeed then
    let line := line.dropLast
    if line.getLast? = some carriageReturn then line.dropLast else line
  else line

/-- The answer in a line. -/
def ofLine (line : List UInt8) : Except Error String :=
  match (String.fromUTF8? ⟨(withoutEnd line).toArray⟩).bind Draft.settle with
  | some answer => .ok answer
  | none => .error .notTextInput

/-- The answers in an input. -/
def ofBytes (input : ByteArray) : List (Except Error String) :=
  (lines input.data.toList).map ofLine

end DocLoad.Answers
