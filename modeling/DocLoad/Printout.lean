import DocLoad.Operation
import DocLoad.Render.Shell

/-!
# DocLoad.Printout — what is shown of an outcome

The value of an outcome is rendered, and for lists of documents and missing documents a summary
follows in grey.
-/

namespace DocLoad

/-- What is written to standard output: a value, and a line in grey below it. -/
structure Printout where
  text : String
  summary : Option String
deriving DecidableEq, Repr

namespace Printout

/-- The summary of an outcome that is a list of documents or might have been a document. -/
def summaryOf : Outcome → Option String
  | .documents [_] => some "(1 document)"
  | .documents ds => some ("(" ++ Text.decimal ds.length ++ " documents)")
  | .document none => some "(no match)"
  | _ => none

/-- What an outcome is shown as. -/
def ofOutcome (outcome : Outcome) : Printout :=
  ⟨outcome.toBson.render, summaryOf outcome⟩

/-- Switches the terminal to dark grey. -/
def grey : String := "\x1b[38;5;8m"

/-- Switches the terminal back. -/
def plainColour : String := "\x1b[0m"

/-- The characters that are written. -/
def toText (p : Printout) : String :=
  p.text ++ "\n" ++
    match p.summary with
    | none => ""
    | some summary => grey ++ summary ++ "\n" ++ plainColour

end Printout
end DocLoad
