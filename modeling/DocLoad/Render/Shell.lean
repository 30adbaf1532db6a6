import DocLoad.Bson.Plain
import DocLoad.Render.Layout

/-!
# DocLoad.Render.Shell — values in the notation of a database shell

Keys that are identifiers stand bare and all others in quotes; strings are in single quotes with
escapes; identifiers and dates are written as calls.  `Bson.render` lays a value out, however
deeply it is nested.
-/

namespace DocLoad

namespace Shell

/-- The characters that stand for one character of a quoted text. -/
def escape (c : Char) : List Char :=
  if c = '\'' ∨ c = '\\' then ['\\', c]
  else if c = '\n' then ['\\', 'n']
  else if c = '\t' then ['\\', 't']
  else [c]

/-- A text in single quotes. -/
def quoted (cs : List Char) : List Char :=
  '\'' :: cs.flatMap escape ++ ['\'']

/-- A character that may start an identifier: an ASCII letter, `_` or `$`. -/
def isIdentStart (c : Char) : Bool :=
  ('a' ≤ c && c ≤ 'z') || ('A' ≤ c && c ≤ 'Z') || c == '_' || c == '$'

/-- A character that may continue an identifier. -/
def isIdentRest (c : Char) : Bool :=
  isIdentStart c || ('0' ≤ c && c ≤ '9')

/-- Whether a key can stand without quotes. -/
def isIdent : List Char → Bool
  | [] => false
  | c :: cs => isIdentStart c && cs.all isIdentRest

/-- A key, in quotes if necessary. -/
def key (cs : List Char) : List Char :=
  if isIdent cs then cs else quoted cs

/-- The text of a value that is neither an array nor a document. -/
def scalar : Bson → String
  | .null | .undefined => "null"
  | .boolean b => if b then "true" else "false"
  | .int32 n => Text.decimalInt n.toInt
  | .int64 n => Text.decimalInt n.toInt
  | .double x => x.positional "Infinity"
  | .string s => String.ofList (quoted s.toList)
  | .objectId id => "ObjectId('" ++ id.hex ++ "')"
  | .dateTime millis =>
    match (Calendar.Moment.ofMillis millis.toInt).iso? with
    | some iso => "ISODate('" ++ iso ++ "')"
    | none => "ISODate(" ++ Text.decimalInt millis.toInt ++ ")"
  | other => other.plain

end Shell

namespace Bson

mutual
/-- The layout of a value: arrays in square brackets, documents in curly ones with their keys as
labels. -/
def layout : Bson → Layout
  | .array items => .block .square (itemLayouts items)
  | .document fields => .block .curly (fieldLayouts fields)
  | other => .atom (Shell.scalar other).toList
/-- The layouts of the values of an array, without labels. -/
def itemLayouts : List Bson → List (List Char × Layout)
  | [] => []
  | v :: vs => ([], layout v) :: itemLayouts vs
/-- The layouts of the values of a document behind their keys. -/
def fieldLayouts : List (String × Bson) → List (List Char × Layout)
  | [] => []
  | (k, v) :: rest => (Shell.key k.toList ++ [':', ' '], layout v) :: fieldLayouts rest
end

/-- The text of a value in shell notation. -/
def render (v : Bson) : String :=
  String.ofList v.layout.text

end Bson
end DocLoad
