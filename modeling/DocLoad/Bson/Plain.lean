import DocLoad.Bson.Basic
import DocLoad.Calendar
import DocLoad.Number.Shortest
import DocLoad.Text.Base64

/-!
# DocLoad.Bson.Plain — values as message text

`Bson.plain` is the text of a value inside a message, all on one line.  It escapes nothing, so it
is meant for reading and cannot be read back.
-/

namespace DocLoad.Bson

/-- A byte in hexadecimal without padding. -/
def subtypeText (subtype : UInt8) : String :=
  String.ofList (Nat.toDigits 16 subtype.toNat)

mutual
/-- The text of a value. -/
def plain : Bson → String
  | .null => "null"
  | .undefined => "undefined"
  | .minKey => "MinKey"
  | .maxKey => "MaxKey"
  | .boolean b => if b then "true" else "false"
  | .int32 n => Text.decimalInt n.toInt
  | .int64 n => Text.decimalInt n.toInt
  | .double x => x.positional "inf"
  | .string s => "\"" ++ s ++ "\""
  | .symbol s => "Symbol(\"" ++ s ++ "\")"
  | .objectId id => "ObjectId(\"" ++ id.hex ++ "\")"
  | .dateTime millis => "DateTime(\"" ++ (Calendar.Moment.clamped millis.toInt).spaced ++ "\")"
  | .array items => "[" ++ ", ".intercalate (plainItems items) ++ "]"
  | .document [] => "\x7b\x7d"
  | .document (f :: fs) => "\x7b " ++ ", ".intercalate (plainFields (f :: fs)) ++ " \x7d"
  | .binary subtype bytes =>
    "Binary(0x" ++ subtypeText subtype ++ ", " ++ String.ofList (Text.Base64.encode bytes) ++ ")"
  | .regex pattern options => "/" ++ pattern ++ "/" ++ options
  | .code s => s
  | .codeWithScope s _ => s
  | .timestamp time increment =>
    "Timestamp(" ++ Text.decimal time.toNat ++ ", " ++ Text.decimal increment.toNat ++ ")"
  | .decimal x => x.toText
  | .dbPointer ns id => "DbPointer(" ++ ns ++ ", " ++ id.hex ++ ")"
/-- The texts of the values of a list. -/
def plainItems : List Bson → List String
  | [] => []
  | v :: vs => plain v :: plainItems vs
/-- The texts of fields, each key in double quotes. -/
def plainFields : List (String × Bson) → List String
  | [] => []
  | (k, v) :: rest => ("\"" ++ k ++ "\": " ++ plain v) :: plainFields rest
end

end DocLoad.Bson
