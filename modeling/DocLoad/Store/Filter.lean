import DocLoad.Bson.Path
import DocLoad.Store.Call

/-!
# DocLoad.Store.Filter — which documents a filter selects

A filter asks for equal values at dotted paths.  A value matches if it equals the expected one; an
array also matches if one of its items does, unless an array is expected; a missing value matches
only `null`.  Integers of different widths are equal when they are the same number, and a number is
equal to a double when it becomes that double by conversion.
-/

namespace DocLoad

namespace Bson

/-- The number of an integer of either width. -/
def integer? : Bson → Option Int64
  | .int32 n => some n.toInt64
  | .int64 n => some n
  | _ => none

/-- The binary64 number that a numeric value becomes. -/
def double? : Bson → Option Double
  | .int32 n => some (Double.ofInt n.toInt)
  | .int64 n => some (Double.ofInt n.toInt)
  | .double x => some x
  | _ => none

/-- Equality for filters: numbers compare by value. -/
def valueEq (actual expected : Bson) : Bool :=
  match actual.integer?, expected.integer? with
  | some a, some b => a == b
  | _, _ =>
    match actual.double?, expected.double? with
    | some x, some y => x.numEq y
    | _, _ => actual == expected

/-- Whether a value is an array. -/
def isArray : Bson → Bool
  | .array _ => true
  | _ => false

/-- Whether what was found at a path matches the expected value. -/
def meets (expected : Bson) : Option Bson → Bool
  | some (.array items) =>
    if expected.isArray then valueEq (.array items) expected
    else items.any fun item => valueEq item expected
  | some actual => valueEq actual expected
  | none => match expected with
    | .null => true
    | _ => false

end Bson

/-- Whether a key names an operator. -/
def isOperator (key : String) : Bool :=
  key.toList.head? == some '$'

namespace Document

/-- The first key that names an operator. -/
def operator? (d : Document) : Option String :=
  (Fields.keys d).find? isOperator

/-- Refuses a filter with an operator. -/
def checkFilter (filter : Document) : Except StoreError Unit :=
  match filter.operator? with
  | some key => .error (.queryOperator key)
  | none => .ok ()

/-- Whether a document has what a filter asks for. -/
def satisfies (filter d : Document) : Bool :=
  filter.all fun (path, expected) => expected.meets (d.lookup? (Path.ofString path))

end Document
end DocLoad
