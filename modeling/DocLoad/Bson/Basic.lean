import DocLoad.Fields
import DocLoad.Number.Decimal128
import DocLoad.Number.Double
import DocLoad.Text.Digits

/-!
# DocLoad.Bson.Basic — values and documents

`Bson` is the type of values; a `Document` is a list of fields with such values.
`==` compares values by what can be looked up in them: two documents are equal when every key has
equal values, or none, in both, whatever the order of their fields.  Numbers of different types
differ, and a NaN differs from itself.
-/

namespace DocLoad

/-- A 12-byte identifier. -/
structure ObjectId where
  value : BitVec 96
deriving DecidableEq, Repr

namespace ObjectId

/-- The low `width` hexadecimal digits of a number. -/
def hexDigits : (width n : Nat) → List Char
  | 0, _ => []
  | width + 1, n => hexDigits width (n / 16) ++ [Text.hexDigit (n % 16)]

/-- The 24 small hexadecimal digits of an identifier. -/
def hex (id : ObjectId) : String :=
  String.ofList (hexDigits 24 id.value.toNat)

/-- The identifier with the given hexadecimal digits. -/
def ofHex? (cs : List Char) : Option ObjectId :=
  if cs.length = 24 then (Text.hexNumber cs).map fun n => ⟨BitVec.ofNat 96 n⟩ else none

end ObjectId

/-- A value that a document can hold. -/
inductive Bson where
  | null
  | undefined
  | minKey
  | maxKey
  | boolean (b : Bool)
  | int32 (n : Int32)
  | int64 (n : Int64)
  | double (x : Double)
  | string (s : String)
  | symbol (s : String)
  | objectId (id : ObjectId)
  | dateTime (millis : Int64)
  | array (items : List Bson)
  | document (fields : List (String × Bson))
  | binary (subtype : UInt8) (bytes : List UInt8)
  | regex (pattern options : String)
  | code (s : String)
  | codeWithScope (s : String) (scope : List (String × Bson))
  | timestamp (time increment : UInt32)
  | decimal (x : Decimal128)
  | dbPointer (ns : String) (id : ObjectId)
deriving Repr, Inhabited

/-- The fields of a document in order. -/
abbrev Document := Fields Bson

namespace Bson

/-! ## Equality -/

mutual
/-- Equality of values. -/
def beq : Bson → Bson → Bool
  | .null, .null | .undefined, .undefined | .minKey, .minKey | .maxKey, .maxKey => true
  | .boolean a, .boolean b => a == b
  | .int32 a, .int32 b => a == b
  | .int64 a, .int64 b => a == b
  | .double a, .double b => a.numEq b
  | .string a, .string b => a == b
  | .symbol a, .symbol b => a == b
  | .objectId a, .objectId b => a == b
  | .dateTime a, .dateTime b => a == b
  | .array a, .array b => itemsBeq a b
  | .document a, .document b => fieldsAgree [] a b && b.all fun f => (Fields.get? f.1 a).isSome
  | .binary s a, .binary t b => s == t && a == b
  | .regex p o, .regex p' o' => p == p' && o == o'
  | .code a, .code b => a == b
  | .codeWithScope s a, .codeWithScope t b =>
    s == t && fieldsAgree [] a b && b.all fun f => (Fields.get? f.1 a).isSome
  | .timestamp t i, .timestamp t' i' => t == t' && i == i'
  | .decimal a, .decimal b => a == b
  | .dbPointer n a, .dbPointer m b => n == m && a == b
  | _, _ => false
/-- Equality of lists of values, element by element. -/
def itemsBeq : List Bson → List Bson → Bool
  | [], [] => true
  | a :: as, b :: bs => beq a b && itemsBeq as bs
  | _, _ => false
/-- Whether the first field of each key outside `seen` has an equal value in the other document. -/
def fieldsAgree (seen : List String) : List (String × Bson) → List (String × Bson) → Bool
  | [], _ => true
  | (k, v) :: rest, b =>
    (seen.contains k ||
      match Fields.get? k b with
      | some w => beq v w
      | none => false) && fieldsAgree (k :: seen) rest b
end

instance : BEq Bson := ⟨beq⟩

end Bson

/-- Equality of documents, whatever the order of their fields. -/
def Document.same (a b : Document) : Bool :=
  Bson.document a == Bson.document b

namespace Bson

/-! ## Integers -/

/-- A 64-bit integer, stored in 32 bits if it fits. -/
def narrow (n : Int64) : Bson :=
  if Int32.minValue.toInt ≤ n.toInt ∧ n.toInt ≤ Int32.maxValue.toInt then
    .int32 (Int32.ofInt n.toInt)
  else .int64 n

/-- An integer in the narrower of the two widths that hold it, if one does. -/
def ofInt? (n : Int) : Option Bson :=
  if Int64.minValue.toInt ≤ n ∧ n ≤ Int64.maxValue.toInt then some (narrow (Int64.ofInt n))
  else none

/-- A count as a 64-bit integer. -/
def ofCount (n : Nat) : Bson :=
  .int64 (Int64.ofNat n)

end Bson
end DocLoad
