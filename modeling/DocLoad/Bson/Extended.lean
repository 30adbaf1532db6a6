import DocLoad.Bson.Basic
import DocLoad.Calendar
import DocLoad.Json.Value
import DocLoad.Text.Base64

/-!
# DocLoad.Bson.Extended — values from extended JSON

`Bson.ofJson?` turns a JSON value into a `Bson` value.  An object with one of the marker keys below
stands for a single value and must have exactly the members that belong to its marker; where
several values belong together, or a further marker, an array of them in the order of their keys
may take the place of the object.  Every other object is a document, and an integer takes the
narrower width that holds it.
-/

namespace DocLoad.Json

/-- The values under the given keys of an object that has no others, or the items of an array of as
many. -/
def members? (keys : List String) : Json → Option (List Json)
  | .object members =>
    if members.length = keys.length then keys.mapM fun k => Fields.get? k members else none
  | .array items => if items.length = keys.length then some items else none
  | _ => none

/-- The text of a JSON string. -/
def text? : Json → Option String
  | .string s => some s
  | _ => none

/-- The integer of a JSON number that is one. -/
def integer? : Json → Option Int
  | .number (.integer n) => some n
  | _ => none

end DocLoad.Json

namespace DocLoad.Bson

/-- The markers, in the order in which an object is searched for them. -/
inductive Marker where
  | oid
  | symbol
  | regularExpression
  | numberInt
  | numberLong
  | numberDouble
  | numberDecimal
  | binary
  | uuid
  | code
  | timestamp
  | date
  | minKey
  | maxKey
  | dbPointer
  | undefined
deriving DecidableEq, Repr

namespace Marker

/-- Every marker, in the order of the search. -/
def all : List Marker :=
  [oid, symbol, regularExpression, numberInt, numberLong, numberDouble, numberDecimal, binary, uuid,
    code, timestamp, date, minKey, maxKey, dbPointer, undefined]

/-- The key of a marker. -/
def key : Marker → String
  | oid => "$oid"
  | symbol => "$symbol"
  | regularExpression => "$regularExpression"
  | numberInt => "$numberInt"
  | numberLong => "$numberLong"
  | numberDouble => "$numberDouble"
  | numberDecimal => "$numberDecimal"
  | binary => "$binary"
  | uuid => "$uuid"
  | code => "$code"
  | timestamp => "$timestamp"
  | date => "$date"
  | minKey => "$minKey"
  | maxKey => "$maxKey"
  | dbPointer => "$dbPointer"
  | undefined => "$undefined"

/-- The first marker whose key an object has. -/
def find? (members : Fields Json) : Option Marker :=
  all.find? fun m => (members.get? m.key).isSome

end Marker

/-! ## Parts of extended values -/

/-- A value if it lies in a range. -/
def within? (low high n : Int) : Option Int :=
  if low ≤ n ∧ n ≤ high then some n else none

/-- The identifier of a JSON string of 24 hexadecimal digits. -/
def objectId? (j : Json) : Option ObjectId := do
  ObjectId.ofHex? (← j.text?).toList

/-- The 64-bit integer of a JSON string. -/
def int64Text? (j : Json) : Option Int64 := do
  let n ← Text.readInt (← j.text?).toList
  return Int64.ofInt (← within? Int64.minValue.toInt Int64.maxValue.toInt n)

/-- The 32-bit unsigned integer of a JSON number. -/
def uint32? (j : Json) : Option UInt32 := do
  return UInt32.ofNat (← within? 0 (UInt32.size - 1) (← j.integer?)).toNat

/-- The 32 hexadecimal digits of a UUID text: bare, or in groups of 8, 4, 4, 4 and 12 that may
stand in braces or behind `urn:uuid:`. -/
def uuidDigits? (cs : List Char) : Option (List Char) :=
  if cs.length = 32 then some cs
  else
    let inner :=
      if cs.length = 38 then
        if cs.head? = some '\x7b' ∧ cs.getLast? = some '\x7d' then (cs.drop 1).take 36 else []
      else if cs.length = 45 then
        if cs.take 9 = "urn:uuid:".toList then cs.drop 9 else []
      else cs
    if inner.length = 36 ∧ inner[8]? = some '-' ∧ inner[13]? = some '-' ∧ inner[18]? = some '-'
        ∧ inner[23]? = some '-' then
      some (inner.take 8 ++ (inner.drop 9).take 4 ++ (inner.drop 14).take 4
        ++ (inner.drop 19).take 4 ++ inner.drop 24)
    else none

/-- The order of characters by their numbers. -/
def insertSorted (c : Char) : List Char → List Char
  | [] => [c]
  | d :: ds => if c ≤ d then c :: d :: ds else d :: insertSorted c ds

/-- The characters of an option text in order. -/
def sortedOptions (s : String) : String :=
  String.ofList (s.toList.foldr insertSorted [])

/-! ## Values without inner values -/

/-- The value of an object with a marker other than `$code`. -/
def ofMarked? (members : Fields Json) : Marker → Option Bson
  | .oid => do
    let [j] ← Json.members? ["$oid"] (.object members) | none
    return .objectId (← objectId? j)
  | .symbol => do
    let [j] ← Json.members? ["$symbol"] (.object members) | none
    return .symbol (← j.text?)
  | .regularExpression => do
    let [j] ← Json.members? ["$regularExpression"] (.object members) | none
    let [pattern, options] ← Json.members? ["pattern", "options"] j | none
    return .regex (← pattern.text?) (sortedOptions (← options.text?))
  | .numberInt => do
    let [j] ← Json.members? ["$numberInt"] (.object members) | none
    let n ← Text.readInt (← j.text?).toList
    return .int32 (Int32.ofInt (← within? Int32.minValue.toInt Int32.maxValue.toInt n))
  | .numberLong => do
    let [j] ← Json.members? ["$numberLong"] (.object members) | none
    return .int64 (← int64Text? j)
  | .numberDouble => do
    let [j] ← Json.members? ["$numberDouble"] (.object members) | none
    return .double (← Double.ofText? (← j.text?).toList)
  | .numberDecimal => do
    let [j] ← Json.members? ["$numberDecimal"] (.object members) | none
    return .decimal (← Decimal128.read? (← j.text?).toList)
  | .binary => do
    let [j] ← Json.members? ["$binary"] (.object members) | none
    let [base64, subtype] ← Json.members? ["base64", "subType"] j | none
    let bytes ← Text.Base64.decode (← base64.text?).toList
    let [subtype] ← Text.bytesOfHex (← subtype.text?).toList | none
    return .binary subtype bytes
  | .uuid => do
    let [j] ← Json.members? ["$uuid"] (.object members) | none
    let digits ← uuidDigits? (← j.text?).toList
    return .binary 4 (← Text.bytesOfHex digits)
  | .code => none
  | .timestamp => do
    let [j] ← Json.members? ["$timestamp"] (.object members) | none
    let [t, i] ← Json.members? ["t", "i"] j | none
    return .timestamp (← uint32? t) (← uint32? i)
  | .date => do
    let [j] ← Json.members? ["$date"] (.object members) | none
    match j with
    | .string s =>
      return .dateTime (Int64.ofInt (← Calendar.millisOfRfc3339? s.toList))
    | .number n =>
      let .integer n := n | none
      return .dateTime (Int64.ofInt (← within? Int64.minValue.toInt Int64.maxValue.toInt n))
    | j =>
      let [j] ← Json.members? ["$numberLong"] j | none
      return .dateTime (← int64Text? j)
  | .minKey => do
    let [j] ← Json.members? ["$minKey"] (.object members) | none
    if (← j.integer?) = 1 then some .minKey else none
  | .maxKey => do
    let [j] ← Json.members? ["$maxKey"] (.object members) | none
    if (← j.integer?) = 1 then some .maxKey else none
  | .dbPointer => do
    let [j] ← Json.members? ["$dbPointer"] (.object members) | none
    let [ns, id] ← Json.members? ["$ref", "$id"] j | none
    let [id] ← Json.members? ["$oid"] id | none
    return .dbPointer (← ns.text?) (← objectId? id)
  | .undefined => do
    let [j] ← Json.members? ["$undefined"] (.object members) | none
    match j with
    | .boolean true => some .undefined
    | _ => none

/-- The value of a JSON number. -/
def ofNumber : Json.Number → Bson
  | .integer n => (ofInt? n).getD (.double (Double.ofInt n))
  | .double x => .double x

/-! ## All values -/

/-- The code text of an object marked with `$code` that has no other member than `$scope`, and
whether that member is there. -/
def code? (members : Fields Json) : Option (String × Bool) := do
  let s ← Json.text? (← members.get? "$code")
  match members.length, members.get? "$scope" with
  | 1, _ => some (s, false)
  | 2, some .null => some (s, false)
  | 2, some (.object _) => some (s, true)
  | _, _ => none

mutual
/-- The value that a JSON value stands for. -/
def ofJson? : Json → Option Bson
  | .null => some .null
  | .boolean b => some (.boolean b)
  | .number n => some (ofNumber n)
  | .string s => some (.string s)
  | .array items => (ofItems? items).map .array
  | .object members =>
    match Marker.find? members with
    | none => (ofMembers? members).map .document
    | some .code => do
      let (s, hasScope) ← code? members
      if hasScope then return .codeWithScope s (← ofScope? members) else return .code s
    | some marker => ofMarked? members marker
/-- The values of the items of an array. -/
def ofItems? : List Json → Option (List Bson)
  | [] => some []
  | j :: js => do return (← ofJson? j) :: (← ofItems? js)
/-- The fields of the members of an object. -/
def ofMembers? : List (String × Json) → Option (List (String × Bson))
  | [] => some []
  | (k, j) :: rest => do return (k, ← ofJson? j) :: (← ofMembers? rest)
/-- The fields of the object under `$scope`, which is read as a document even if it has a marker. -/
def ofScope? : List (String × Json) → Option (List (String × Bson))
  | [] => some []
  | (k, j) :: rest =>
    if k = "$scope" then
      match j with
      | .object members => ofMembers? members
      | _ => none
    else ofScope? rest
end

end DocLoad.Bson
