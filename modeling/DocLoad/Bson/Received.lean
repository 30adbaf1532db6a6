import DocLoad.Bson.Extended

/-!
# DocLoad.Bson.Received — documents as they are read from a server

A document that comes from a server may use the markers of extended JSON as well.  `received?` puts
the values that they stand for in the place of such documents.  A marker must be in the last field;
it makes the whole document stand for its value, whatever the fields before it are.
-/

namespace DocLoad.Bson

/-- The marker with a key. -/
def Marker.ofKey? (key : String) : Option Marker :=
  Marker.all.find? fun m => m.key = key

mutual
/-- The JSON form of what can stand behind a marker; values of other types have an empty object. -/
def asJson : Bson → Json
  | .null => .null
  | .boolean b => .boolean b
  | .int32 n => .number (.integer n.toInt)
  | .int64 n => .number (.integer n.toInt)
  | .double x => .number (.double x)
  | .string s => .string s
  | .objectId id => .object [("$oid", .string id.hex)]
  | .array items => .array (itemsAsJson items)
  | .document fields => .object (fieldsAsJson fields)
  | _ => .object []
/-- The JSON forms of the items of an array. -/
def itemsAsJson : List Bson → List Json
  | [] => []
  | v :: vs => asJson v :: itemsAsJson vs
/-- The members for the fields of a document. -/
def fieldsAsJson : List (String × Bson) → List (String × Json)
  | [] => []
  | (k, v) :: rest => (k, asJson v) :: fieldsAsJson rest
end

/-- The value behind `$numberDouble`: an infinity or NaN by name, or else a 64-bit integer. -/
def namedDouble? (s : String) : Option Bson :=
  match s with
  | "Infinity" => some (.double (.infinity false))
  | "-Infinity" => some (.double (.infinity true))
  | "NaN" => some (.double .nan)
  | s => (int64Text? (.string s)).map .int64

/-- The value that a marker other than `$code` and what is behind it stand for. -/
def ofReceived? (m : Marker) (v : Bson) : Option Bson :=
  match m, v with
  | .numberDouble, .string s => namedDouble? s
  | .numberDouble, _ => none
  | m, v => ofMarked? [(m.key, asJson v)] m

mutual
/-- The value that a value from a server stands for. -/
def received? : Bson → Option Bson
  | .array items => (receivedItems? items).map .array
  | .document fields => receivedFields? fields
  | .codeWithScope s scope =>
    match receivedFields? scope with
    | some (.document scope) => some (.codeWithScope s scope)
    | _ => none
  | v => some v
/-- The values that the items of an array stand for. -/
def receivedItems? : List Bson → Option (List Bson)
  | [] => some []
  | v :: vs => do return (← received? v) :: (← receivedItems? vs)
/-- The value that a document with the given fields stands for. -/
def receivedFields? : List (String × Bson) → Option Bson
  | [] => some (.document [])
  | (k, v) :: rest =>
    if k = "$scope" then
      match v, rest with
      | .document scope, [("$code", .string s)] =>
        match receivedFields? scope with
        | some (.document scope) => some (.codeWithScope s scope)
        | _ => none
      | _, _ => none
    else
      match Marker.ofKey? k with
      | none => do
        let v ← received? v
        match ← receivedFields? rest with
        | .document fields => some (.document ((k, v) :: fields))
        | value => some value
      | some .code =>
        match v, rest with
        | .string s, [] => some (.code s)
        | .string s, rest => (receivedScope? rest).map (.codeWithScope s)
        | _, _ => none
      | some m => if rest.isEmpty then ofReceived? m v else none
/-- The document under `$scope`, which must be the only field. -/
def receivedScope? : List (String × Bson) → Option Document
  | (k, v) :: rest =>
    match v with
    | .document scope =>
      match receivedFields? scope with
      | some (.document scope) => if k = "$scope" && rest.isEmpty then some scope else none
      | _ => none
    | _ => none
  | [] => none
end

end DocLoad.Bson

namespace DocLoad

/-- The document that a document from a server stands for, if it does stand for one. -/
def Document.received? (d : Document) : Option Document :=
  match Bson.receivedFields? d with
  | some (.document d) => some d
  | _ => none

end DocLoad
