import DocLoad.Query
import DocLoad.Store.Call

/-!
# DocLoad.Operation — operations, modes and outcomes

An `Operation` is what an operator can ask for by name; a `Mode` says which operations are allowed
and which one runs when none is asked for.  Every operation is exactly one store call,
`Operation.call`, and `Operation.outcome` turns the answer to it into an `Outcome`, which
`Outcome.toBson` shows as a value.
-/

namespace DocLoad

/-- What an operator can ask for. -/
inductive Operation where
  | count
  | find
  | findOne
  | insertOne
  | insertMany
  | update
  | updateOne
  | updateMany
  | replaceOne
  | replaceMany
  | deleteOne
  | deleteMany
deriving DecidableEq, Repr

/-- Which operations are allowed, and which one is the default. -/
inductive Mode where
  | count
  | find
  | general
deriving DecidableEq, Repr

/-! ## Names -/

namespace Operation

/-- The name of an operation. -/
def name : Operation → String
  | count => "count"
  | find => "find"
  | findOne => "findOne"
  | insertOne => "insertOne"
  | insertMany => "insertMany"
  | update => "update"
  | updateOne => "updateOne"
  | updateMany => "updateMany"
  | replaceOne => "replaceOne"
  | replaceMany => "replaceMany"
  | deleteOne => "deleteOne"
  | deleteMany => "deleteMany"

end Operation

namespace Mode

/-- The name of a mode. -/
def name : Mode → String
  | count => "count"
  | find => "find"
  | general => "general"

/-- The mode with a name. -/
def ofName? (s : String) : Option Mode :=
  [count, find, general].find? fun m => m.name = s

/-- The operations that a mode allows. -/
def allowed : Mode → List Operation
  | count | find => [.count, .find, .findOne, .insertOne, .deleteOne, .deleteMany]
  | general =>
    [.find, .findOne, .insertOne, .insertMany, .update, .updateOne, .updateMany, .replaceOne,
      .replaceMany, .deleteOne, .deleteMany]

/-- The operation that runs when none is asked for. -/
def default : Mode → Operation
  | count => .count
  | find | general => .find

/-- The allowed operation with a name. -/
def operation? (m : Mode) (name : String) : Option Operation :=
  m.allowed.find? fun op => op.name = name

end Mode

/-! ## Outcomes -/

/-- What the store answered. -/
inductive Outcome where
  | count (n : Nat)
  | documents (ds : List Document)
  | document (d : Option Document)
  | insertedOne (id : Bson)
  | insertedMany (ids : List Bson)
  | updated (counts : UpdateCounts)
  | deleted (n : Nat)
deriving Repr

namespace Outcome

/-- Values under the decimal texts of their positions, which are counted from `index`. -/
def numbered (index : Nat) : List Bson → Document
  | [] => []
  | v :: vs => (Text.decimal index, v) :: numbered (index + 1) vs

/-- The value that is shown to the operator. -/
def toBson : Outcome → Bson
  | count n => .document [("countOfInsertedDocuments", .ofCount n)]
  | documents ds => .array (ds.map .document)
  | document (some d) => .document d
  | document none => .null
  | insertedOne id => .document [("acknowledged", .boolean true), ("insertedId", id)]
  | insertedMany ids =>
    .document [("acknowledged", .boolean true), ("insertedCount", .ofCount ids.length),
      ("insertedIds", .document (Fields.ofList (numbered 0 ids)))]
  | updated counts =>
    .document [("acknowledged", .boolean true), ("matchedCount", .ofCount counts.matched),
      ("modifiedCount", .ofCount counts.modified)]
  | deleted n => .document [("acknowledged", .boolean true), ("deletedCount", .ofCount n)]

end Outcome

/-! ## Calls -/

namespace Operation

/-- The store call of an operation.  A count covers the whole collection; `find…` and `delete…` take
the query as the filter, `insert…` as the document, and `update…` and `replace…` as the new content
of the first or of every document. -/
def call (op : Operation) (q : Document) : Call :=
  match op with
  | count => .count []
  | find => .find q
  | findOne => .findOne q
  | insertOne => .insertOne q
  | insertMany => .insertMany [q]
  | update | updateOne => .updateOne [] [("$set", .document q)]
  | updateMany => .updateMany [] [("$set", .document q)]
  | replaceOne => .replaceOne [] q
  | replaceMany => .replaceMany [] q
  | deleteOne => .deleteOne q
  | deleteMany => .deleteMany q

/-- The outcome that the answer to the store call of an operation gives. -/
def outcome : (op : Operation) → (q : Document) → (op.call q).Reply → Outcome
  | count, _, n => .count n
  | find, _, ds => .documents ds
  | findOne, _, d => .document d
  | insertOne, _, id => .insertedOne id
  | insertMany, _, ids => .insertedMany ids
  | update, _, counts | updateOne, _, counts | updateMany, _, counts => .updated counts
  | replaceOne, _, counts | replaceMany, _, counts => .updated counts
  | deleteOne, _, n | deleteMany, _, n => .deleted n

end Operation
end DocLoad
