import DocLoad.Bson.Plain

/-!
# DocLoad.Store.Call — what a document store is asked and how it answers

A `Call` is one request to one collection.  `Call.Reply` is the type of its answer, so that a
backend cannot answer a count with a list.  A `Backend` answers calls in a state of its own; each
call may fail with a `StoreError`, and may change the state even then.
-/

namespace DocLoad

/-- A request to a collection. -/
inductive Call where
  /-- How many documents match. -/
  | count (filter : Document)
  /-- The documents that match, in store order. -/
  | find (filter : Document)
  /-- The first document that matches. -/
  | findOne (filter : Document)
  | insertOne (document : Document)
  | insertMany (documents : List Document)
  | updateOne (filter update : Document)
  | updateMany (filter update : Document)
  | replaceOne (filter replacement : Document)
  | replaceMany (filter replacement : Document)
  | deleteOne (filter : Document)
  | deleteMany (filter : Document)
deriving Repr

/-- The documents that a call carries. -/
def Call.documents : Call → List Document
  | .count filter | .find filter | .findOne filter => [filter]
  | .insertOne document => [document]
  | .insertMany documents => documents
  | .updateOne filter change | .updateMany filter change => [filter, change]
  | .replaceOne filter change | .replaceMany filter change => [filter, change]
  | .deleteOne filter | .deleteMany filter => [filter]

/-- What an update or a replacement did: how many documents matched, and how many of them
changed. -/
structure UpdateCounts where
  matched : Nat
  modified : Nat
deriving DecidableEq, Repr

/-- The type of the answer to a call. -/
def Call.Reply : Call → Type
  | .count _ => Nat
  | .find _ => List Document
  | .findOne _ => Option Document
  | .insertOne _ => Bson
  | .insertMany _ => List Bson
  | .updateOne _ _ | .updateMany _ _ | .replaceOne _ _ | .replaceMany _ _ => UpdateCounts
  | .deleteOne _ | .deleteMany _ => Nat

/-! ## Failures -/

/-- Why a store refused a call. -/
inductive StoreError where
  /-- The `_id` of a new document is taken. -/
  | duplicateId (collection : String) (id : Bson)
  | nothingToInsert
  /-- The `_id` of a document would change. -/
  | immutableId
  /-- A filter has a key that starts with `$`. -/
  | queryOperator (key : String)
  /-- An update has more or fewer keys than one. -/
  | updateNotSingle
  /-- The value of `$set` is not a document. -/
  | setNotDocument
  /-- An update names no operator. -/
  | updateWithoutOperator
  /-- An update has an operator other than `$set`. -/
  | updateOperator (key : String)
  /-- A replacement has a key that starts with `$`. -/
  | replacementOperator (key : String)
  /-- The way to a field leads through a value that is not a document. -/
  | notNested (leaf segment path : String)
  /-- A database server or the exchange with it failed. -/
  | server (detail : String)
deriving Repr

namespace StoreError

/-- The message of a failure. -/
def message : StoreError → String
  | duplicateId collection id =>
    "E11000 duplicate key error collection: " ++ collection ++ " index: _id_ dup key: \x7b _id: "
      ++ id.plain ++ " \x7d"
  | nothingToInsert => "insert_many requires at least one document"
  | immutableId => "the (immutable) field '_id' cannot be altered"
  | queryOperator key => "unsupported query operator `" ++ key ++ "`"
  | updateNotSingle => "update document must contain exactly one `$set`"
  | setNotDocument => "modifiers operate on fields but we found a non-document `$set`"
  | updateWithoutOperator => "update document requires atomic operators"
  | updateOperator key => "unsupported update operator `" ++ key ++ "`"
  | replacementOperator key =>
    "replacement document must not contain update operators (found `" ++ key ++ "`)"
  | notNested leaf segment path =>
    "cannot create field `" ++ leaf ++ "` under `" ++ segment ++ "` in `" ++ path
      ++ "`: not a document"
  | server detail => detail

end StoreError

/-! ## Backends -/

/-- Something that answers calls in a state. -/
def Backend (σ : Type) : Type :=
  (c : Call) → σ → Except StoreError c.Reply × σ

/-- The backend of a run that has no store: every call fails. -/
def Backend.closed : Backend Unit :=
  fun _ s => (.error (.server "no store is open"), s)

end DocLoad
