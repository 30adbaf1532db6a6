import DocLoad.Bson.Encodable
import DocLoad.Store.Change

/-!
# DocLoad.Server.Command — store calls as commands to a server

A `Command` is a document that is sent to a database.  The functions below build the commands of
each call.  Some calls are refused before anything is sent: `checkCall` says which.
-/

namespace DocLoad.Server

/-- A document sent to a database. -/
structure Command where
  database : String
  body : Document
deriving Repr

/-- The name of a collection with that of its database. -/
structure Namespace where
  database : String
  collection : String
deriving DecidableEq, Repr

namespace Namespace

/-- The namespace that a text names: a database, a dot, and a collection. -/
def ofString? (s : String) : Option Namespace :=
  match Text.cutFirst '.' s.toList with
  | some (d, c :: cs) => some ⟨String.ofList d, String.ofList (c :: cs)⟩
  | _ => none

/-- A command on the collection: its name under the word for the command, and further fields. -/
def command (ns : Namespace) (word : String) (fields : Document) : Command :=
  ⟨ns.database, (word, .string ns.collection) :: fields⟩

end Namespace

/-- A 32-bit integer. -/
def int (n : Int32) : Bson := .int32 n

/-- The check that a server answers. -/
def ping : Command := ⟨"admin", [("ping", int 1)]⟩

/-- The stages that select documents and count them under `n`. -/
def countStages (filter : Document) : List Bson :=
  [.document [("$match", .document filter)],
   .document [("$group", .document [("_id", int 1), ("n", .document [("$sum", int 1)])])]]

def count (ns : Namespace) (filter : Document) : Command :=
  ns.command "aggregate" [("pipeline", .array (countStages filter)), ("cursor", .document [])]

def find (ns : Namespace) (filter : Document) : Command :=
  ns.command "find" [("filter", .document filter)]

/-- Asks for the next documents of a cursor. -/
def getMore (ns : Namespace) (cursor : Int64) : Command :=
  ⟨ns.database, [("getMore", .int64 cursor), ("collection", .string ns.collection)]⟩

def insert (ns : Namespace) (documents : List Document) : Command :=
  ns.command "insert"
    [("ordered", .boolean true), ("documents", .array (documents.map .document))]

/-- Changes the first document that matches, or with `multi` every one. -/
def update (ns : Namespace) (multi : Bool) (filter : Document) (change : Bson) : Command :=
  let fields : Document := [("q", .document filter), ("u", change)]
  let fields := if multi then fields ++ [("multi", .boolean true)] else fields
  ns.command "update" [("updates", .array [.document fields]), ("ordered", .boolean true)]

/-- Deletes the first document that matches, or with `multi` every one. -/
def delete (ns : Namespace) (multi : Bool) (filter : Document) : Command :=
  ns.command "delete"
    [("deletes", .array [.document [("q", .document filter),
      ("limit", int (if multi then 0 else 1))]]),
     ("ordered", .boolean true)]

/-- The stages that put a replacement in the place of every document and keep its `_id`.  The
replacement is wrapped in `$literal`, so that a string in it is never read as a field path. -/
def replaceStages (replacement : Document) : List Bson :=
  [.document [("$replaceWith", .document [("$mergeObjects", .array
    [.document [("_id", .string "$_id")],
     .document [("$literal", .document replacement)]])])]]

/-! ## What is refused -/

/-- An update must start with an operator. -/
def checkUpdate (update : Document) : Except StoreError Unit :=
  match update with
  | [] => .error (.server "an update document may not be empty")
  | (key, _) :: _ =>
    if isOperator key then .ok () else .error (.server "an update document must have operators")

/-- A replacement may not be empty or start with an operator. -/
def checkReplacement (replacement : Document) : Except StoreError Unit :=
  match replacement with
  | [] => .error (.server "a replacement document may not be empty")
  | (key, _) :: _ =>
    if isOperator key then .error (.server "a replacement document may not have operators")
    else .ok ()

/-- Refuses a call that no command can stand for: an insertion of nothing, an update without
operators, a replacement of one document with operators, and documents without a binary form. -/
def checkCall (call : Call) : Except StoreError Unit := do
  match call with
  | .insertMany [] => throw (.server "no documents to insert")
  | .updateOne _ change | .updateMany _ change => checkUpdate change
  | .replaceOne _ change => checkReplacement change
  | _ => pure ()
  if !call.documents.all Document.isEncodable then
    throw (.server "a document has no binary form")

end DocLoad.Server
