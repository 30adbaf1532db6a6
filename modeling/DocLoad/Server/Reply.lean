import DocLoad.Server.Command

/-!
# DocLoad.Server.Reply — what a server's replies say

A reply is a document whose `ok` is one if the command succeeded.  The functions below read the
answers to each kind of command out of a reply and fail where a part is missing or of another
type.
-/

namespace DocLoad.Server

/-- The failure to read a reply. -/
def malformed (what : String) : StoreError :=
  .server ("malformed reply: " ++ what)

/-- A part of a reply, or a failure that names it. -/
def required {α : Type} (what : String) : Option α → Except StoreError α
  | some a => .ok a
  | none => .error (malformed what)

/-- The code of the double that is one. -/
def oneCode : Nat := 1023 * Nat.pow 2 52

/-- Whether a number is one; the double next above one counts as well. -/
def isOne : Bson → Bool
  | .int32 n => n == 1
  | .int64 n => n == 1
  | .double x => !x.negative && (x.code == oneCode || x.code == oneCode + 1)
  | _ => false

/-- The reason that a failed command gives. -/
def reason (reply : Document) : String :=
  match Fields.get? "errmsg" reply with
  | some (.string s) => s
  | _ => "command failed"

/-- Refuses a reply to a command that failed. -/
def checkOk (reply : Document) : Except StoreError Unit :=
  match Fields.get? "ok" reply with
  | some v => if isOne v then .ok () else .error (.server (reason reply))
  | none => .error (.server (reason reply))

/-- A count: an integer that is not negative. -/
def natural? (v : Bson) : Option Nat :=
  v.integer?.bind fun n => if 0 ≤ n.toInt then some n.toInt.toNat else none

/-- Refuses a part that is there, is not `null` and is not what it has to be. -/
def checkPart (key : String) (admits : Bson → Bool) (d : Document) : Except StoreError Unit :=
  match Fields.get? key d with
  | none | some .null => .ok ()
  | some v => if admits v then .ok () else .error (malformed key)

/-- Whether a value is a document. -/
def isDocument : Bson → Bool
  | .document _ => true
  | _ => false

/-- Whether a value is an array of texts. -/
def isTexts : Bson → Bool
  | .array items => items.all fun
    | .string _ => true
    | _ => false
  | _ => false

/-- The count under a key. -/
def countAt (key : String) (d : Document) : Except StoreError Nat :=
  required key ((Fields.get? key d).bind natural?)

/-! ## Cursors -/

/-- Where the rest of the documents is, with those that came. -/
structure Cursor where
  id : Int64
  ns : Namespace
  batch : List Document
deriving Repr

/-- The documents of an array that holds nothing else. -/
def documents? : Bson → Option (List Document)
  | .array items => items.mapM fun
    | .document d => some d
    | _ => none
  | _ => none

/-- Whether no documents follow. -/
def Cursor.isSpent (c : Cursor) : Bool :=
  c.id == 0

/-- The document under `cursor` in a reply. -/
def cursorPart (reply : Document) : Except StoreError Document :=
  required "cursor" <| match Fields.get? "cursor" reply with
    | some (.document d) => some d
    | _ => none

/-- The cursor in a reply; its documents are under the given key. -/
def cursor (batchKey : String) (reply : Document) : Except StoreError Cursor := do
  let part ← cursorPart reply
  let id ← required "id" ((Fields.get? "id" part).bind Bson.integer?)
  let ns ← required "ns" <| match Fields.get? "ns" part with
    | some (.string s) => Namespace.ofString? s
    | _ => none
  let batch ← required batchKey ((Fields.get? batchKey part).bind documents?)
  checkPart "postBatchResumeToken" isDocument part
  return ⟨id, ns, batch⟩

/-- The number that the stages of a count found: it is in the first document, if there is one. -/
def counted (reply : Document) : Except StoreError Nat := do
  let part ← cursorPart reply
  let batch ← required "firstBatch" ((Fields.get? "firstBatch" part).bind documents?)
  let counts ← batch.mapM (countAt "n")
  return counts.headD 0

/-! ## Writes -/

/-- Whether a reply has something other than `null` under a key. -/
def reports (key : String) (reply : Document) : Bool :=
  match Fields.get? key reply with
  | none | some .null => false
  | some _ => true

/-- Refuses a reply that reports errors of single writes, or labels that are not texts. -/
def checkWrites (reply : Document) : Except StoreError Unit := do
  if reports "writeErrors" reply || reports "writeConcernError" reply then
    throw (.server "write error")
  checkPart "errorLabels" isTexts reply

/-- The number of documents that a write concerned. -/
def written (reply : Document) : Except StoreError Nat := do
  checkWrites reply
  countAt "n" reply

/-- The documents that an update inserted because nothing matched. -/
def upserted (reply : Document) : Except StoreError (List Document) :=
  match Fields.get? "upserted" reply with
  | none | some .null => .ok []
  | some v => required "upserted" (documents? v)

/-- The counts of an update.  When it inserted a document, nothing matched. -/
def updated (reply : Document) : Except StoreError UpdateCounts := do
  checkWrites reply
  let n ← countAt "n" reply
  let modified ← countAt "nModified" reply
  let inserted := match (← upserted reply).head? with
    | some d => d.id?.isSome
    | none => false
  return ⟨if inserted then 0 else n, modified⟩

/-- The identifiers of an insertion by the positions of their documents, in the order of the
positions. -/
def inOrder (ids : List (Nat × Bson)) : List Bson :=
  (ids.mergeSort fun a b => a.1 ≤ b.1).map (·.2)

end DocLoad.Server
