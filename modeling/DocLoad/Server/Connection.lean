import DocLoad.Bson.Received
import DocLoad.Server.Reply
import DocLoad.Store.Collection

/-!
# DocLoad.Server.Connection — a collection behind a server

A `Connection` knows a collection, the replies that the server is going to give, and the commands
it has been sent.  `Connection.answer` is the backend that it makes: every call becomes the
commands of `Server.Command`, each of which takes the next reply.  A server without a further
reply fails.
-/

namespace DocLoad.Server

/-- A collection behind a server: the replies to come, the commands sent so far, and how many
identifiers were drawn. -/
structure Connection where
  ns : Namespace
  replies : List Document
  sent : List Command
  drawn : Nat
deriving Repr

namespace Connection

/-- A connection that nothing was sent over. -/
def fresh (ns : Namespace) (replies : List Document) : Connection := ⟨ns, replies, [], 0⟩

/-- The failure of a server that has no further reply. -/
def noReply : StoreError := .server "command failed"

/-- The next reply, which must be to a command that succeeded. -/
def receive : List Document → Except StoreError Document
  | [] => .error noReply
  | reply :: _ => do checkOk reply; return reply

/-- Sends a command and reads its reply. -/
def exchange {α : Type} (cmd : Command) (read : Document → Except StoreError α) (c : Connection) :
    Except StoreError α × Connection :=
  (receive c.replies >>= read,
    { c with replies := c.replies.tail, sent := c.sent ++ [cmd] })

/-! ## Cursors -/

/-- Which documents of a cursor are wanted. -/
inductive Demand where
  | all
  | first
deriving DecidableEq, Repr

namespace Demand

/-- The wanted ones among the next documents. -/
def select (demand : Demand) (batch : List Document) : List Document :=
  match demand with
  | all => batch
  | first => batch.take 1

/-- Whether the documents found do. -/
def isMet (demand : Demand) (found : List Document) : Bool :=
  match demand with
  | all => false
  | first => !found.isEmpty

end Demand

/-- Reads the wanted documents of a batch. -/
def readBatch (demand : Demand) (cur : Cursor) : Except StoreError (List Document) :=
  required "document" ((demand.select cur.batch).mapM Document.received?)

/-- Asks for the documents that follow those of a cursor, until it ends or the demand is met.
Gives the documents, the commands, and the replies that are left. -/
def follow (demand : Demand) (cur : Cursor) :
    List Document → Except StoreError (List Document) × List Command × List Document
  | [] =>
    match readBatch demand cur with
    | .error e => (.error e, [], [])
    | .ok found =>
      if cur.isSpent || demand.isMet found then (.ok found, [], [])
      else (.error noReply, [getMore cur.ns cur.id], [])
  | reply :: rest =>
    match readBatch demand cur with
    | .error e => (.error e, [], reply :: rest)
    | .ok found =>
      if cur.isSpent || demand.isMet found then (.ok found, [], reply :: rest)
      else
        match (do checkOk reply; cursor "nextBatch" reply) with
        | .error e => (.error e, [getMore cur.ns cur.id], rest)
        | .ok next =>
          let (more, cmds, left) := follow demand next rest
          (more.map (found ++ ·), getMore cur.ns cur.id :: cmds, left)

/-- The wanted documents that a find gives. -/
def findAll (demand : Demand) (filter : Document) (c : Connection) :
    Except StoreError (List Document) × Connection :=
  match c.exchange (find c.ns filter) (cursor "firstBatch") with
  | (.error e, c) => (.error e, c)
  | (.ok cur, c) =>
    let (found, cmds, left) := follow demand cur c.replies
    (found, { c with replies := left, sent := c.sent ++ cmds })

/-! ## Insertion -/

/-- Gives every document without `_id` the next identifier. -/
def withIds (gen : Nat → ObjectId) (drawn : Nat) : List Document → List (Bson × Document)
  | [] => []
  | d :: ds =>
    Collection.withId (gen drawn) d ::
      withIds gen (if d.id?.isSome then drawn else drawn + 1) ds

/-- Sends documents until all of them are taken.  A reply that takes fewer than were sent makes
the rest go out again, with new identifiers; each sending takes a reply. -/
def insertFrom (gen : Nat → ObjectId) (position : Nat) (ds : List Document) (c : Connection) :
    List Document → Except StoreError (List (Nat × Bson)) × Connection
  | [] =>
    let pairs := withIds gen c.drawn ds
    (.error noReply,
      { c with replies := [], sent := c.sent ++ [insert c.ns (pairs.map (·.2))],
               drawn := c.drawn + (ds.filter fun d => d.id?.isNone).length })
  | reply :: rest =>
    let pairs := withIds gen c.drawn ds
    let c := { c with replies := rest, sent := c.sent ++ [insert c.ns (pairs.map (·.2))],
                      drawn := c.drawn + (ds.filter fun d => d.id?.isNone).length }
    match (do checkOk reply; written reply) with
    | .error e => (.error e, c)
    | .ok n =>
      let ids := (pairs.take n).zipIdx.map fun (p, i) => (position + i, p.1)
      if ds.length ≤ n then (.ok ids, c)
      else
        let (more, c) := insertFrom gen (position + n) (ds.drop n) c rest
        (more.map (ids ++ ·), c)

/-- Inserts one document; the server may say that it took none. -/
def insertOne (gen : Nat → ObjectId) (d : Document) (c : Connection) :
    Except StoreError Bson × Connection :=
  let (id, document) := Collection.withId (gen c.drawn) d
  let c := { c with drawn := if d.id?.isSome then c.drawn else c.drawn + 1 }
  c.exchange (insert c.ns [document]) fun reply => do
    let n ← written reply
    return if n = 0 then .null else id

/-! ## Calls -/

/-- Sends the commands of a call; `gen` is the sequence of new identifiers. -/
def perform (gen : Nat → ObjectId) : Backend Connection
  | .count filter, c => c.exchange (count c.ns filter) counted
  | .find filter, c => c.findAll .all filter
  | .findOne filter, c =>
    let (found, c) := c.findAll .first filter
    (found.map List.head?, c)
  | .insertOne d, c => c.insertOne gen d
  | .insertMany ds, c =>
    let (ids, c) := c.insertFrom gen 0 ds c.replies
    (ids.map inOrder, c)
  | .updateOne filter u, c => c.exchange (update c.ns false filter (.document u)) updated
  | .updateMany filter u, c => c.exchange (update c.ns true filter (.document u)) updated
  | .replaceOne filter r, c => c.exchange (update c.ns false filter (.document r)) updated
  | .replaceMany filter r, c =>
    c.exchange (update c.ns true filter (.array (replaceStages r))) updated
  | .deleteOne filter, c => c.exchange (delete c.ns false filter) written
  | .deleteMany filter, c => c.exchange (delete c.ns true filter) written

/-- Answers a call, unless it is refused. -/
def answer (gen : Nat → ObjectId) : Backend Connection :=
  fun call c =>
    match checkCall call with
    | .error e => (.error e, c)
    | .ok () => perform gen call c

end Connection
end DocLoad.Server
