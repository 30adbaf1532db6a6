import DocLoad.Store.Change

/-!
# DocLoad.Store.Collection — a collection held in memory

A `Collection` is a list of documents in the order of their insertion.  `Collection.answer` is the
backend that it makes.  New documents without `_id` get the next identifier of a sequence; an
insertion of several documents happens as a whole or not at all, and so does the change of one
document.
-/

namespace DocLoad

/-- A collection: its name, its documents, and how many identifiers it has drawn. -/
structure Collection where
  name : String
  documents : List Document
  drawn : Nat
deriving Repr

/-- How far an update, a replacement or a deletion goes. -/
inductive Reach where
  /-- To the first document that matches. -/
  | first
  /-- To every document that matches. -/
  | all
deriving DecidableEq, Repr

namespace Collection

/-- A collection without documents. -/
def empty (name : String) : Collection := ⟨name, [], 0⟩

/-! ## Insertion -/

/-- The document with an identifier in front, unless it has one. -/
def withId (fresh : ObjectId) (d : Document) : Bson × Document :=
  match d.id? with
  | some id => (id, d)
  | none => (.objectId fresh, (idKey, .objectId fresh) :: d)

/-- Whether one of the documents has the identifier. -/
def idTaken (ds : List Document) (id : Bson) : Bool :=
  ds.any fun d => match d.id? with
    | some other => other == id
    | none => false

/-- What an insertion has ready to be stored: identifiers, their documents, and how many
identifiers have been drawn. -/
structure Staged where
  ids : List Bson
  documents : List Document
  drawn : Nat
deriving Repr

/-- Nothing is ready yet. -/
def unstaged (c : Collection) : Staged := ⟨[], [], c.drawn⟩

/-- Gets one document more ready, under an identifier that no stored document has and no other one
that is ready. -/
def stage (gen : Nat → ObjectId) (c : Collection) (s : Staged) (d : Document) :
    Except StoreError Staged :=
  let (id, document) := withId (gen s.drawn) d
  if idTaken (c.documents ++ s.documents) id then .error (.duplicateId c.name id)
  else
    .ok ⟨s.ids ++ [id], s.documents ++ [document],
      if d.id?.isSome then s.drawn else s.drawn + 1⟩

/-- The collection with what is ready behind its documents. -/
def commit (c : Collection) (s : Staged) : Collection :=
  { c with documents := c.documents ++ s.documents, drawn := s.drawn }

/-- Gets documents ready one after another, then stores all of them and tells their identifiers. -/
def insertAll (gen : Nat → ObjectId) (c : Collection) (ds : List Document) :
    Except StoreError (List Bson × Collection) := do
  let s ← ds.foldlM (c.stage gen) c.unstaged
  return (s.ids, c.commit s)

/-- Inserts a batch of one document and takes the first of the identifiers, if there is a first
one. -/
def insertNext? (gen : Nat → ObjectId) (c : Collection) (d : Document) :
    Option (Except StoreError (Bson × Collection)) :=
  match c.insertAll gen [d] with
  | .ok (ids, c') => ids.head?.map fun id => .ok (id, c')
  | .error e => some (.error e)

/-- Each document that is ready has brought an identifier along. -/
theorem ids_of_stage {gen : Nat → ObjectId} {c : Collection} {s s' : Staged} {d : Document}
    (h : c.stage gen s d = .ok s') : s'.ids = s.ids ++ [(withId (gen s.drawn) d).1] := by
  simp only [stage] at h
  split at h
  · cases h
  · cases h
    rfl

theorem insertAll_singleton (gen : Nat → ObjectId) (c : Collection) (d : Document) :
    c.insertAll gen [d] = (c.stage gen c.unstaged d).map fun s => (s.ids, c.commit s) := by
  rw [insertAll, List.foldlM_cons]
  cases c.stage gen c.unstaged d <;> rfl

/-- A batch of one document that goes through has an identifier to tell. -/
theorem isSome_insertNext? (gen : Nat → ObjectId) (c : Collection) (d : Document) :
    (c.insertNext? gen d).isSome := by
  rw [insertNext?, insertAll_singleton]
  cases hstage : c.stage gen c.unstaged d with
  | error e => rfl
  | ok s => simp only [Except.map, ids_of_stage hstage, unstaged, List.nil_append, List.head?_cons,
      Option.map_some, Option.isSome_some]

/-- Appends one document and tells its identifier. -/
def insertNext (gen : Nat → ObjectId) (c : Collection) (d : Document) :
    Except StoreError (Bson × Collection) :=
  (c.insertNext? gen d).get (isSome_insertNext? gen c d)

/-! ## Changes -/

/-- Applies a change to documents that match, as far as `reach` says, and counts.  A result equal
to the old document leaves the old one in place.  A failure ends the work; what was done before it
stays. -/
def changeWhere (reach : Reach) (hits : Document → Bool)
    (change : Document → Except StoreError Document) :
    List Document → Except StoreError UpdateCounts × List Document
  | [] => (.ok ⟨0, 0⟩, [])
  | d :: ds =>
    if hits d then
      match change d with
      | .error e => (.error e, d :: ds)
      | .ok new =>
        let unchanged := new.same d
        let kept := if unchanged then d else new
        let modified := if unchanged then 0 else 1
        match reach with
        | .first => (.ok ⟨1, modified⟩, kept :: ds)
        | .all =>
          let (counts, ds) := changeWhere reach hits change ds
          (counts.map fun a => ⟨a.matched + 1, a.modified + modified⟩, kept :: ds)
    else
      let (counts, ds) := changeWhere reach hits change ds
      (counts, d :: ds)

section

variable {reach : Reach} {hits : Document → Bool} {change : Document → Except StoreError Document}
  {d new : Document} {ds : List Document} {e : StoreError}

/-- A document that does not match stays, and the work goes on behind it. -/
theorem changeWhere_miss (hd : hits d = false) :
    changeWhere reach hits change (d :: ds) =
      ((changeWhere reach hits change ds).1, d :: (changeWhere reach hits change ds).2) := by
  simp [changeWhere, hd]

/-- A match that cannot be changed ends the work where it stands. -/
theorem changeWhere_fail (hd : hits d = true) (hnew : change d = .error e) :
    changeWhere reach hits change (d :: ds) = (.error e, d :: ds) := by
  simp [changeWhere, hd, hnew]

/-- Work on the first match is over when that one was changed. -/
theorem changeWhere_first (hd : hits d = true) (hnew : change d = .ok new) :
    changeWhere .first hits change (d :: ds) =
      (.ok ⟨1, if new.same d then 0 else 1⟩, (if new.same d then d else new) :: ds) := by
  simp [changeWhere, hd, hnew]

/-- Work on all matches changes one and goes on behind it. -/
theorem changeWhere_all (hd : hits d = true) (hnew : change d = .ok new) :
    changeWhere .all hits change (d :: ds) =
      ((changeWhere .all hits change ds).1.map fun a =>
          ⟨a.matched + 1, a.modified + if new.same d then 0 else 1⟩,
        (if new.same d then d else new) :: (changeWhere .all hits change ds).2) := by
  simp [changeWhere, hd, hnew]

end

/-- Applies a change to documents that match a filter, once the filter and the change itself are
accepted. -/
def modify (reach : Reach) (filter : Document)
    (accepted : Except StoreError (Document → Except StoreError Document)) (c : Collection) :
    Except StoreError UpdateCounts × Collection :=
  match (do filter.checkFilter; accepted) with
  | .error e => (.error e, c)
  | .ok change =>
    let (counts, documents) := changeWhere reach filter.satisfies change c.documents
    (counts, { c with documents })

/-- Updates documents. -/
def update (reach : Reach) (filter update : Document) (c : Collection) :
    Except StoreError UpdateCounts × Collection :=
  c.modify reach filter (update.setFields.map Document.update)

/-- Replaces documents. -/
def replace (reach : Reach) (filter replacement : Document) (c : Collection) :
    Except StoreError UpdateCounts × Collection :=
  c.modify reach filter (replacement.checkReplacement.map fun _ => Document.replace replacement)

/-! ## Deletions -/

/-- Deletes documents and tells how many.  The first match is taken out at its position. -/
def delete (reach : Reach) (filter : Document) (c : Collection) :
    Except StoreError Nat × Collection :=
  match filter.checkFilter with
  | .error e => (.error e, c)
  | .ok () =>
    match reach with
    | .first =>
      match c.documents.findIdx? filter.satisfies with
      | some i => (.ok 1, { c with documents := c.documents.eraseIdx i })
      | none => (.ok 0, c)
    | .all =>
      let documents := c.documents.filter fun d => !filter.satisfies d
      (.ok (c.documents.length - documents.length), { c with documents })

/-! ## Calls -/

/-- How many documents match. -/
def count (filter : Document) (c : Collection) : Except StoreError Nat := do
  filter.checkFilter
  return c.documents.countP filter.satisfies

/-- The documents that match. -/
def select (filter : Document) (c : Collection) : Except StoreError (List Document) := do
  filter.checkFilter
  return c.documents.filter filter.satisfies

/-- The first document that matches. -/
def selectFirst (filter : Document) (c : Collection) : Except StoreError (Option Document) := do
  filter.checkFilter
  return c.documents.find? filter.satisfies

/-- Inserts documents as a whole, or leaves the collection as it is. -/
def insert (gen : Nat → ObjectId) (ds : List Document) (c : Collection) :
    Except StoreError (List Bson) × Collection :=
  match c.insertAll gen ds with
  | .ok (ids, c') => (.ok ids, c')
  | .error e => (.error e, c)

/-- Answers a call; `gen` is the sequence of new identifiers. -/
def answer (gen : Nat → ObjectId) : Backend Collection
  | .count filter, c => (c.count filter, c)
  | .find filter, c => (c.select filter, c)
  | .findOne filter, c => (c.selectFirst filter, c)
  | .insertOne d, c =>
    match c.insertNext gen d with
    | .ok (id, c') => (.ok id, c')
    | .error e => (.error e, c)
  | .insertMany ds, c =>
    if ds.isEmpty then (.error .nothingToInsert, c) else c.insert gen ds
  | .updateOne filter u, c => c.update .first filter u
  | .updateMany filter u, c => c.update .all filter u
  | .replaceOne filter r, c => c.replace .first filter r
  | .replaceMany filter r, c => c.replace .all filter r
  | .deleteOne filter, c => c.delete .first filter
  | .deleteMany filter, c => c.delete .all filter

theorem answer_insertMany (gen : Nat → ObjectId) (ds : List Document) (c : Collection) :
    answer gen (.insertMany ds) c =
      (if ds.isEmpty then (.error .nothingToInsert, c) else c.insert gen ds :
        Except StoreError (List Bson) × Collection) := rfl

end Collection
end DocLoad
