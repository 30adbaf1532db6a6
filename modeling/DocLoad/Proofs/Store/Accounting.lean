import DocLoad.Proofs.Store.Failure
import DocLoad.Proofs.Store.Identifiers

/-!
# DocLoad.Proofs.Store.Accounting — what an answer says about the documents

Whoever sees only the answers to calls can keep account of the documents and their identifiers.
`Accounted` says what each answer tells:

* an insertion appends one document under each identifier that it returns (`Inserted`);
* a deletion takes out as many documents as it returns and leaves the others (`Removed`);
* an update or a replacement keeps the identifier at every position, whether it fails or not;
* any other call, and an insertion or deletion that fails, changes nothing.

`accounted_answer` is the step.  Over a run, `length_after` adds the answers up: what was inserted
is still there or was deleted.
-/

namespace DocLoad

/-! ## What answers report -/

namespace Call

/-- The identifiers that the answer to a call returns for inserted documents. -/
def insertedIds : (call : Call) → Except StoreError call.Reply → List Bson
  | .insertOne _, .ok id => [id]
  | .insertMany _, .ok ids => ids
  | _, _ => []

/-- The number of deleted documents that the answer to a call returns. -/
def deletedCount : (call : Call) → Except StoreError call.Reply → Nat
  | .deleteOne _, .ok n => n
  | .deleteMany _, .ok n => n
  | _, _ => 0

end Call

/-- A document as it is stored under an identifier: the identifier goes in front, unless the
document brought one along. -/
def Document.storedAs (id : Bson) (d : Document) : Document :=
  match d.id? with
  | some _ => d
  | none => (idKey, id) :: d

namespace Collection

/-- The documents `ds` went behind those of `c`, each under its identifier. -/
structure Inserted (ds : List Document) (ids : List Bson) (c c' : Collection) : Prop where
  count : ids.length = ds.length
  documents : c'.documents = c.documents ++ List.zipWith Document.storedAs ids ds
  ids : c'.ids = c.ids ++ ids.map some

/-- Of the documents of `c`, all but `n` are left in `c'`, in order and unchanged. -/
structure Removed (n : Nat) (c c' : Collection) : Prop where
  sublist : c'.documents.Sublist c.documents
  count : c'.documents.length + n = c.documents.length

/-- The documents may have changed, but none was added or taken out, and the identifier at every
position is the same. -/
structure Kept (c c' : Collection) : Prop where
  count : c'.documents.length = c.documents.length
  ids : c'.ids = c.ids

/-- What the answer to a call says about the documents before and after it. -/
def Accounted : (call : Call) → Collection → Except StoreError call.Reply × Collection → Prop
  | .insertOne d, c, (.ok id, c') => Inserted [d] [id] c c'
  | .insertMany ds, c, (.ok ids, c') => Inserted ds ids c c'
  | .deleteOne _, c, (.ok n, c') | .deleteMany _, c, (.ok n, c') => Removed n c c'
  | .updateOne _ _, c, (_, c') | .updateMany _ _, c, (_, c') => Kept c c'
  | .replaceOne _ _, c, (_, c') | .replaceMany _ _, c, (_, c') => Kept c c'
  | _, c, (_, c') => c' = c

/-! ## Insertion -/

variable {gen : Nat → ObjectId} {c c₁ c' : Collection}

/-- What an insertion stores for a document is the document under the identifier that it returns. -/
theorem withId_eq_storedAs (fresh : ObjectId) (d : Document) :
    (withId fresh d).2 = d.storedAs (withId fresh d).1 := by
  rw [withId, Document.storedAs]
  cases d.id? <;> rfl

theorem Inserted.nil (c : Collection) : Inserted [] [] c c where
  count := rfl
  documents := (List.append_nil _).symm
  ids := (List.append_nil _).symm

/-- Insertions one after the other are one insertion. -/
theorem Inserted.append {ds ds' : List Document} {ids ids' : List Bson}
    (h : Inserted ds ids c c₁) (h' : Inserted ds' ids' c₁ c') :
    Inserted (ds ++ ds') (ids ++ ids') c c' where
  count := by rw [List.length_append, List.length_append, h.count, h'.count]
  documents := by
    rw [h'.documents, h.documents, List.zipWith_append h.count, List.append_assoc]
  ids := by rw [h'.ids, h.ids, List.map_append, List.append_assoc]

/-- A single insertion puts one document behind the others, under the identifier that it returns. -/
theorem inserted_insertNext {d : Document} {id : Bson} (h : c.insertNext gen d = .ok (id, c')) :
    Inserted [d] [id] c c' := by
  obtain ⟨-, rfl, rfl⟩ := insertNext_eq_ok.mp h
  refine ⟨rfl, ?_, ids_push gen c d⟩
  rw [push, withId_eq_storedAs]
  rfl

/-- The identifiers that an insertion returns are those of its documents, in their order. -/
theorem inserted_insertAll {ds : List Document} {ids : List Bson}
    (h : c.insertAll gen ds = .ok (ids, c')) : Inserted ds ids c c' := by
  induction ds generalizing c ids with
  | nil =>
    rw [insertAll_nil] at h
    cases h
    exact .nil _
  | cons d ds ih =>
    rw [insertAll_cons] at h
    obtain ⟨⟨id, c₁⟩, h₁, h⟩ := Except.bind_eq_ok.mp h
    obtain ⟨⟨rest, c₂⟩, h₂, h⟩ := Except.bind_eq_ok.mp h
    cases h
    exact (inserted_insertNext h₁).append (ih h₂)

/-! ## Deletion -/

/-- A deletion takes out as many documents as it says, and leaves the others in order. -/
theorem removed_delete {reach : Reach} {filter : Document} {n : Nat}
    (h : c.delete reach filter = (.ok n, c')) : Removed n c c' := by
  cases hfilter : filter.checkFilter with
  | error e =>
    simp only [delete, hfilter] at h
    cases (Prod.mk.inj h).1
  | ok _ =>
    rw [delete_eq_remaining hfilter] at h
    cases h
    have hsub := remaining_sublist reach filter.satisfies c.documents
    exact ⟨hsub, Nat.add_sub_cancel' hsub.length_le⟩

/-! ## One answer -/

/-- Where the identifiers are the same, there are as many documents. -/
theorem kept_of_ids (h : c'.ids = c.ids) : Kept c c' where
  count := by simpa only [ids, List.length_map] using congrArg List.length h
  ids := h

/-- Every answer keeps the account. -/
theorem accounted_answer (gen : Nat → ObjectId) (call : Call) (c : Collection) :
    Accounted call c (answer gen call c) := by
  cases call with
  | count filter => rfl
  | find filter => rfl
  | findOne filter => rfl
  | insertOne d =>
    simp only [answer]
    split
    · next h => exact inserted_insertNext h
    · rfl
  | insertMany ds =>
    rw [answer_insertMany]
    split
    · rfl
    · unfold insert
      split
      · next h => exact inserted_insertAll h
      · -- a batch that fails in the middle is dropped as a whole
        rfl
  | updateOne filter u | updateMany filter u => exact kept_of_ids (ids_update _ filter u c)
  | replaceOne filter r | replaceMany filter r => exact kept_of_ids (ids_replace _ filter r c)
  | deleteOne filter | deleteMany filter =>
    simp only [answer]
    generalize h : c.delete _ filter = reply
    obtain ⟨e | n, c'⟩ := reply
    · exact delete_eq_error h
    · exact removed_delete h

/-- As many documents are added as identifiers are returned. -/
theorem Inserted.length {ds : List Document} {ids : List Bson} (h : Inserted ds ids c c') :
    c'.documents.length = c.documents.length + ids.length := by
  rw [h.documents, List.length_append, List.length_zipWith, h.count, Nat.min_self]

/-- The number of documents moves by what the answer reports. -/
theorem Accounted.length {call : Call} {reply : Except StoreError call.Reply × Collection}
    (h : Accounted call c reply) :
    reply.2.documents.length + call.deletedCount reply.1 =
      c.documents.length + (call.insertedIds reply.1).length := by
  obtain ⟨reply, c'⟩ := reply
  have hsame : c' = c → c'.documents.length = c.documents.length := by
    rintro rfl
    rfl
  cases call with
  | insertOne d =>
    cases reply with
    | ok id => exact Inserted.length h
    | error e => exact hsame h
  | insertMany ds =>
    cases reply with
    | ok ids => exact Inserted.length h
    | error e => exact hsame h
  | deleteOne filter | deleteMany filter =>
    cases reply with
    | ok n => exact Removed.count h
    | error e => exact hsame h
  | updateOne filter u | updateMany filter u | replaceOne filter r | replaceMany filter r =>
    exact Kept.count h
  | count filter | find filter | findOne filter => exact hsame h

/-! ## Runs -/

/-- The calls of a run with the answers to them. -/
def answers (c : Collection) :
    List ((Nat → ObjectId) × Call) → List ((call : Call) × Except StoreError call.Reply)
  | [] => []
  | (gen, call) :: calls => ⟨call, (answer gen call c).1⟩ :: answers (answer gen call c).2 calls

/-- How many documents the answers report as inserted. -/
def insertedIn : List ((call : Call) × Except StoreError call.Reply) → Nat
  | [] => 0
  | ⟨call, reply⟩ :: answers => (call.insertedIds reply).length + insertedIn answers

/-- How many documents the answers report as deleted. -/
def deletedIn : List ((call : Call) × Except StoreError call.Reply) → Nat
  | [] => 0
  | ⟨call, reply⟩ :: answers => call.deletedCount reply + deletedIn answers

/-- Over a run, what was there or was inserted is still there or was deleted. -/
theorem length_after (c : Collection) (calls : List ((Nat → ObjectId) × Call)) :
    (c.after calls).documents.length + deletedIn (c.answers calls) =
      c.documents.length + insertedIn (c.answers calls) := by
  induction calls generalizing c with
  | nil => rfl
  | cons step calls ih =>
    obtain ⟨gen, call⟩ := step
    have hstep := (accounted_answer gen call c).length
    have hrest := ih (answer gen call c).2
    simp only [after, List.foldl_cons, answers, insertedIn, deletedIn] at hrest ⊢
    omega

/-- Identifiers are accounted for.  Every answer says what became of the documents and of their
identifiers, and over a run from the empty collection the number of documents is the number of
inserted ones less the number of deleted ones. -/
theorem identifiers_accounted :
    (∀ gen call c, Accounted call c (answer gen call c)) ∧
      ∀ name calls, (((empty name).after calls).documents.length : Int) =
        insertedIn ((empty name).answers calls) - deletedIn ((empty name).answers calls) := by
  refine ⟨accounted_answer, fun name calls => ?_⟩
  have hlength := length_after (empty name) calls
  have hempty : (empty name).documents.length = 0 := rfl
  omega

end Collection
end DocLoad
