import DocLoad.Proofs.Store.Accounting
import DocLoad.Proofs.Store.Update

/-!
# DocLoad.Proofs.Store.Written — what is inserted or replaced, a filter finds

A document that is inserted with the fields of a query, or put in the place of another one, has
these fields and an identifier.  If the query names an identifier, the document's one is equal to
it: an insertion takes it over, and a replacement asks for it.  So the document holds every field of
the query (`holds_of_withoutId_eq`), and a search with the same line finds it.

* `replace_eq_ok` says what a replacement makes of a document.
* `findsMore_of_inserted` — after an insertion, the search finds one document more.
* `holds_of_replace` — after a replacement, whether it was written or not, the document is found.

Keys are plain here: a key with a dot would be looked up as a path, but written as it stands.
-/

namespace DocLoad

namespace Document

/-! ## Fields other than the identifier -/

@[simp]
theorem withoutId_cons_idKey (id : Bson) (d : Document) :
    withoutId ((idKey, id) :: d) = d.withoutId := by
  simp [withoutId]

@[simp]
theorem withoutId_withoutId (d : Document) : d.withoutId.withoutId = d.withoutId := by
  simp [withoutId]

/-- Leaving the identifier out keeps all other fields. -/
theorem get?_withoutId {key : String} (h : key ≠ idKey) (d : Document) :
    Fields.get? key d.withoutId = Fields.get? key d := by
  induction d with
  | nil => rfl
  | cons f d ih =>
    obtain ⟨k, v⟩ := f
    by_cases hk : k = idKey
    · subst hk
      rw [withoutId_cons_idKey, ih, Fields.get?, if_neg h.symm]
    · have hcons : withoutId ((k, v) :: d) = (k, v) :: withoutId d := by simp [withoutId, hk]
      rw [hcons, Fields.get?, Fields.get?, ih]

variable {d fields new r : Document}

/-- A value under a plain key is held. -/
theorem Holds.of_get? {key : String} {v w : Bson} (hkey : '.' ∉ key.toList)
    (hw : Fields.get? key d = some w) (hequal : (w == v) = true) : d.Holds (key, v) := by
  refine ⟨w, ?_, hequal⟩
  rw [Path.ofString_of_not_mem hkey]
  exact hw

/-- A document with the same fields other than the identifier, and with an equal identifier if
there is one among them, holds all of them. -/
theorem holds_of_withoutId_eq (hsorted : Query.Increasing fields)
    (hself : ∀ f ∈ fields, (f.2 == f.2) = true)
    (hplain : ∀ key ∈ Fields.keys fields, '.' ∉ key.toList)
    (hid : ∀ id ∈ fields.id?, ∃ w ∈ d.id?, (w == id) = true)
    (hrest : d.withoutId = fields.withoutId) : ∀ f ∈ fields, d.Holds f := by
  rintro ⟨key, v⟩ hf
  have hkey : '.' ∉ key.toList := hplain key (List.mem_map_of_mem hf)
  have hv : Fields.get? key fields = some v := Query.get?_of_mem hsorted hf
  by_cases hk : key = idKey
  · subst hk
    obtain ⟨w, hw, hequal⟩ := hid v hv
    exact .of_get? hkey hw hequal
  · have hd : Fields.get? key d = some v := by
      rw [← get?_withoutId hk, hrest, get?_withoutId hk, hv]
    exact .of_get? hkey hd (hself (key, v) hf)

/-! ## Stored documents -/

/-- An identifier that is put in front can be left out again. -/
theorem withoutId_storedAs (id : Bson) (d : Document) :
    (d.storedAs id).withoutId = d.withoutId := by
  rw [storedAs]
  split
  · rfl
  · exact withoutId_cons_idKey id d

/-- An identifier that a document brought along stays. -/
theorem id?_storedAs_of_mem {id own : Bson} (h : own ∈ d.id?) : (d.storedAs id).id? = some own := by
  have hd : d.id? = some own := h
  rw [storedAs, hd]
  exact hd

/-! ## Replaced documents -/

/-- What a replacement makes of a document: it keeps the identifier, with which that of the
replacement must agree, and takes the other fields from the replacement. -/
theorem replace_eq_ok :
    replace r d = .ok new ↔
      (∀ newId ∈ r.id?, ∀ id ∈ d.id?, (newId == id) = true) ∧
        new = d.id?.toList.map (fun id => (idKey, id)) ++ r.withoutId := by
  rw [replace]
  cases hd : d.id? with
  | none => simp [@eq_comm _ new]
  | some id =>
    cases hr : r.id? with
    | none => simp [@eq_comm _ new]
    | some newId =>
      by_cases hequal : (newId == id) = true
      · simp [hequal, @eq_comm _ new]
      · simp [hequal]

/-- Where the old document has an identifier if the query names one, the new one holds the query's
fields. -/
theorem holds_of_replace (hsorted : Query.Increasing fields)
    (hself : ∀ f ∈ fields, (f.2 == f.2) = true)
    (hplain : ∀ key ∈ Fields.keys fields, '.' ∉ key.toList)
    (hid : idKey ∈ Fields.keys fields → d.id? ≠ none) (h : replace fields d = .ok new) :
    ∀ f ∈ fields, new.Holds f := by
  obtain ⟨hagree, rfl⟩ := replace_eq_ok.mp h
  cases hd : d.id? with
  | none =>
    -- then the query names no identifier either
    have hnone : fields.id? = none := by
      rw [id?, Fields.get?_eq_none_iff]
      exact fun hmem => hid hmem hd
    refine holds_of_withoutId_eq hsorted hself hplain ?_ (withoutId_withoutId fields)
    rw [hnone]
    intro newId hnew
    cases hnew
  | some id =>
    refine holds_of_withoutId_eq hsorted hself hplain ?_ ?_
    · intro newId hnew
      have hequal := hagree newId hnew id hd
      rw [Bson.beq_comm] at hequal
      exact ⟨id, id?_cons_idKey id _, hequal⟩
    · exact (withoutId_cons_idKey id _).trans (withoutId_withoutId fields)

end Document

namespace Collection

variable {gen : Nat → ObjectId} {mode : Mode} {c c' : Collection} {line : String} {q : Query}

/-- A search finds after a change what it found before and one document more, which has the given
identifier and otherwise the fields of the query. -/
def FindsMore (gen : Nat → ObjectId) (mode : Mode) (line : String) (q : Query) (id : Bson)
    (c c' : Collection) : Prop :=
  ∃ found d, c.execute gen mode "find" line = (.ok (.documents found), c) ∧
    c'.execute gen mode "find" line = (.ok (.documents (found ++ [d])), c') ∧
    d.id? = some id ∧ d.withoutId = q.toDocument.withoutId

section

variable (hread : Session.readQuery line = .ok q)
  (hkeys : ∀ key ∈ Fields.keys q.toDocument, '.' ∉ key.toList ∧ isOperator key = false)
include hread hkeys

/-- A document that was inserted with the fields of a query is found behind all the others. -/
theorem findsMore_of_inserted {id : Bson} (h : Inserted [q.toDocument] [id] c c') :
    FindsMore gen mode line q id c c' := by
  have hoperator := fun key hkey => (hkeys key hkey).2
  have hplain := fun key hkey => (hkeys key hkey).1
  have hself : ∀ f ∈ q.toDocument, (f.2 == f.2) = true :=
    fun f hf => (Query.atomic_of_readQuery hread f hf).self
  have hdocs : c'.documents = c.documents ++ [q.toDocument.storedAs id] := h.documents
  have hstored : (q.toDocument.storedAs id).id? = some id := by
    have hids := h.ids
    rw [ids, hdocs, List.map_append, ← ids] at hids
    exact (List.cons.inj (List.append_cancel_left hids)).1
  have hholds := Document.holds_of_withoutId_eq (Session.increasing_of_readQuery hread) hself hplain
    (fun own hown => ⟨own, Document.id?_storedAs_of_mem hown, hself _ (Fields.mem_of_get? hown)⟩)
    (Document.withoutId_storedAs id q.toDocument)
  refine ⟨_, q.toDocument.storedAs id, execute_find_eq hread hoperator mode, ?_, hstored,
    Document.withoutId_storedAs id _⟩
  rw [execute_find_eq hread hoperator mode, hdocs, List.filter_append,
    List.filter_cons_of_pos (Document.satisfies_of_holds hholds)]
  rfl

end

/-! ## Replacements of stored documents -/

/-- Stored documents have identifiers, if the identifiers of the collection are complete. -/
theorem id?_ne_none {d : Document} (h : none ∉ c.ids) (hd : d ∈ c.documents) : d.id? ≠ none := by
  intro hnone
  exact h (List.mem_map.mpr ⟨d, hd, hnone⟩)

section

variable (hread : Session.readQuery line = .ok q)
  (hkeys : ∀ key ∈ Fields.keys q.toDocument, '.' ∉ key.toList ∧ isOperator key = false)
  (hids : idKey ∈ Fields.keys q.toDocument → none ∉ c.ids)
include hread hkeys hids

/-- What is put in the place of a stored document holds the query's fields. -/
theorem holds_of_replace_stored {d new : Document} (hd : d ∈ c.documents)
    (h : Document.replace q.toDocument d = .ok new) : ∀ f ∈ q.toDocument, new.Holds f :=
  Document.holds_of_replace (Session.increasing_of_readQuery hread)
    (fun f hf => (Query.atomic_of_readQuery hread f hf).self)
    (fun key hkey => (hkeys key hkey).1) (fun hid => id?_ne_none (hids hid) hd) h

/-- After a replacement of every document, every document satisfies the query. -/
theorem satisfies_of_replaceMany {counts : UpdateCounts}
    (h : c.replace .all [] q.toDocument = (.ok counts, c')) :
    ∀ d ∈ c'.documents, q.toDocument.satisfies d = true := by
  have hcheck := Document.checkReplacement_eq_ok.mpr fun key hkey => (hkeys key hkey).2
  refine satisfies_of_modify_all (Except.map_eq_ok.mpr ⟨(), hcheck, rfl⟩) ?_ h
  intro d hd new hnew
  exact holds_of_replace_stored hread hkeys hids hd hnew

/-- After a replacement of the first document, that one satisfies the query. -/
theorem satisfies_of_replaceOne {counts : UpdateCounts} {d : Document} {ds : List Document}
    (hc : c.documents = d :: ds) (h : c.replace .first [] q.toDocument = (.ok counts, c')) :
    ∃ d', c'.documents = d' :: ds ∧ q.toDocument.satisfies d' = true := by
  have hcheck := Document.checkReplacement_eq_ok.mpr fun key hkey => (hkeys key hkey).2
  refine satisfies_of_modify_first (Except.map_eq_ok.mpr ⟨(), hcheck, rfl⟩) ?_ hc h
  intro new hnew
  exact holds_of_replace_stored hread hkeys hids (hc ▸ List.mem_cons_self) hnew

end

/-! ## Writing and searching with one query line -/

/-- What is inserted with a query line, a search with the same line finds behind all that it found
before.  What is put in the place of every document, it finds as well, and what is put in the place
of the first one, a search for one document finds.

A replacement needs stored documents to have identifiers if the line names one; whatever calls a
collection has answered since it was empty, they have. -/
theorem find_after_insert_replace (gen : Nat → ObjectId) (c : Collection) (line : String)
    (q : Query) (hread : Session.readQuery line = .ok q)
    (hkeys : ∀ key ∈ Fields.keys q.toDocument, '.' ∉ key.toList ∧ isOperator key = false) :
    (∀ mode outcome c', c.execute gen mode "insertOne" line = (.ok outcome, c') →
      ∃ id, outcome = .insertedOne id ∧ FindsMore gen mode line q id c c') ∧
    (∀ outcome c', c.execute gen .general "insertMany" line = (.ok outcome, c') →
      ∃ id, outcome = .insertedMany [id] ∧ FindsMore gen .general line q id c c') ∧
    ((idKey ∈ Fields.keys q.toDocument → none ∉ c.ids) →
      (∀ outcome c', c.execute gen .general "replaceMany" line = (.ok outcome, c') →
        c'.execute gen .general "find" line = (.ok (.documents c'.documents), c')) ∧
      (c.documents ≠ [] →
        ∀ outcome c', c.execute gen .general "replaceOne" line = (.ok outcome, c') →
          ∃ d ds, c'.documents = d :: ds ∧
            c'.execute gen .general "findOne" line = (.ok (.document (some d)), c'))) ∧
    ∀ name calls, none ∉ ((empty name).after calls).ids := by
  have hoperator := fun key hkey => (hkeys key hkey).2
  refine ⟨?_, ?_, fun hids => ⟨?_, ?_⟩, ?_⟩
  · -- what went behind the old documents is known from the accounting of insertions
    intro mode outcome c' h
    rw [execute_eq .insertOne hread (by cases mode <;> rfl)] at h
    obtain ⟨id, hcall, rfl⟩ := Session.answered_eq_ok.mp h
    have haccount := accounted_answer gen (.insertOne q.toDocument) c
    rw [show answer gen (.insertOne q.toDocument) c = (.ok id, c') from hcall] at haccount
    exact ⟨id, rfl, findsMore_of_inserted hread hkeys haccount⟩
  · intro outcome c' h
    rw [execute_eq .insertMany hread rfl] at h
    obtain ⟨ids, hcall, rfl⟩ := Session.answered_eq_ok.mp h
    have haccount := accounted_answer gen (.insertMany [q.toDocument]) c
    rw [show answer gen (.insertMany [q.toDocument]) c = (.ok ids, c') from hcall] at haccount
    obtain ⟨id, rfl⟩ := List.length_eq_one_iff.mp (Inserted.count haccount)
    exact ⟨id, rfl, findsMore_of_inserted hread hkeys haccount⟩
  · intro outcome c' h
    rw [execute_eq .replaceMany hread rfl] at h
    obtain ⟨counts, hcall, -⟩ := Session.answered_eq_ok.mp h
    exact execute_find hread hoperator (satisfies_of_replaceMany hread hkeys hids hcall)
  · intro hne outcome c' h
    obtain ⟨d, ds, hc⟩ := List.exists_cons_of_ne_nil hne
    rw [execute_eq .replaceOne hread rfl] at h
    obtain ⟨counts, hcall, -⟩ := Session.answered_eq_ok.mp h
    obtain ⟨d', hc', hd'⟩ := satisfies_of_replaceOne hread hkeys hids hc hcall
    exact ⟨d', ds, hc', execute_findOne hread hoperator hc' hd'⟩
  · intro name calls
    have hunique : UniqueIds (empty name).ids := .nil
    exact (uniqueIds_after hunique calls).present

/-- A document that has the fields of `_id=1, a=-0.0` already, up to the order of the fields and the
sign of zero. -/
def upToOrder : Collection := ⟨"c", [[("a", .double (.zero false)), ("_id", .int32 1)]], 0⟩

/-- A replacement with these fields leaves the document as it is, and the search finds it. -/
theorem replaceMany_upToOrder :
    let gen : Nat → ObjectId := fun _ => ⟨0⟩
    let line := "_id=1, a=-0.0"
    let q : Query := ⟨[("_id", .integer 1), ("a", .double (.zero true))]⟩
    Session.readQuery line = .ok q ∧
      (∀ key ∈ Fields.keys q.toDocument, '.' ∉ key.toList ∧ isOperator key = false) ∧
      (idKey ∈ Fields.keys q.toDocument → none ∉ upToOrder.ids) ∧
      upToOrder.execute gen .general "replaceMany" line = (.ok (.updated ⟨1, 0⟩), upToOrder) ∧
      upToOrder.execute gen .general "find" line =
        (.ok (.documents upToOrder.documents), upToOrder) := by
  intro gen line q
  have hread : Session.readQuery line = .ok q := Session.readQuery_eq_ok.mpr (by decide +kernel)
  have hkeys : ∀ key ∈ Fields.keys q.toDocument, '.' ∉ key.toList ∧ isOperator key = false := by
    decide
  have hids : idKey ∈ Fields.keys q.toDocument → none ∉ upToOrder.ids := by
    rw [show upToOrder.ids = [some (.int32 1)] from rfl]
    simp
  have hreplace : upToOrder.execute gen .general "replaceMany" line =
      (.ok (.updated ⟨1, 0⟩), upToOrder) := by
    rw [execute_eq .replaceMany hread rfl]
    rfl
  exact ⟨hread, hkeys, hids, hreplace,
    ((find_after_insert_replace gen upToOrder line q hread hkeys).2.2.1 hids).1 _ _ hreplace⟩

end Collection
end DocLoad
