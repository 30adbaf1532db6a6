import DocLoad.Proofs.Bson.Equality
import DocLoad.Proofs.Bson.Path
import DocLoad.Proofs.Store.Staging
import Mathlib.Data.List.Forall2

/-!
# DocLoad.Proofs.Store.Identifiers — every stored document has an `_id` of its own

A collection that starts empty and answers calls keeps two facts about the identifiers of its
documents: every document has one, and no two are equal (`UniqueIds`).

* Changes in place do not touch identifiers: `id?_update` and `id?_replace` say so for one document
  and `ids_update`, `ids_replace` for the whole collection, also when the work stops half-way.
* An insertion compares with every document stored so far, those of its own batch included, so
  `UniqueIds` grows by one identifier at a time (`uniqueIds_insertNext`).
* A deletion leaves a sublist.

`uniqueIds_answer` is the step and `uniqueIds_after` the run.
-/

namespace DocLoad

/-! ## Identifiers of changed documents -/

namespace Document

@[simp]
theorem id?_cons_idKey (id : Bson) (d : Document) : id? ((idKey, id) :: d) = some id := by
  simp [id?, Fields.get?]

theorem id?_withoutId (d : Document) : d.withoutId.id? = none := by
  rw [id?, Fields.get?_eq_none_iff]
  simp [withoutId, Fields.keys]

/-- Writing at a path changes the field of its first segment only. -/
theorem id?_assign {d d' : Document} {p : Path} {value : Bson} (hp : p.first ≠ idKey)
    (h : d.assign p value = .ok d') : d'.id? = d.id? :=
  get?_assignAt_of_ne hp.symm h

/-- Setting one field keeps the identifier: at or below it nothing is written. -/
theorem id?_updateField {d d' : Document} {field : String × Bson}
    (h : d.updateField field = .ok d') : d'.id? = d.id? := by
  simp only [updateField] at h
  split at h
  · -- at `_id` only the value that is already there is accepted
    split at h
    · split at h <;> cases h
      rfl
    · cases h
  · next hp =>
    split at h
    · next hd =>
      cases h
      exact id?_assign hp hd
    · cases h

/-- An update keeps the identifier, however many fields it sets. -/
theorem id?_update {fields d d' : Document} (h : update fields d = .ok d') : d'.id? = d.id? := by
  induction fields generalizing d with
  | nil => cases h; rfl
  | cons field fields ih =>
    simp only [update, List.foldlM_cons] at h
    obtain ⟨d₁, h₁, h₂⟩ := Except.bind_eq_ok.mp h
    exact (ih h₂).trans (id?_updateField h₁)

/-- A replacement keeps the identifier, for it puts the old one in front. -/
theorem id?_replace {replacement d d' : Document} (h : replace replacement d = .ok d') :
    d'.id? = d.id? := by
  unfold replace at h
  split at h
  · next hd =>
    cases h
    rw [id?_withoutId, hd]
  · next id hd =>
    split at h
    · split at h <;> cases h
      rw [id?_cons_idKey, hd]
    · cases h
      rw [id?_cons_idKey, hd]

end Document

/-! ## The identifiers of a collection -/

/-- No identifier is missing and no two are equal. -/
structure UniqueIds (ids : List (Option Bson)) : Prop where
  present : none ∉ ids
  apart : ids.Pairwise fun i j => ∀ a ∈ i, ∀ b ∈ j, (a == b) = false

namespace UniqueIds

theorem nil : UniqueIds [] := ⟨List.not_mem_nil, .nil⟩

/-- One identifier more, if it differs from all the others. -/
theorem append {ids : List (Option Bson)} {id : Bson} (h : UniqueIds ids)
    (hnew : ∀ a, some a ∈ ids → (a == id) = false) : UniqueIds (ids ++ [some id]) := by
  refine ⟨by simp [h.present], List.pairwise_append.mpr ⟨h.apart, List.pairwise_singleton _ _, ?_⟩⟩
  intro i hi j hj a ha b hb
  obtain rfl := List.mem_singleton.mp hj
  cases hb
  exact hnew a (ha ▸ hi)

/-- Identifiers that are unique are still so when some are taken out. -/
theorem sublist {ids ids' : List (Option Bson)} (h : UniqueIds ids) (hs : ids'.Sublist ids) :
    UniqueIds ids' :=
  ⟨fun hn => h.present (hs.mem hn), h.apart.sublist hs⟩

end UniqueIds

namespace Collection

/-- The identifiers of the documents, in store order. -/
def ids (c : Collection) : List (Option Bson) :=
  c.documents.map Document.id?

/-! ## Insertion -/

/-- An identifier is free if no stored one is equal to it. -/
theorem holdsId_eq_false_iff {c : Collection} {id : Bson} :
    c.holdsId id = false ↔ ∀ a, some a ∈ c.ids → (a == id) = false := by
  simp only [holdsId, idTaken, ids, List.any_eq_false, List.mem_map]
  constructor
  · rintro h a ⟨d, hd, ha⟩
    simpa [ha] using h d hd
  · intro h d hd
    cases ha : d.id? with
    | none => simp
    | some a => simp [h a ⟨d, hd, ha⟩]

theorem id?_withId (fresh : ObjectId) (d : Document) :
    (withId fresh d).2.id? = some (withId fresh d).1 := by
  unfold withId
  split
  · next hd => exact hd
  · exact Document.id?_cons_idKey _ d

/-- The identifier of the new document stands behind the others. -/
theorem ids_push (gen : Nat → ObjectId) (c : Collection) (d : Document) :
    (c.push gen d).ids = c.ids ++ [some (withId (gen c.drawn) d).1] := by
  rw [ids, push, List.map_append, List.map_singleton, id?_withId, ids]

/-- A single insertion keeps identifiers unique, since it checks that the new one is free. -/
theorem uniqueIds_insertNext {gen : Nat → ObjectId} {c c' : Collection} {d : Document} {id : Bson}
    (hc : UniqueIds c.ids) (h : c.insertNext gen d = .ok (id, c')) : UniqueIds c'.ids := by
  obtain ⟨hfree, rfl, rfl⟩ := insertNext_eq_ok.mp h
  rw [ids_push]
  exact hc.append (holdsId_eq_false_iff.mp hfree)

/-- Every document of a batch is compared with the stored ones and with those before it. -/
theorem uniqueIds_insertAll {gen : Nat → ObjectId} {ds : List Document} {c c' : Collection}
    {inserted : List Bson} (hc : UniqueIds c.ids) (h : c.insertAll gen ds = .ok (inserted, c')) :
    UniqueIds c'.ids := by
  induction ds generalizing c inserted with
  | nil =>
    rw [insertAll_nil] at h
    cases h
    exact hc
  | cons d ds ih =>
    rw [insertAll_cons] at h
    obtain ⟨⟨id, c₁⟩, h₁, h⟩ := Except.bind_eq_ok.mp h
    obtain ⟨⟨rest, c₂⟩, h₂, h⟩ := Except.bind_eq_ok.mp h
    cases h
    exact ih (uniqueIds_insertNext hc h₁) h₂

/-! ## Changes in place -/

/-- Whatever holds between a document and what a change makes of it holds between the old and the
new document at every position, up to the place where the work may fail and beyond it. -/
theorem forall₂_changeWhere (reach : Reach) (hits : Document → Bool)
    {change : Document → Except StoreError Document} {R : Document → Document → Prop}
    (hrefl : ∀ d, R d d) (hchange : ∀ d d', change d = .ok d' → R d d') (ds : List Document) :
    List.Forall₂ R ds (changeWhere reach hits change ds).2 := by
  have hsame : ∀ ds, List.Forall₂ R ds ds := fun ds => List.forall₂_same.mpr fun d _ => hrefl d
  induction ds with
  | nil => exact .nil
  | cons d ds ih =>
    cases hd : hits d with
    | false =>
      rw [changeWhere_miss hd]
      exact .cons (hrefl d) ih
    | true =>
      cases hnew : change d with
      | error e =>
        -- the change fails here, and nothing from here on is written
        rw [changeWhere_fail hd hnew]
        exact hsame _
      | ok new =>
        have hkept : R d (if new.same d then d else new) := by
          split
          · exact hrefl d
          · exact hchange d new hnew
        cases reach with
        | first =>
          rw [changeWhere_first hd hnew]
          exact .cons hkept (hsame ds)
        | all =>
          rw [changeWhere_all hd hnew]
          exact .cons hkept ih

/-- Changes that keep identifiers keep them in every document. -/
theorem ids_changeWhere (reach : Reach) (hits : Document → Bool)
    {change : Document → Except StoreError Document}
    (hchange : ∀ d d', change d = .ok d' → d'.id? = d.id?) (ds : List Document) :
    (changeWhere reach hits change ds).2.map Document.id? = ds.map Document.id? := by
  have hids := forall₂_changeWhere reach hits (R := fun d d' => d'.id? = d.id?) (fun _ => rfl)
    hchange ds
  rw [← List.forall₂_eq_eq_eq, List.forall₂_map_left_iff, List.forall₂_map_right_iff]
  exact hids.flip

/-- Work on matches keeps all identifiers if the change of one document keeps its own. -/
theorem ids_modify (reach : Reach) (filter : Document)
    {accepted : Except StoreError (Document → Except StoreError Document)}
    (hchange : ∀ change, accepted = .ok change → ∀ d d', change d = .ok d' → d'.id? = d.id?)
    (c : Collection) : (c.modify reach filter accepted).2.ids = c.ids := by
  unfold modify
  split
  · rfl
  · next change h =>
    obtain ⟨-, -, haccepted⟩ := Except.bind_eq_ok.mp h
    exact ids_changeWhere reach _ (hchange change haccepted) c.documents

/-- Updates keep all identifiers, also when they fail half-way. -/
theorem ids_update (reach : Reach) (filter u : Document) (c : Collection) :
    (c.update reach filter u).2.ids = c.ids := by
  apply ids_modify
  intro change h d d'
  obtain ⟨fields, -, rfl⟩ := Except.map_eq_ok.mp h
  exact Document.id?_update

theorem ids_replace (reach : Reach) (filter r : Document) (c : Collection) :
    (c.replace reach filter r).2.ids = c.ids := by
  apply ids_modify
  intro change h d d'
  obtain ⟨-, -, rfl⟩ := Except.map_eq_ok.mp h
  exact Document.id?_replace

/-! ## Deletion -/

/-- What is left when the documents that match are deleted, as far as `reach` says. -/
def remaining (reach : Reach) (hits : Document → Bool) (ds : List Document) : List Document :=
  match reach with
  | .first => ds.eraseP hits
  | .all => ds.filter fun d => !hits d

/-- A deletion leaves documents in the order in which they were. -/
theorem remaining_sublist (reach : Reach) (hits : Document → Bool) (ds : List Document) :
    (remaining reach hits ds).Sublist ds := by
  cases reach with
  | first => exact List.eraseP_sublist
  | all => exact List.filter_sublist

/-- A deletion leaves what remains, and tells how many documents are gone. -/
theorem delete_eq_remaining {filter : Document} (hfilter : filter.checkFilter = .ok ())
    (reach : Reach) (c : Collection) :
    c.delete reach filter =
      (.ok (c.documents.length - (remaining reach filter.satisfies c.documents).length),
        { c with documents := remaining reach filter.satisfies c.documents }) := by
  cases reach with
  | all => simp only [delete, hfilter, remaining]
  | first =>
    simp only [delete, hfilter, remaining, List.eraseP_eq_eraseIdx]
    cases hfound : c.documents.findIdx? filter.satisfies with
    | none => simp only [Nat.sub_self]
    | some i =>
      -- one document stood at the position
      have hlt : i < c.documents.length := (List.findIdx?_eq_some_iff_getElem.mp hfound).1
      have hone : c.documents.length - (c.documents.eraseIdx i).length = 1 := by
        rw [List.length_eraseIdx_of_lt hlt]
        omega
      simp only [hone]

theorem ids_delete_sublist (reach : Reach) (filter : Document) (c : Collection) :
    (c.delete reach filter).2.ids.Sublist c.ids := by
  cases hfilter : filter.checkFilter with
  | error e =>
    simp only [delete, hfilter]
    exact List.Sublist.refl _
  | ok _ =>
    rw [delete_eq_remaining hfilter]
    exact (remaining_sublist reach _ c.documents).map _

/-! ## Steps and runs -/

/-- Every call keeps identifiers present and unique, also one that fails. -/
theorem uniqueIds_answer (gen : Nat → ObjectId) (call : Call) {c : Collection}
    (hc : UniqueIds c.ids) : UniqueIds (answer gen call c).2.ids := by
  cases call with
  | count filter => exact hc
  | find filter => exact hc
  | findOne filter => exact hc
  | insertOne d =>
    simp only [answer]
    split
    · next h => exact uniqueIds_insertNext hc h
    · exact hc
  | insertMany ds =>
    rw [answer_insertMany]
    split
    · exact hc
    · unfold insert
      split
      · next h => exact uniqueIds_insertAll hc h
      · -- a batch that fails in the middle is dropped as a whole
        exact hc
  | updateOne filter u => exact (ids_update .first filter u c).symm ▸ hc
  | updateMany filter u => exact (ids_update .all filter u c).symm ▸ hc
  | replaceOne filter r => exact (ids_replace .first filter r c).symm ▸ hc
  | replaceMany filter r => exact (ids_replace .all filter r c).symm ▸ hc
  | deleteOne filter => exact hc.sublist (ids_delete_sublist .first filter c)
  | deleteMany filter => exact hc.sublist (ids_delete_sublist .all filter c)

/-- The collection after calls in order, each with the identifiers that are generated for it. -/
def after (c : Collection) (calls : List ((Nat → ObjectId) × Call)) : Collection :=
  calls.foldl (fun c step => (answer step.1 step.2 c).2) c

/-- Identifiers stay unique in every run, by induction on its calls with `uniqueIds_answer` as the
step. -/
theorem uniqueIds_after {c : Collection} (hc : UniqueIds c.ids)
    (calls : List ((Nat → ObjectId) × Call)) : UniqueIds (c.after calls).ids := by
  induction calls generalizing c with
  | nil => exact hc
  | cons step calls ih => exact ih (uniqueIds_answer step.1 step.2 hc)

/-- Whatever calls a collection has answered since it was empty, every document in it has an
identifier, and documents at different positions have different ones. -/
theorem documents_identified (name : String) (calls : List ((Nat → ObjectId) × Call)) :
    let ds := ((empty name).after calls).documents
    (∀ d ∈ ds, ∃ id, d.id? = some id) ∧
      ∀ (i j : Nat) (hi : i < ds.length) (hj : j < ds.length), i ≠ j →
        ∀ a b, ds[i].id? = some a → ds[j].id? = some b → (a == b) = false := by
  intro ds
  have hu : UniqueIds (ds.map Document.id?) := uniqueIds_after (c := empty name) .nil calls
  constructor
  · intro d hd
    cases hid : d.id? with
    | none => exact absurd (List.mem_map.mpr ⟨d, hd, hid⟩) hu.present
    | some id => exact ⟨id, rfl⟩
  · intro i j hi hj hne a b ha hb
    have hapart := List.pairwise_iff_getElem.mp (List.pairwise_map.mp hu.apart)
    rcases Nat.lt_or_gt_of_ne hne with hlt | hgt
    · exact hapart i j hi hj hlt a ha b hb
    · -- the later document was compared with the earlier one, in that order only
      rw [Bson.beq_comm]
      exact hapart j i hj hi hgt b hb a ha

end Collection
end DocLoad
