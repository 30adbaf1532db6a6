import DocLoad.Proofs.Store.Effect
import DocLoad.Proofs.Store.Sameness
import DocLoad.Proofs.Store.Written

/-!
# DocLoad.Proofs.Store.Repetition — the same mutation once more

An update or a replacement that has succeeded can be run again: it succeeds, matches as many
documents, and leaves each of them exactly as it is.  It reports no change either, unless a stored
document has a NaN in it and so differs from itself.

* `Repeatable` is what one document needs: what a change has made of it, the same change leaves
  alone.  `repeatable_update` and `repeatable_replace` say this of updates and replacements.
* `changeWhere_again` is the run over all documents, where a document may also have been kept as it
  was because the new one would have been equal.
* `execute_again` puts an operation and its repetition together.
-/

namespace DocLoad

/-! ## One document -/

/-- Fields of a query: their keys increase, and their values equal themselves and are no
documents. -/
structure QueryFields (fields : Document) : Prop where
  increasing : Query.Increasing fields
  atomic : ∀ f ∈ fields, f.2.Atomic

theorem QueryFields.self {fields : Document} (h : QueryFields fields) :
    ∀ f ∈ fields, (f.2 == f.2) = true :=
  fun f hf => (h.atomic f hf).self

/-- What was read from a line are fields of a query. -/
theorem queryFields_of_readQuery {line : String} {q : Query}
    (hread : Session.readQuery line = .ok q) : QueryFields q.toDocument where
  increasing := Session.increasing_of_readQuery hread
  atomic := Query.atomic_of_readQuery hread

/-- What a change makes of a document, the same change leaves as it is. -/
def Repeatable (change : Document → Except StoreError Document) : Prop :=
  ∀ d new, change d = .ok new → change new = .ok new

/-- A change makes documents that equal themselves out of such documents. -/
def KeepsSelf (change : Document → Except StoreError Document) : Prop :=
  ∀ d new, change d = .ok new → d.same d = true → new.same new = true

namespace Document

variable {fields r : Document}

/-- The fields of an update are settled afterwards, so setting them again changes nothing. -/
theorem repeatable_update (hfields : QueryFields fields) : Repeatable (update fields) := by
  intro d new h
  exact update_of_settled (settled_of_update hfields.increasing hfields.atomic h)

/-- An update with values that equal themselves makes documents that do so. -/
theorem keepsSelf_update (hfields : QueryFields fields) : KeepsSelf (update fields) := by
  intro d new h hd
  exact same_self_of_update hfields.self hd h

/-- A replacement keeps the identifier, and that is all that it takes from the old document. -/
theorem repeatable_replace (r : Document) : Repeatable (replace r) := by
  intro d new h
  have hid : new.id? = d.id? := id?_replace h
  -- what `replace_eq_ok` says of the old document, it says of the new one by `hid`
  obtain ⟨hagree, hnew⟩ := replace_eq_ok.mp h
  rw [← hid] at hagree hnew
  exact replace_eq_ok.mpr ⟨hagree, hnew⟩

theorem keepsSelf_replace (hr : QueryFields r) : KeepsSelf (replace r) := by
  intro d new h hd
  obtain ⟨-, rfl⟩ := replace_eq_ok.mp h
  apply Bson.beq_document_self
  intro f hf
  rcases List.mem_append.mp hf with hf | hf
  · -- the identifier comes from the old document
    obtain ⟨id, hid, rfl⟩ := List.mem_map.mp hf
    rw [Option.mem_toList] at hid
    obtain ⟨w, hw, hequal⟩ := get?_same hd hid
    rw [show Fields.get? idKey d = some id from hid] at hw
    cases hw
    exact hequal
  · exact hr.self f (List.mem_of_mem_filter hf)

end Document

namespace Collection

/-! ## All documents -/

section

variable {reach : Reach} {hits : Document → Bool} {change : Document → Except StoreError Document}
  {d kept : Document} {ds ds' : List Document} {counts : UpdateCounts} {modified : Nat}

/-- The document that was left, the old or the new one, is left once more. -/
theorem Leaves.again (hrepeat : Repeatable change) (h : Leaves change d kept modified) :
    ∃ again, Leaves change kept kept again ∧ (kept.same kept = true → again = 0) := by
  obtain ⟨new, hnew, rfl, -⟩ := h
  by_cases hsame : new.same d = true
  · -- the old document was left, and the change makes the same equal document of it
    rw [if_pos hsame]
    exact ⟨0, ⟨new, hnew, (if_pos hsame).symm, (if_pos hsame).symm⟩, fun _ => rfl⟩
  · -- the new document was left, and it is modified once more if it differs from itself
    rw [if_neg hsame]
    exact ⟨_, ⟨new, hrepeat d new hnew, (ite_self new).symm, rfl⟩, fun hself => if_pos hself⟩

variable (hrepeat : Repeatable change) (hhits : ∀ d, hits d = true)
include hrepeat hhits

/-- A change of every document, run again, leaves all documents as they are. -/
theorem changeWhere_all_again (h : changeWhere .all hits change ds = (.ok counts, ds')) :
    ∃ again, changeWhere .all hits change ds' = (.ok ⟨counts.matched, again⟩, ds') ∧
      ((∀ d ∈ ds', d.same d = true) → again = 0) := by
  induction ds generalizing counts ds' with
  | nil =>
    cases h
    exact ⟨0, rfl, fun _ => rfl⟩
  | cons d ds ih =>
    obtain ⟨kept, modified, rest, ds₁, hleaves, hrest, rfl, rfl⟩ :=
      (changeWhere_all_eq_ok (hhits d)).mp h
    obtain ⟨first, hfirst, hfirstZero⟩ := hleaves.again hrepeat
    obtain ⟨others, hothers, hothersZero⟩ := ih hrest
    refine ⟨others + first, (changeWhere_all_eq_ok (hhits kept)).mpr
      ⟨kept, first, ⟨rest.matched, others⟩, ds₁, hfirst, hothers, rfl, rfl⟩, ?_⟩
    intro hself
    rw [List.forall_mem_cons] at hself
    rw [hfirstZero hself.1, hothersZero hself.2]

/-- A change of the first document, run again, leaves it as it is. -/
theorem changeWhere_first_again (h : changeWhere .first hits change ds = (.ok counts, ds')) :
    ∃ again, changeWhere .first hits change ds' = (.ok ⟨counts.matched, again⟩, ds') ∧
      ((∀ d ∈ ds', d.same d = true) → again = 0) := by
  cases ds with
  | nil =>
    cases h
    exact ⟨0, rfl, fun _ => rfl⟩
  | cons d ds =>
    obtain ⟨kept, modified, hleaves, rfl, rfl⟩ := (changeWhere_first_eq_ok (hhits d)).mp h
    obtain ⟨again, hagain, hzero⟩ := hleaves.again hrepeat
    refine ⟨again, (changeWhere_first_eq_ok (hhits kept)).mpr ⟨kept, again, hagain, rfl, rfl⟩, ?_⟩
    intro hself
    exact hzero (hself kept List.mem_cons_self)

/-- Work that is done again matches the same documents and leaves them; it modifies none if all of
them equal themselves. -/
theorem changeWhere_again (h : changeWhere reach hits change ds = (.ok counts, ds')) :
    ∃ again, changeWhere reach hits change ds' = (.ok ⟨counts.matched, again⟩, ds') ∧
      ((∀ d ∈ ds', d.same d = true) → again = 0) := by
  cases reach with
  | first => exact changeWhere_first_again hrepeat hhits h
  | all => exact changeWhere_all_again hrepeat hhits h

end

/-! ## A collection -/

/-- Every document equals itself. -/
def EachSelf (c : Collection) : Prop :=
  ∀ d ∈ c.documents, d.same d = true

/-- No document has a NaN in it. -/
def NoNaN (c : Collection) : Prop :=
  ∀ d ∈ c.documents, (Bson.document d).hasNaN = false

instance (c : Collection) : Decidable c.NoNaN :=
  inferInstanceAs (Decidable (∀ d ∈ c.documents, _))

/-- Documents without NaN equal themselves. -/
theorem NoNaN.eachSelf {c : Collection} (h : c.NoNaN) : c.EachSelf := by
  intro d hd
  exact Bson.beq_self_of_hasNaN (h d hd)

section

variable {reach : Reach} {accepted : Except StoreError (Document → Except StoreError Document)}
  {c c' : Collection} {counts : UpdateCounts}

/-- A change without a filter that has succeeded succeeds again, on as many documents, and leaves
the collection as it is. -/
theorem modify_again (hrepeat : ∀ change, accepted = .ok change → Repeatable change)
    (h : c.modify reach [] accepted = (.ok counts, c')) :
    ∃ again, c'.modify reach [] accepted = (.ok ⟨counts.matched, again⟩, c') ∧
      (c'.EachSelf → again = 0) := by
  obtain ⟨change, hfilter, haccepted, hwork, -⟩ := modify_eq_ok.mp h
  obtain ⟨again, hagain, hzero⟩ :=
    changeWhere_again (hrepeat change haccepted) Document.satisfies_nil hwork
  exact ⟨again, modify_eq_ok.mpr ⟨change, hfilter, haccepted, hagain, rfl⟩, hzero⟩

/-- Documents equal themselves after work with a change that keeps this. -/
theorem eachSelf_of_modify (hself : ∀ change, accepted = .ok change → KeepsSelf change)
    {filter : Document} (h : c.modify reach filter accepted = (.ok counts, c'))
    (hc : c.EachSelf) : c'.EachSelf := by
  obtain ⟨change, -, haccepted, hwork, -⟩ := modify_eq_ok.mp h
  have hkept := forall₂_changeWhere reach filter.satisfies
    (R := fun d d' => d.same d = true → d'.same d' = true) (fun _ => id)
    (hself change haccepted) c.documents
  rw [hwork] at hkept
  intro d' hd'
  obtain ⟨i, hi, rfl⟩ := List.getElem_of_mem hd'
  have hi' : i < c.documents.length := hkept.length_eq ▸ hi
  exact hkept.get hi' hi (hc _ (List.getElem_mem hi'))

end

/-! ## Operations -/

/-- The change that an update or a replacement with the fields of a query makes, once it is
accepted. -/
inductive IsChangeOf (q : Document) :
    Except StoreError (Document → Except StoreError Document) → Prop where
  | update : IsChangeOf q (.ok (Document.update q))
  | replace : IsChangeOf q (q.checkReplacement.map fun _ => Document.replace q)

/-- The names of the operations that update or replace documents. -/
def mutations : List String :=
  ["update", "updateOne", "updateMany", "replaceOne", "replaceMany"]

section

variable (gen : Nat → ObjectId) {line name : String} {q : Query}
  (hread : Session.readQuery line = .ok q)
include hread

/-- Each of these operations is a change of the first or of every document. -/
theorem execute_mutation (hname : name ∈ mutations) :
    ∃ reach accepted, IsChangeOf q.toDocument accepted ∧
      ∀ (c c' : Collection) (outcome : Outcome),
        c.execute gen .general name line = (.ok outcome, c') ↔
          ∃ counts, c.modify reach [] accepted = (.ok counts, c') ∧ .updated counts = outcome := by
  simp only [mutations, List.mem_cons, List.not_mem_nil, or_false] at hname
  rcases hname with rfl | rfl | rfl | rfl | rfl
  · refine ⟨.first, _, .update, fun c c' outcome => ?_⟩
    rw [execute_eq .update hread rfl]
    exact Session.answered_eq_ok
  · refine ⟨.first, _, .update, fun c c' outcome => ?_⟩
    rw [execute_eq .updateOne hread rfl]
    exact Session.answered_eq_ok
  · refine ⟨.all, _, .update, fun c c' outcome => ?_⟩
    rw [execute_eq .updateMany hread rfl]
    exact Session.answered_eq_ok
  · refine ⟨.first, _, .replace, fun c c' outcome => ?_⟩
    rw [execute_eq .replaceOne hread rfl]
    exact Session.answered_eq_ok
  · refine ⟨.all, _, .replace, fun c c' outcome => ?_⟩
    rw [execute_eq .replaceMany hread rfl]
    exact Session.answered_eq_ok

/-- A change with the fields of a query that was read can be repeated, and keeps documents equal to
themselves. -/
theorem repeatable_of_readQuery
    {accepted : Except StoreError (Document → Except StoreError Document)}
    (h : IsChangeOf q.toDocument accepted) :
    ∀ change, accepted = .ok change → Repeatable change ∧ KeepsSelf change := by
  have hfields : QueryFields q.toDocument := queryFields_of_readQuery hread
  intro change haccepted
  cases h with
  | update =>
    cases haccepted
    exact ⟨Document.repeatable_update hfields, Document.keepsSelf_update hfields⟩
  | replace =>
    obtain ⟨-, -, rfl⟩ := Except.map_eq_ok.mp haccepted
    exact ⟨Document.repeatable_replace q.toDocument, Document.keepsSelf_replace hfields⟩

end

/-- An update or a replacement that succeeds, run again with the same query line, succeeds, matches
as many documents and leaves all of them exactly as they are.  It reports that none was modified if
no document has a NaN in it, before the first run or after it. -/
theorem execute_again (gen : Nat → ObjectId) (c : Collection) (line : String) (q : Query)
    (hread : Session.readQuery line = .ok q) :
    ∀ name ∈ mutations, ∀ outcome c', c.execute gen .general name line = (.ok outcome, c') →
      ∃ matched modified again, outcome = .updated ⟨matched, modified⟩ ∧
        c'.execute gen .general name line = (.ok (.updated ⟨matched, again⟩), c') ∧
        (c.NoNaN ∨ c'.NoNaN → again = 0) := by
  intro name hname outcome c' h
  obtain ⟨reach, accepted, hchange, hexecute⟩ := execute_mutation gen hread hname
  have hstable := repeatable_of_readQuery hread hchange
  obtain ⟨counts, hfirst, rfl⟩ := (hexecute c c' outcome).mp h
  obtain ⟨again, hagain, hzero⟩ := modify_again (fun change hok => (hstable change hok).1) hfirst
  refine ⟨counts.matched, counts.modified, again, rfl,
    (hexecute c' c' _).mpr ⟨_, hagain, rfl⟩, ?_⟩
  rintro (hc | hc')
  · exact hzero (eachSelf_of_modify (fun change hok => (hstable change hok).2) hfirst hc.eachSelf)
  · exact hzero hc'.eachSelf

/-- Without the condition on NaNs a repetition may report a change: a document with a NaN differs
from itself, although it has the field already. -/
example :
    (update .all [] [("$set", .document [("a", .int32 1)])]
      ⟨"c", [[("x", .double .nan), ("a", .int32 1)]], 0⟩).1 = .ok ⟨1, 1⟩ := rfl

/-- An update with a dotted path, run again, matches the same two documents and modifies none. -/
theorem execute_again_halfUpToDate :
    let gen : Nat → ObjectId := fun _ => ⟨0⟩
    let line := "c=x, a.b=7"
    let q : Query := ⟨[("a.b", .integer 7), ("c", .text "x")]⟩
    let updated : Collection := ⟨"c", [[("c", .string "x"), ("a", .document [("b", .int32 7)])],
      [("_id", .int32 2), ("a", .document [("b", .int32 7)]), ("c", .string "x")]], 0⟩
    Session.readQuery line = .ok q ∧ "updateMany" ∈ mutations ∧ halfUpToDate.NoNaN ∧
      halfUpToDate.execute gen .general "updateMany" line = (.ok (.updated ⟨2, 1⟩), updated) ∧
      updated.execute gen .general "updateMany" line = (.ok (.updated ⟨2, 0⟩), updated) := by
  intro gen line q updated
  have hread : Session.readQuery line = .ok q := Session.readQuery_eq_ok.mpr (by decide +kernel)
  have hname : "updateMany" ∈ mutations := by decide
  have hnan : halfUpToDate.NoNaN := by decide
  have hupdate : halfUpToDate.execute gen .general "updateMany" line =
      (.ok (.updated ⟨2, 1⟩), updated) := by
    rw [execute_eq .updateMany hread rfl]
    rfl
  obtain ⟨matched, modified, again, hcounts, hagain, hzero⟩ :=
    execute_again gen halfUpToDate line q hread "updateMany" hname _ updated hupdate
  cases hcounts
  rw [hzero (.inl hnan)] at hagain
  exact ⟨hread, hname, hnan, hupdate, hagain⟩

end Collection
end DocLoad
