import DocLoad.Proofs.Store.Staging
import Mathlib.Data.List.Forall2

/-!
# DocLoad.Proofs.Store.Failure — what a failed call leaves behind

A call that fails leaves the collection as it was, with one exception: an update or a replacement of
many documents that fails at one of them (`StoppedAt`).  Then that document and all later ones are
the old ones, and every earlier one is what the same call leaves of it when it is the only document.
No document is ever left half changed.

`changeWhere_first_error` and `stopped_of_changeWhere_error` are the inductions over the documents,
and `answer_eq_error` puts the calls together.
-/

namespace DocLoad

namespace Call

/-- The filter of a call that may change several documents. -/
def filterOfMany? : Call → Option Document
  | .updateMany filter _ | .replaceMany filter _ => some filter
  | _ => none

/-- What is checked of a call before any document is looked at. -/
def check : Call → Except StoreError Unit
  | .count filter | .find filter | .findOne filter => filter.checkFilter
  | .insertOne _ => .ok ()
  | .insertMany ds => if ds.isEmpty then .error .nothingToInsert else .ok ()
  | .updateOne filter u | .updateMany filter u => do filter.checkFilter; u.setFields.map fun _ => ()
  | .replaceOne filter r | .replaceMany filter r => do filter.checkFilter; r.checkReplacement
  | .deleteOne filter | .deleteMany filter => filter.checkFilter

end Call

namespace Collection

/-- The collection with one document only. -/
def alone (c : Collection) (d : Document) : Collection := { c with documents := [d] }

/-- Work on the matches of a filter failed at position `k` of `c` and left `c'`. -/
structure StoppedAt {ρ : Type} (work : Collection → Except StoreError ρ × Collection)
    (filter : Document) (e : StoreError) (c c' : Collection) (k : Nat) : Prop where
  lt : k < c.documents.length
  matched : filter.satisfies c.documents[k] = true
  /-- The document at `k` fails on its own as well. -/
  fails : work (c.alone c.documents[k]) = (.error e, c.alone c.documents[k])
  /-- From `k` on, nothing has changed. -/
  later : c'.documents.drop k = c.documents.drop k
  /-- Before `k`, every document is what the work leaves of it when it is alone. -/
  earlier : List.Forall₂ (fun d d' => ∃ reply, work (c.alone d) = (.ok reply, c.alone d'))
    (c.documents.take k) (c'.documents.take k)

/-! ## Inductions over the documents -/

section

variable {hits : Document → Bool} {change : Document → Except StoreError Document} {e : StoreError}

/-- Work that goes to the first match has changed nothing when it fails. -/
theorem changeWhere_first_error {ds : List Document}
    (h : (changeWhere .first hits change ds).1 = .error e) :
    (changeWhere .first hits change ds).2 = ds := by
  induction ds with
  | nil => rfl
  | cons d ds ih =>
    cases hd : hits d with
    | false =>
      rw [changeWhere_miss hd] at h ⊢
      exact congrArg (d :: ·) (ih h)
    | true =>
      cases hnew : change d with
      | error e' => rw [changeWhere_fail hd hnew]
      | ok new =>
        -- a first match that is changed ends the work without a failure
        rw [changeWhere_first hd hnew] at h
        cases h

/-- What work on every match makes of a document when it is the only one. -/
def Becomes (hits : Document → Bool) (change : Document → Except StoreError Document)
    (d d' : Document) : Prop :=
  ∃ counts, changeWhere .all hits change [d] = (.ok counts, [d'])

/-- Work on every match that stopped at one document: that one and the later ones are untouched, and
each earlier one has become what it becomes alone. -/
inductive Stopped (hits : Document → Bool) (change : Document → Except StoreError Document)
    (e : StoreError) : List Document → List Document → Prop where
  | here {d : Document} {ds : List Document} (hd : hits d = true) (hfail : change d = .error e) :
      Stopped hits change e (d :: ds) (d :: ds)
  | later {d d' : Document} {ds ds' : List Document} (hd : Becomes hits change d d')
      (hds : Stopped hits change e ds ds') : Stopped hits change e (d :: ds) (d' :: ds')

/-- Work on all matches that fails has stopped at one document. -/
theorem stopped_of_changeWhere_error {ds : List Document}
    (h : (changeWhere .all hits change ds).1 = .error e) :
    Stopped hits change e ds (changeWhere .all hits change ds).2 := by
  induction ds with
  | nil => cases h
  | cons d ds ih =>
    cases hd : hits d with
    | false =>
      rw [changeWhere_miss hd] at h ⊢
      exact .later ⟨_, changeWhere_miss hd⟩ (ih h)
    | true =>
      cases hnew : change d with
      | error e' =>
        -- the first failure ends the work
        rw [changeWhere_fail hd hnew] at h ⊢
        cases h
        exact .here hd hnew
      | ok new =>
        -- this document is done, so the failure comes later
        rw [changeWhere_all hd hnew] at h ⊢
        exact .later ⟨_, changeWhere_all hd hnew⟩ (ih (Except.map_eq_error.mp h))

/-- The position at which work stopped. -/
theorem Stopped.exists_position {ds ds' : List Document} (h : Stopped hits change e ds ds') :
    ∃ (k : Nat) (hk : k < ds.length), hits ds[k] = true ∧ change ds[k] = .error e ∧
      ds'.drop k = ds.drop k ∧
      List.Forall₂ (Becomes hits change) (ds.take k) (ds'.take k) := by
  induction h with
  | here hd hfail => exact ⟨0, Nat.succ_pos _, hd, hfail, rfl, .nil⟩
  | later hd _ ih =>
    obtain ⟨k, hk, hhit, hfail, hdrop, htake⟩ := ih
    exact ⟨k + 1, Nat.succ_lt_succ hk, hhit, hfail, hdrop, .cons hd htake⟩

end

/-! ## Calls -/

/-- Insertions that fail do not show the documents that came before the failure. -/
theorem insert_eq_error {gen : Nat → ObjectId} {ds : List Document} {c c' : Collection}
    {e : StoreError} (h : c.insert gen ds = (.error e, c')) : c' = c :=
  (insert_eq_error_iff.mp h).1

/-- A deletion that fails has taken out nothing. -/
theorem delete_eq_error {reach : Reach} {filter : Document} {c c' : Collection} {e : StoreError}
    (h : c.delete reach filter = (.error e, c')) : c' = c := by
  cases hfilter : filter.checkFilter with
  | error _ =>
    simp only [delete, hfilter] at h
    exact (Prod.mk.inj h).2.symm
  | ok _ =>
    -- once the filter is accepted, no deletion fails
    simp only [delete, hfilter] at h
    split at h
    · split at h <;> cases h
    · cases h

section

variable {filter : Document} {accepted : Except StoreError (Document → Except StoreError Document)}
  {c c' : Collection} {e : StoreError}

/-- Work on the first match that fails has changed nothing. -/
theorem modify_first_eq_error (h : c.modify .first filter accepted = (.error e, c')) : c' = c := by
  unfold modify at h
  split at h
  · cases h
    rfl
  · next change _ =>
    obtain ⟨hfail, rfl⟩ := Prod.mk.inj h
    rw [changeWhere_first_error hfail]

/-- A change of every match fails at its arguments, or at a document when these are accepted. -/
theorem modify_all_eq_error (h : c.modify .all filter accepted = (.error e, c')) :
    ((do filter.checkFilter; accepted) = .error e ∧ c' = c) ∨
      ∃ change, filter.checkFilter = .ok () ∧ accepted = .ok change ∧
        Stopped filter.satisfies change e c.documents c'.documents := by
  unfold modify at h
  split at h
  · next he =>
    cases h
    exact .inl ⟨he, rfl⟩
  · next change hchange =>
    right
    obtain ⟨hfail, rfl⟩ := Prod.mk.inj h
    obtain ⟨⟨⟩, hfilter, haccepted⟩ := Except.bind_eq_ok.mp hchange
    exact ⟨change, hfilter, haccepted, stopped_of_changeWhere_error hfail⟩

/-- A change of documents succeeds when it is accepted and succeeds at every document that it
reaches. -/
theorem modify_eq_ok {reach : Reach} {counts : UpdateCounts} :
    c.modify reach filter accepted = (.ok counts, c') ↔
      ∃ change, filter.checkFilter = .ok () ∧ accepted = .ok change ∧
        changeWhere reach filter.satisfies change c.documents = (.ok counts, c'.documents) ∧
        c' = { c with documents := c'.documents } := by
  constructor
  · intro h
    unfold modify at h
    split at h
    · cases h
    · next change hchange =>
      obtain ⟨⟨⟩, hfilter, haccepted⟩ := Except.bind_eq_ok.mp hchange
      obtain ⟨hcounts, rfl⟩ := Prod.mk.inj h
      exact ⟨change, hfilter, haccepted, Prod.ext hcounts rfl, rfl⟩
  · rintro ⟨change, hfilter, haccepted, hwork, hc'⟩
    have hchange : (do filter.checkFilter; accepted) = .ok change :=
      Except.bind_eq_ok.mpr ⟨(), hfilter, haccepted⟩
    rw [hc', modify, hchange]
    simp only [hwork]

/-- What an accepted change does with a document that is alone. -/
theorem modify_alone {change : Document → Except StoreError Document}
    (hfilter : filter.checkFilter = .ok ()) (haccepted : accepted = .ok change) (d : Document) :
    (c.alone d).modify .all filter accepted =
      ((changeWhere .all filter.satisfies change [d]).1,
        { c with documents := (changeWhere .all filter.satisfies change [d]).2 }) := by
  simp only [modify, hfilter, haccepted]
  rfl

/-- The position at which an accepted change stopped, read off what it does with single
documents. -/
theorem Stopped.stoppedAt {change : Document → Except StoreError Document}
    (hfilter : filter.checkFilter = .ok ()) (haccepted : accepted = .ok change)
    (h : Stopped filter.satisfies change e c.documents c'.documents) :
    ∃ k, StoppedAt (modify .all filter accepted) filter e c c' k := by
  obtain ⟨k, hk, hhit, hfail, hdrop, htake⟩ := h.exists_position
  refine ⟨k, hk, hhit, ?_, hdrop, htake.imp ?_⟩
  · rw [modify_alone hfilter haccepted, changeWhere_fail hhit hfail]
    rfl
  · rintro d d' ⟨counts, hd⟩
    refine ⟨counts, ?_⟩
    rw [modify_alone hfilter haccepted, hd]
    rfl

end

/-- What a failed call leaves behind.  A call that may change several documents either had its
arguments refused, and then nothing has changed, or it stopped at one document. -/
theorem answer_eq_error {gen : Nat → ObjectId} {call : Call} {c c' : Collection} {e : StoreError}
    (h : answer gen call c = (.error e, c')) :
    match call.filterOfMany? with
    | none => c' = c
    | some filter =>
      (call.check = .error e ∧ c' = c) ∨
        call.check = .ok () ∧ ∃ k, StoppedAt (answer gen call) filter e c c' k := by
  cases call with
  | count filter => exact (Prod.mk.inj h).2.symm
  | find filter => exact (Prod.mk.inj h).2.symm
  | findOne filter => exact (Prod.mk.inj h).2.symm
  | insertOne d =>
    simp only [answer] at h
    split at h <;> cases h
    rfl
  | insertMany ds =>
    rw [answer_insertMany] at h
    split at h
    · exact (Prod.mk.inj h).2.symm
    · exact insert_eq_error h
  | updateOne filter u => exact modify_first_eq_error h
  | replaceOne filter r => exact modify_first_eq_error h
  | deleteOne filter | deleteMany filter =>
    simp only [answer] at h
    exact delete_eq_error h
  | updateMany filter u =>
    -- the filter or the update was refused, or the work stopped at a document
    rcases modify_all_eq_error h with ⟨hrefused, hc⟩ | ⟨change, hfilter, haccepted, hstopped⟩
    · refine .inl ⟨Except.bind_eq_error.mpr ?_, hc⟩
      simpa only [Except.map_eq_error] using Except.bind_eq_error.mp hrefused
    · obtain ⟨fields, hfields, -⟩ := Except.map_eq_ok.mp haccepted
      have hcheck : (Call.updateMany filter u).check = .ok () :=
        Except.bind_eq_ok.mpr ⟨(), hfilter, Except.map_eq_ok.mpr ⟨fields, hfields, rfl⟩⟩
      exact .inr ⟨hcheck, hstopped.stoppedAt hfilter haccepted⟩
  | replaceMany filter r =>
    rcases modify_all_eq_error h with ⟨hrefused, hc⟩ | ⟨change, hfilter, haccepted, hstopped⟩
    · refine .inl ⟨Except.bind_eq_error.mpr ?_, hc⟩
      simpa only [Except.map_eq_error] using Except.bind_eq_error.mp hrefused
    · obtain ⟨⟨⟩, hr, -⟩ := Except.map_eq_ok.mp haccepted
      have hcheck : (Call.replaceMany filter r).check = .ok () :=
        Except.bind_eq_ok.mpr ⟨(), hfilter, hr⟩
      exact .inr ⟨hcheck, hstopped.stoppedAt hfilter haccepted⟩

/-- A document without a field `a`, and one where that field is a number. -/
def halfNestable : Collection :=
  ⟨"c", [[("_id", .int32 1)], [("_id", .int32 2), ("a", .int32 5)]], 0⟩

/-- Setting `a.b` in both of them stops at the second, after the first was changed. -/
theorem updateMany_halfNestable :
    let call := Call.updateMany [] [("$set", .document [("a.b", .int32 7)])]
    let left : Collection := ⟨"c", [[("_id", .int32 1), ("a", .document [("b", .int32 7)])],
      [("_id", .int32 2), ("a", .int32 5)]], 0⟩
    let e := StoreError.notNested "b" "a" "a.b"
    answer (fun _ => ⟨0⟩) call halfNestable = (.error e, left) ∧
      ((call.check = .error e ∧ left = halfNestable) ∨
        call.check = .ok () ∧
          ∃ k, StoppedAt (answer (fun _ => ⟨0⟩) call) [] e halfNestable left k) := by
  intro call left e
  have h : answer (fun _ => ⟨0⟩) call halfNestable = (.error e, left) := rfl
  exact ⟨h, answer_eq_error h⟩

end Collection
end DocLoad
