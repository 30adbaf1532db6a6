import DocLoad.Proofs.Store.Effect
import DocLoad.Proofs.Store.Written
import Mathlib.Data.Set.Card

/-!
# DocLoad.Proofs.Store.Acknowledgment — what the counts of a change mean

An update or a replacement that succeeds tells how many documents matched and how many it modified.
A document that it reaches has a full result, with all fields set or with everything but the
identifier replaced, and is modified when this result is not equal to it.  Equality does not see the
order of keys, and a NaN is not equal to itself.

`Differs` says so for one position, without running the change, and `Acknowledged` for the answer
and what is stored afterwards.

* `counted_changeWhere` is the induction over the documents for the counts, with one lemma for each
  kind of first document.  What stands at each position afterwards is `worked_changeWhere`.
* `exists_changeWhere_eq_ok` — work succeeds where each document that it reaches has a full result.
* `Acknowledged.unique` — there is only one true answer.
* `modify_eq_ok_iff_acknowledged` puts these together, for any change.
-/

namespace DocLoad

namespace Document

/-! ## Full results -/

/-- All fields have been set, one after another: at and below `_id` an equal value is there already,
and anywhere else the value is written. -/
inductive Sets : Document → Document → Document → Prop where
  | nil (d : Document) : Sets [] d d
  | compared {field : String × Bson} {fields d new : Document}
      (hid : (Path.ofString field.1).first = idKey) (hd : d.Holds field)
      (hrest : Sets fields d new) : Sets (field :: fields) d new
  | written {field : String × Bson} {fields d d₁ new : Document}
      (hid : (Path.ofString field.1).first ≠ idKey)
      (hassign : d.assign (Path.ofString field.1) field.2 = .ok d₁)
      (hrest : Sets fields d₁ new) : Sets (field :: fields) d new

/-- Everything but the identifier has been replaced: the old identifier comes first, and then the
other fields of the replacement in their order.  An identifier of the replacement agrees with the
old one. -/
structure Replaces (r d new : Document) : Prop where
  agrees (newId : Bson) (hnew : newId ∈ r.id?) (id : Bson) (hid : id ∈ d.id?) :
    (newId == id) = true
  eq : new = d.id?.toList.map (fun id => (idKey, id)) ++ r.withoutId

variable {fields r d new : Document}

/-- The fields have all been set exactly if an update with them gives this document. -/
theorem sets_iff : Sets fields d new ↔ update fields d = .ok new := by
  constructor
  · intro h
    induction h with
    | nil d => rfl
    | compared hid hd _ ih =>
      exact update_cons.mpr ⟨_, updateField_eq_ok.mpr (.inl ⟨hid, rfl, hd⟩), ih⟩
    | written hid hassign _ ih =>
      exact update_cons.mpr ⟨_, updateField_eq_ok.mpr (.inr ⟨hid, hassign⟩), ih⟩
  · intro h
    induction fields generalizing d with
    | nil =>
      cases h
      exact .nil _
    | cons field fields ih =>
      obtain ⟨d₁, hfield, hrest⟩ := update_cons.mp h
      rcases updateField_eq_ok.mp hfield with ⟨hid, rfl, hd⟩ | ⟨hid, hassign⟩
      · exact .compared hid hd (ih hrest)
      · exact .written hid hassign (ih hrest)

/-- All but the identifier has been replaced exactly if a replacement gives this document. -/
theorem replaces_iff : Replaces r d new ↔ replace r d = .ok new := by
  rw [replace_eq_ok]
  exact ⟨fun h => ⟨h.agrees, h.eq⟩, fun h => ⟨h.1, h.2⟩⟩

/-- The payloads of an update that are accepted. -/
theorem setFields_eq_ok {u : Document} :
    u.setFields = .ok fields ↔ u = [("$set", .document fields)] := by
  constructor
  · intro h
    unfold setFields at h
    split at h
    · next key value =>
      split at h
      · next hkey =>
        split at h
        · cases h
          rw [hkey]
        · cases h
      · split at h <;> cases h
    · cases h
  · rintro rfl
    rfl

end Document

/-! ## Positions -/

open Classical in
/-- How many positions have a property: those behind the first one, and the first one if it has
it. -/
theorem encard_setOf_nat (p : Nat → Prop) :
    {i | p i}.encard = {i | p (i + 1)}.encard + if p 0 then 1 else 0 := by
  have hlater : (Nat.succ '' {i | p (i + 1)}).encard = {i | p (i + 1)}.encard :=
    Nat.succ_injective.encard_image _
  by_cases hp : p 0
  · have hset : {i | p i} = insert 0 (Nat.succ '' {i | p (i + 1)}) := by
      ext i
      cases i <;> simp [hp]
    rw [hset, Set.encard_insert_of_notMem (by simp), hlater, if_pos hp]
  · have hset : {i | p i} = Nat.succ '' {i | p (i + 1)} := by
      ext i
      cases i <;> simp [hp]
    rw [hset, hlater, if_neg hp, add_zero]

namespace Collection

/-- Work reaches the document at a position, and its full result is not equal to it. -/
structure Differs (reach : Reach) (hits : Document → Bool) (result : Document → Document → Prop)
    (ds : List Document) (i : Nat) (new : Document) : Prop where
  covered : Covers reach hits ds i
  different : ∃ d, ds[i]? = some d ∧ result d new ∧ new.same d = false

/-- How many documents match, of those that work may go to. -/
def matchCount (reach : Reach) (hits : Document → Bool) (ds : List Document) : Nat :=
  match reach with
  | .first => if ds.any hits then 1 else 0
  | .all => ds.countP hits

/-- The counts of work on documents: how many matched, and how many have a full result that is not
equal to them. -/
structure Counted (reach : Reach) (hits : Document → Bool) (result : Document → Document → Prop)
    (ds : List Document) (counts : UpdateCounts) : Prop where
  matched : counts.matched = matchCount reach hits ds
  modified : {i | ∃ new, Differs reach hits result ds i new}.encard = counts.modified
  le : counts.modified ≤ counts.matched

section

variable {reach : Reach} {hits : Document → Bool} {result : Document → Document → Prop}
  {d new : Document} {ds ds' : List Document} {i : Nat} {counts : UpdateCounts}

/-- The first document differs if it matches and its full result is not equal to it. -/
theorem differs_zero :
    Differs reach hits result (d :: ds) 0 new ↔
      hits d = true ∧ result d new ∧ new.same d = false := by
  constructor
  · rintro ⟨hcovered, e, he, hdifferent⟩
    cases he
    exact ⟨covers_zero.mp hcovered, hdifferent⟩
  · rintro ⟨hd, hdifferent⟩
    exact ⟨covers_zero.mpr hd, d, rfl, hdifferent⟩

/-- A later document differs if it does so among the later ones, and work on a first match is not
over at the first document. -/
theorem differs_succ :
    Differs reach hits result (d :: ds) (i + 1) new ↔
      (reach = .first → hits d = false) ∧ Differs reach hits result ds i new := by
  constructor
  · rintro ⟨hcovered, hdifferent⟩
    obtain ⟨hgoes, hcovered⟩ := covers_succ.mp hcovered
    exact ⟨hgoes, hcovered, hdifferent⟩
  · rintro ⟨hgoes, hcovered, hdifferent⟩
    exact ⟨covers_succ.mpr ⟨hgoes, hcovered⟩, hdifferent⟩

/-! ## The counts -/

/-- Behind a document that does not match, the counts are those of the others. -/
theorem Counted.cons_of_miss (hd : hits d = false) (h : Counted reach hits result ds counts) :
    Counted reach hits result (d :: ds) counts := by
  obtain ⟨hmatched, hmodified, hle⟩ := h
  refine ⟨?_, ?_, hle⟩
  · rw [hmatched]
    cases reach <;> simp [matchCount, hd]
  · rw [encard_setOf_nat]
    simp [differs_zero, differs_succ, hd, hmodified]

/-- A match at which the work ends is the only one that counts. -/
theorem Counted.cons_of_first (hd : hits d = true) (hnew : ∀ n, result d n ↔ n = new) :
    Counted .first hits result (d :: ds) ⟨1, if new.same d then 0 else 1⟩ := by
  refine ⟨?_, ?_, ?_⟩
  · simp [matchCount, hd]
  · rw [encard_setOf_nat]
    cases hsame : new.same d <;> simp [differs_zero, differs_succ, hd, hnew, hsame]
  · dsimp only
    split <;> omega

/-- A match behind which the work goes on counts in addition to the others. -/
theorem Counted.cons_of_all (hd : hits d = true) (hnew : ∀ n, result d n ↔ n = new)
    (h : Counted .all hits result ds counts) :
    Counted .all hits result (d :: ds)
      ⟨counts.matched + 1, counts.modified + if new.same d then 0 else 1⟩ := by
  obtain ⟨hmatched, hmodified, hle⟩ := h
  refine ⟨?_, ?_, ?_⟩
  · simp [matchCount, hd, hmatched]
  · rw [encard_setOf_nat]
    cases hsame : new.same d <;> simp [differs_zero, differs_succ, hd, hnew, hsame, hmodified]
  · dsimp only
    split <;> omega

section

variable {change : Document → Except StoreError Document}
  (hresult : ∀ d new, result d new ↔ change d = .ok new)
include hresult

/-- A document that can be changed has one full result. -/
theorem result_iff (hnew : change d = .ok new) (n : Document) : result d n ↔ n = new := by
  rw [hresult, hnew, Except.ok.injEq, eq_comm]

/-- Work that succeeds counts what matched and what differs. -/
theorem counted_changeWhere (h : changeWhere reach hits change ds = (.ok counts, ds')) :
    Counted reach hits result ds counts := by
  -- on the documents: each one is missed, ends the work, or counts and lets the work go on
  induction ds generalizing counts ds' with
  | nil =>
    cases h
    have hnone : {i | ∃ new, Differs reach hits result [] i new} = ∅ := by
      ext i
      constructor
      · rintro ⟨new, -, d, hd, -⟩
        cases hd
      · nofun
    refine ⟨?_, ?_, le_rfl⟩
    · cases reach <;> rfl
    · rw [hnone, Set.encard_empty]
      rfl
  | cons d ds ih =>
    cases hd : hits d with
    | false =>
      rw [changeWhere_miss hd] at h
      obtain ⟨hrest, rfl⟩ := Prod.mk.inj h
      exact (ih (Prod.ext hrest rfl)).cons_of_miss hd
    | true =>
      cases reach with
      | first =>
        obtain ⟨kept, modified, ⟨new, hnew, -, rfl⟩, rfl, -⟩ := (changeWhere_first_eq_ok hd).mp h
        exact .cons_of_first hd (result_iff hresult hnew)
      | all =>
        obtain ⟨kept, modified, rest, ds₁, ⟨new, hnew, -, rfl⟩, hrest, rfl, -⟩ :=
          (changeWhere_all_eq_ok hd).mp h
        exact (ih hrest).cons_of_all hd (result_iff hresult hnew)

/-- Work succeeds where each document that it reaches has a full result. -/
theorem exists_changeWhere_eq_ok
    (h : ∀ i d, ds[i]? = some d → Covers reach hits ds i → ∃ new, result d new) :
    ∃ counts ds', changeWhere reach hits change ds = (.ok counts, ds') := by
  induction ds with
  | nil => exact ⟨_, _, rfl⟩
  | cons d ds ih =>
    cases hd : hits d with
    | false =>
      obtain ⟨counts, ds', hwork⟩ := ih fun i e he hi =>
        h (i + 1) e he (covers_succ.mpr ⟨fun _ => hd, hi⟩)
      rw [changeWhere_miss hd, hwork]
      exact ⟨_, _, rfl⟩
    | true =>
      obtain ⟨new, hfull⟩ := h 0 d rfl (covers_zero.mpr hd)
      have hnew : change d = .ok new := (hresult d new).mp hfull
      cases reach with
      | first => exact ⟨_, _, changeWhere_first hd hnew⟩
      | all =>
        obtain ⟨counts, ds', hwork⟩ := ih fun i e he hi =>
          h (i + 1) e he (covers_succ.mpr ⟨nofun, hi⟩)
        rw [changeWhere_all hd hnew, hwork]
        exact ⟨_, _, rfl⟩

end

end

/-! ## Calls -/

/-- An acknowledgment that tells the truth about a change, with what is stored afterwards. -/
structure Acknowledged (reach : Reach) (filter : Document)
    (result : Document → Document → Prop) (c : Collection) (counts : UpdateCounts)
    (c' : Collection) : Prop where
  counted : Counted reach filter.satisfies result c.documents counts
  /-- Each document that the change reaches has a full result. -/
  complete (i : Nat) (d : Document) (hd : c.documents[i]? = some d)
    (hi : Covers reach filter.satisfies c.documents i) : ∃ new, result d new
  /-- Where it differs, it is stored. -/
  stored (i : Nat) (new : Document)
    (h : Differs reach filter.satisfies result c.documents i new) :
    c'.documents[i]? = some new
  /-- Everywhere else the old document is stored, with its keys in the old order. -/
  others (i : Nat) (h : ∀ new, ¬ Differs reach filter.satisfies result c.documents i new) :
    c'.documents[i]? = c.documents[i]?
  frame : c' = { c with documents := c'.documents }

section

variable {reach : Reach} {filter u r : Document} {result : Document → Document → Prop}
  {change : Document → Except StoreError Document}
  {accepted : Except StoreError (Document → Except StoreError Document)} {c c' c'' : Collection}
  {counts counts' : UpdateCounts}

/-- Only one answer, with one collection, is an acknowledgment. -/
theorem Acknowledged.unique (h : Acknowledged reach filter result c counts c')
    (h' : Acknowledged reach filter result c counts' c'') : counts = counts' ∧ c' = c'' := by
  constructor
  · have hmatched : counts.matched = counts'.matched :=
      h.counted.matched.trans h'.counted.matched.symm
    have hmodified : counts.modified = counts'.modified := by
      have hcast := h.counted.modified.symm.trans h'.counted.modified
      exact_mod_cast hcast
    cases counts
    cases counts'
    simp_all
  · -- at every position, whether the document differs there decides what is stored
    have hdocs : c'.documents = c''.documents := by
      apply List.ext_getElem?
      intro i
      by_cases hdiffers : ∃ new, Differs reach filter.satisfies result c.documents i new
      · obtain ⟨new, hnew⟩ := hdiffers
        rw [h.stored i new hnew, h'.stored i new hnew]
      · rw [not_exists] at hdiffers
        rw [h.others i hdiffers, h'.others i hdiffers]
    rw [h.frame, h'.frame, hdocs]

section

variable (haccepted : accepted = .ok change)
  (hresult : ∀ d new, result d new ↔ change d = .ok new)
include haccepted hresult

/-- An accepted change that succeeds is acknowledged as it was. -/
theorem acknowledged_modify (h : c.modify reach filter accepted = (.ok counts, c')) :
    Acknowledged reach filter result c counts c' := by
  obtain ⟨change', -, haccepted', hwork, hframe⟩ := modify_eq_ok.mp h
  obtain rfl : change = change' := Except.ok.inj (haccepted.symm.trans haccepted')
  have hworked := worked_changeWhere hwork
  refine ⟨counted_changeWhere hresult hwork, ?_, ?_, ?_, hframe⟩
  · intro i d hd hi
    obtain ⟨kept, modified, ⟨new, hnew, -⟩, -⟩ := (hworked i).covered d hd hi
    exact ⟨new, (hresult d new).mpr hnew⟩
  · rintro i new ⟨hi, d, hd, hfull, hdiffers⟩
    obtain ⟨kept, modified, ⟨new', hnew, hkept, -⟩, hstored⟩ := (hworked i).covered d hd hi
    obtain rfl : new = new' := (result_iff hresult hnew new).mp hfull
    rw [hstored, hkept, hdiffers]
    rfl
  · intro i hsame
    by_cases hi : Covers reach filter.satisfies c.documents i
    · -- the full result does not differ, so the old document was kept
      obtain ⟨d, hd, -⟩ := hi.hit
      obtain ⟨kept, modified, ⟨new, hnew, hkept, -⟩, hstored⟩ := (hworked i).covered d hd hi
      have hequal : new.same d = true := by
        by_contra hdiffers
        rw [Bool.not_eq_true] at hdiffers
        exact hsame new ⟨hi, d, hd, (hresult d new).mpr hnew, hdiffers⟩
      rw [hstored, hkept, if_pos hequal, hd]
    · exact (hworked i).others hi

/-- An accepted change succeeds where each document that it reaches has a full result, and with the
one true answer. -/
theorem modify_eq_ok_iff_acknowledged :
    c.modify reach filter accepted = (.ok counts, c') ↔
      (∀ key ∈ Fields.keys filter, isOperator key = false) ∧
        Acknowledged reach filter result c counts c' := by
  constructor
  · intro h
    obtain ⟨-, hfilter, -⟩ := modify_eq_ok.mp h
    exact ⟨Document.checkFilter_eq_ok.mp hfilter, acknowledged_modify haccepted hresult h⟩
  · rintro ⟨hfilter, hack⟩
    obtain ⟨counts', ds', hwork⟩ := exists_changeWhere_eq_ok hresult hack.complete
    have hmodify : c.modify reach filter accepted =
        (.ok counts', { c with documents := ds' }) :=
      modify_eq_ok.mpr ⟨change, Document.checkFilter_eq_ok.mpr hfilter, haccepted, hwork, rfl⟩
    obtain ⟨rfl, rfl⟩ := (acknowledged_modify haccepted hresult hmodify).unique hack
    exact hmodify

end

/-- An update succeeds, with some counts and a new collection, exactly if the filter has no
operators, the update is one `$set`, and these are an acknowledgment that is true of it. -/
theorem update_eq_ok_iff :
    c.update reach filter u = (.ok counts, c') ↔
      (∀ key ∈ Fields.keys filter, isOperator key = false) ∧
        ∃ fields, u = [("$set", .document fields)] ∧
          Acknowledged reach filter (Document.Sets fields) c counts c' := by
  have hiff (fields : Document) :
      c.update reach filter [("$set", .document fields)] = (.ok counts, c') ↔
        (∀ key ∈ Fields.keys filter, isOperator key = false) ∧
          Acknowledged reach filter (Document.Sets fields) c counts c' :=
    modify_eq_ok_iff_acknowledged rfl fun _ _ => Document.sets_iff
  constructor
  · intro h
    obtain ⟨_, -, haccepted, -⟩ := modify_eq_ok.mp h
    obtain ⟨fields, hfields, -⟩ := Except.map_eq_ok.mp haccepted
    obtain rfl := Document.setFields_eq_ok.mp hfields
    obtain ⟨hfilter, hack⟩ := (hiff fields).mp h
    exact ⟨hfilter, fields, rfl, hack⟩
  · rintro ⟨hfilter, fields, rfl, hack⟩
    exact (hiff fields).mpr ⟨hfilter, hack⟩

/-- A replacement succeeds, with some counts and a new collection, exactly if neither the filter nor
the new content has operators and these are an acknowledgment that is true of it. -/
theorem replace_eq_ok_iff :
    c.replace reach filter r = (.ok counts, c') ↔
      (∀ key ∈ Fields.keys filter, isOperator key = false) ∧
        (∀ key ∈ Fields.keys r, isOperator key = false) ∧
          Acknowledged reach filter (Document.Replaces r) c counts c' := by
  have hiff (haccepted : r.checkReplacement = .ok ()) :
      c.replace reach filter r = (.ok counts, c') ↔
        (∀ key ∈ Fields.keys filter, isOperator key = false) ∧
          Acknowledged reach filter (Document.Replaces r) c counts c' :=
    modify_eq_ok_iff_acknowledged (Except.map_eq_ok.mpr ⟨(), haccepted, rfl⟩)
      fun _ _ => Document.replaces_iff
  constructor
  · intro h
    obtain ⟨_, -, haccepted, -⟩ := modify_eq_ok.mp h
    obtain ⟨_, hr, -⟩ := Except.map_eq_ok.mp haccepted
    obtain ⟨hfilter, hack⟩ := (hiff hr).mp h
    exact ⟨hfilter, Document.checkReplacement_eq_ok.mp hr, hack⟩
  · rintro ⟨hfilter, hr, hack⟩
    exact (hiff (Document.checkReplacement_eq_ok.mpr hr)).mpr ⟨hfilter, hack⟩

end

/-- Updates and replacements succeed with an acknowledgment of what they did, and with no other one.
A call for many documents tells how many matched before it, and a call for one document whether any
did.  What it tells as modified are the documents whose full result is not equal to them; these hold
their full result afterwards, and all others are the old ones.

They succeed exactly if their arguments are accepted and each document that they reach has a full
result. -/
theorem acknowledged_answer (gen : Nat → ObjectId) (filter : Document) (c c' : Collection)
    (counts : UpdateCounts) :
    (∀ u, (answer gen (.updateOne filter u) c = (.ok counts, c') ↔
        (∀ key ∈ Fields.keys filter, isOperator key = false) ∧
          ∃ fields, u = [("$set", .document fields)] ∧
            Acknowledged .first filter (Document.Sets fields) c counts c') ∧
      (answer gen (.updateMany filter u) c = (.ok counts, c') ↔
        (∀ key ∈ Fields.keys filter, isOperator key = false) ∧
          ∃ fields, u = [("$set", .document fields)] ∧
            Acknowledged .all filter (Document.Sets fields) c counts c')) ∧
    ∀ r, (answer gen (.replaceOne filter r) c = (.ok counts, c') ↔
        (∀ key ∈ Fields.keys filter, isOperator key = false) ∧
          (∀ key ∈ Fields.keys r, isOperator key = false) ∧
            Acknowledged .first filter (Document.Replaces r) c counts c') ∧
      (answer gen (.replaceMany filter r) c = (.ok counts, c') ↔
        (∀ key ∈ Fields.keys filter, isOperator key = false) ∧
          (∀ key ∈ Fields.keys r, isOperator key = false) ∧
            Acknowledged .all filter (Document.Replaces r) c counts c') := by
  constructor
  · intro u
    exact ⟨update_eq_ok_iff, update_eq_ok_iff⟩
  · intro r
    exact ⟨replace_eq_ok_iff, replace_eq_ok_iff⟩

/-- Four documents.  All but the third have `k=1` and could be given `a=7`: the first and the second
have it already, but the first one has a NaN as well, and the second one its keys in another
order. -/
def nearlyWritten : Collection :=
  ⟨"c", [[("_id", .int32 1), ("k", .int32 1), ("a", .int32 7), ("x", .double .nan)],
    [("a", .int32 7), ("_id", .int32 2), ("k", .int32 1)], [("_id", .int32 3)],
    [("_id", .int32 4), ("k", .int32 1)]], 0⟩

/-- Of three matches two are modified, by an update and by a replacement: not the second one, which
keeps its order.  An update of the first match tells a modification, because of the NaN. -/
theorem acknowledged_nearlyWritten :
    let gen : Nat → ObjectId := fun _ => ⟨0⟩
    let filter : Document := [("k", .int32 1)]
    let fields : Document := [("a", .int32 7)]
    let r : Document := [("a", .int32 7), ("k", .int32 1)]
    let updated : Collection := { nearlyWritten with
      documents := nearlyWritten.documents.set 3
        [("_id", .int32 4), ("k", .int32 1), ("a", .int32 7)] }
    let first : Collection := { nearlyWritten with
      documents := nearlyWritten.documents.set 0
        [("_id", .int32 1), ("a", .int32 7), ("k", .int32 1)] }
    let replaced : Collection := { nearlyWritten with
      documents := first.documents.set 3 [("_id", .int32 4), ("a", .int32 7), ("k", .int32 1)] }
    (answer gen (.updateOne filter [("$set", .document fields)]) nearlyWritten =
        (.ok ⟨1, 1⟩, nearlyWritten) ∧
      Acknowledged .first filter (Document.Sets fields) nearlyWritten ⟨1, 1⟩ nearlyWritten) ∧
    (answer gen (.updateMany filter [("$set", .document fields)]) nearlyWritten =
        (.ok ⟨3, 2⟩, updated) ∧
      Acknowledged .all filter (Document.Sets fields) nearlyWritten ⟨3, 2⟩ updated) ∧
    (answer gen (.replaceOne filter r) nearlyWritten = (.ok ⟨1, 1⟩, first) ∧
      Acknowledged .first filter (Document.Replaces r) nearlyWritten ⟨1, 1⟩ first) ∧
    (answer gen (.replaceMany filter r) nearlyWritten = (.ok ⟨3, 2⟩, replaced) ∧
      Acknowledged .all filter (Document.Replaces r) nearlyWritten ⟨3, 2⟩ replaced) := by
  intro gen filter fields r updated first replaced
  have hone : answer gen (.updateOne filter [("$set", .document fields)]) nearlyWritten =
      (.ok ⟨1, 1⟩, nearlyWritten) := rfl
  have hmany : answer gen (.updateMany filter [("$set", .document fields)]) nearlyWritten =
      (.ok ⟨3, 2⟩, updated) := rfl
  have hfirst : answer gen (.replaceOne filter r) nearlyWritten = (.ok ⟨1, 1⟩, first) := rfl
  have hall : answer gen (.replaceMany filter r) nearlyWritten = (.ok ⟨3, 2⟩, replaced) := rfl
  refine ⟨⟨hone, ?_⟩, ⟨hmany, ?_⟩, ⟨hfirst, ?_⟩, hall, ?_⟩
  · obtain ⟨hupdates, -⟩ := acknowledged_answer gen filter nearlyWritten nearlyWritten ⟨1, 1⟩
    obtain ⟨-, fields', hfields, hack⟩ := (hupdates _).1.mp hone
    cases hfields
    exact hack
  · obtain ⟨hupdates, -⟩ := acknowledged_answer gen filter nearlyWritten updated ⟨3, 2⟩
    obtain ⟨-, fields', hfields, hack⟩ := (hupdates _).2.mp hmany
    cases hfields
    exact hack
  · obtain ⟨-, hreplacements⟩ := acknowledged_answer gen filter nearlyWritten first ⟨1, 1⟩
    exact ((hreplacements r).1.mp hfirst).2.2
  · obtain ⟨-, hreplacements⟩ := acknowledged_answer gen filter nearlyWritten replaced ⟨3, 2⟩
    exact ((hreplacements r).2.mp hall).2.2

end Collection
end DocLoad
