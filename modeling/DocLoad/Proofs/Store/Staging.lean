import DocLoad.Proofs.Except
import DocLoad.Store.Collection

/-!
# DocLoad.Proofs.Store.Staging — a batch is its documents one after another

An insertion gets its documents ready first and stores them together at the end, so it compares
each of them with the stored documents and, apart from these, with those that are ready.  Storing
each document at once would come to the same: to be ready behind other documents is to be ready in a
collection that holds them already.

* `stage_append` says this of one document and `foldlM_stage_append` of all of them.
* `insertNext_eq` and `insertAll_cons` are what follows for insertions: one document is put behind
  the others (`push`) if its identifier is free, and a batch is its first document and then the
  others.
* `insertMany_eq_insertEach` compares a batch with single insertions, one for each document.
-/

namespace DocLoad

/-- How many documents have no identifier. -/
def missingIds (ds : List Document) : Nat :=
  ds.countP fun d => d.id?.isNone

namespace Collection

variable {gen : Nat → ObjectId} {c c' : Collection} {d : Document} {ds : List Document}

/-! ## What is ready -/

/-- Documents that are ready, and others behind them. -/
def Staged.append (s t : Staged) : Staged :=
  ⟨s.ids ++ t.ids, s.documents ++ t.documents, t.drawn⟩

/-- Storing what is ready behind other documents is storing these first. -/
theorem commit_append (c : Collection) (s t : Staged) :
    c.commit (s.append t) = (c.commit s).commit t := by
  simp only [commit, Staged.append, List.append_assoc]

/-- A document is ready behind others exactly if it is ready where these are stored. -/
theorem stage_append (s t : Staged) (d : Document) :
    c.stage gen (s.append t) d = ((c.commit s).stage gen t d).map s.append := by
  simp only [stage, commit, Staged.append, List.append_assoc]
  split <;> rfl

/-- The same of several documents, each of which is ready behind those before it. -/
theorem foldlM_stage_append (s t : Staged) (ds : List Document) :
    ds.foldlM (c.stage gen) (s.append t) =
      (ds.foldlM ((c.commit s).stage gen) t).map s.append := by
  induction ds generalizing t with
  | nil => rfl
  | cons d ds ih =>
    rw [List.foldlM_cons, List.foldlM_cons, stage_append]
    cases (c.commit s).stage gen t d with
    | error e => rfl
    | ok t₁ => exact ih t₁

/-- Whatever is ready is ready behind nothing else. -/
theorem append_unstaged (s : Staged) : s.append (c.commit s).unstaged = s := by
  simp only [Staged.append, unstaged, commit, List.append_nil]

/-! ## Insertions -/

/-- Whether a stored document has the identifier. -/
def holdsId (c : Collection) (id : Bson) : Bool :=
  idTaken c.documents id

/-- A single insertion gets one document ready and stores it. -/
theorem insertNext_eq_stage (gen : Nat → ObjectId) (c : Collection) (d : Document) :
    c.insertNext gen d =
      (c.stage gen c.unstaged d).map fun s => ((withId (gen c.drawn) d).1, c.commit s) := by
  have hfirst : c.insertNext? gen d =
      some ((c.stage gen c.unstaged d).map fun s => ((withId (gen c.drawn) d).1, c.commit s)) := by
    rw [insertNext?, insertAll_singleton]
    cases hstage : c.stage gen c.unstaged d with
    | error e => rfl
    | ok s =>
      have hids : s.ids = [(withId (gen c.drawn) d).1] := ids_of_stage hstage
      simp only [Except.map, hids, List.head?_cons, Option.map_some]
  simp only [insertNext, hfirst, Option.get_some]

/-- The collection with one more document, whether or not there is place for its identifier. -/
def push (gen : Nat → ObjectId) (c : Collection) (d : Document) : Collection :=
  { c with
    documents := c.documents ++ [(withId (gen c.drawn) d).2]
    drawn := c.drawn + missingIds [d] }

/-- What the insertion of one document does: it appends the document under its identifier, if that
one is free. -/
theorem insertNext_eq (gen : Nat → ObjectId) (c : Collection) (d : Document) :
    c.insertNext gen d =
      if c.holdsId (withId (gen c.drawn) d).1 then
        .error (.duplicateId c.name (withId (gen c.drawn) d).1)
      else .ok ((withId (gen c.drawn) d).1, c.push gen d) := by
  have hdrawn : (if d.id?.isSome then c.drawn else c.drawn + 1) = c.drawn + missingIds [d] := by
    cases h : d.id? <;> simp [missingIds, h]
  have htaken : idTaken (c.documents ++ c.unstaged.documents) (withId (gen c.unstaged.drawn) d).1 =
      c.holdsId (withId (gen c.drawn) d).1 := by
    rw [holdsId, unstaged, List.append_nil]
  rw [insertNext_eq_stage]
  simp only [stage, htaken]
  by_cases hheld : c.holdsId (withId (gen c.drawn) d).1 = true
  · rw [if_pos hheld, if_pos hheld]
    rfl
  · rw [if_neg hheld, if_neg hheld, push, ← hdrawn]
    rfl

/-- One insertion succeeds if the identifier is free, and puts the document behind the others. -/
theorem insertNext_eq_ok {id : Bson} :
    c.insertNext gen d = .ok (id, c') ↔
      c.holdsId id = false ∧ id = (withId (gen c.drawn) d).1 ∧ c' = c.push gen d := by
  rw [insertNext_eq]
  split
  · next hheld =>
    refine ⟨nofun, ?_⟩
    rintro ⟨hfree, rfl, -⟩
    rw [hheld] at hfree
    cases hfree
  · next hfree =>
    constructor
    · rintro ⟨⟩
      exact ⟨Bool.eq_false_iff.mpr hfree, rfl, rfl⟩
    · rintro ⟨-, rfl, rfl⟩
      rfl

/-- The only way for one insertion to fail is an identifier that is taken. -/
theorem insertNext_eq_error {e : StoreError} :
    c.insertNext gen d = .error e ↔
      c.holdsId (withId (gen c.drawn) d).1 = true ∧
        e = .duplicateId c.name (withId (gen c.drawn) d).1 := by
  rw [insertNext_eq]
  split
  · next hheld =>
    constructor
    · rintro ⟨⟩
      exact ⟨hheld, rfl⟩
    · rintro ⟨-, rfl⟩
      rfl
  · next hfree =>
    refine ⟨nofun, ?_⟩
    rintro ⟨hheld, -⟩
    exact absurd hheld hfree

theorem insertAll_nil (gen : Nat → ObjectId) (c : Collection) :
    c.insertAll gen [] = .ok ([], c) := by
  have hcommit : c.commit c.unstaged = c := by simp only [commit, unstaged, List.append_nil]
  show Except.ok (c.unstaged.ids, c.commit c.unstaged) = _
  rw [hcommit]
  rfl

/-- A batch is its first document and then the others. -/
theorem insertAll_cons (gen : Nat → ObjectId) (c : Collection) (d : Document)
    (ds : List Document) :
    c.insertAll gen (d :: ds) = do
      let (id, c) ← c.insertNext gen d
      let (ids, c) ← c.insertAll gen ds
      return (id :: ids, c) := by
  rw [insertAll, List.foldlM_cons, insertNext_eq_stage]
  cases hstage : c.stage gen c.unstaged d with
  | error e => rfl
  | ok s =>
    -- `s` is where the others start, which is the same as to start behind it
    have hrest : ds.foldlM (c.stage gen) (s.append (c.commit s).unstaged) = _ :=
      foldlM_stage_append s (c.commit s).unstaged ds
    rw [append_unstaged] at hrest
    show (ds.foldlM (c.stage gen) s >>= fun t => Except.ok (t.ids, c.commit t)) =
      ((c.commit s).insertAll gen ds >>= fun r =>
        Except.ok ((withId (gen c.drawn) d).1 :: r.1, r.2))
    rw [hrest, insertAll]
    cases hfold : ds.foldlM ((c.commit s).stage gen) (c.commit s).unstaged with
    | error e => rfl
    | ok t =>
      have hids : s.ids = [(withId (gen c.drawn) d).1] := ids_of_stage hstage
      show Except.ok ((s.append t).ids, c.commit (s.append t)) = _
      rw [commit_append]
      simp only [Staged.append, hids]
      rfl

/-! ## Calls -/

/-- Single insertions, one for each document, that all succeed and return these identifiers. -/
inductive InsertedEach (gen : Nat → ObjectId) :
    List Document → List Bson → Collection → Collection → Prop where
  | nil {c : Collection} : InsertedEach gen [] [] c c
  | cons {d : Document} {ds : List Document} {id : Bson} {ids : List Bson} {c c₁ c' : Collection}
      (hd : answer gen (.insertOne d) c = (.ok id, c₁)) (hds : InsertedEach gen ds ids c₁ c') :
      InsertedEach gen (d :: ds) (id :: ids) c c'

theorem answer_insertOne_eq_ok {id : Bson} :
    answer gen (.insertOne d) c = (.ok id, c') ↔ c.insertNext gen d = .ok (id, c') := by
  rw [answer]
  cases c.insertNext gen d with
  | error e => exact ⟨nofun, nofun⟩
  | ok r =>
    constructor
    · rintro ⟨⟩
      rfl
    · rintro ⟨⟩
      rfl

theorem answer_insertOne_eq_error {e : StoreError} :
    (answer gen (.insertOne d) c).1 = .error e ↔ c.insertNext gen d = .error e := by
  rw [answer]
  cases c.insertNext gen d with
  | error e' =>
    constructor
    · rintro ⟨⟩
      rfl
    · rintro ⟨⟩
      rfl
  | ok r => exact ⟨nofun, nofun⟩

/-- A batch goes through exactly if all single insertions do. -/
theorem insertAll_eq_ok {ids : List Bson} :
    c.insertAll gen ds = .ok (ids, c') ↔ InsertedEach gen ds ids c c' := by
  induction ds generalizing c ids with
  | nil =>
    rw [insertAll_nil]
    constructor
    · rintro ⟨⟩
      exact .nil
    · rintro ⟨⟩
      rfl
  | cons d ds ih =>
    rw [insertAll_cons]
    constructor
    · intro h
      obtain ⟨⟨id, c₁⟩, hd, h⟩ := Except.bind_eq_ok.mp h
      obtain ⟨⟨rest, c₂⟩, hds, h⟩ := Except.bind_eq_ok.mp h
      cases h
      exact .cons (answer_insertOne_eq_ok.mpr hd) (ih.mp hds)
    · rintro (_ | ⟨hd, hds⟩)
      exact Except.bind_eq_ok.mpr ⟨_, answer_insertOne_eq_ok.mp hd,
        Except.bind_eq_ok.mpr ⟨_, ih.mpr hds, rfl⟩⟩

/-- A batch fails like the first single insertion that fails. -/
theorem insertAll_eq_error_iff {e : StoreError} :
    c.insertAll gen ds = .error e ↔
      ∃ before d after ids c₁, ds = before ++ d :: after ∧ InsertedEach gen before ids c c₁ ∧
        (answer gen (.insertOne d) c₁).1 = .error e := by
  induction ds generalizing c with
  | nil =>
    rw [insertAll_nil]
    constructor
    · exact nofun
    · rintro ⟨before, d, after, ids, c₁, h, -⟩
      exact absurd h.symm (List.append_ne_nil_of_right_ne_nil _ (List.cons_ne_nil _ _))
  | cons d ds ih =>
    rw [insertAll_cons]
    constructor
    · intro h
      rcases Except.bind_eq_error.mp h with hd | ⟨⟨id, c₁⟩, hd, h⟩
      · -- the first document fails already
        exact ⟨[], d, ds, [], c, rfl, .nil, answer_insertOne_eq_error.mpr hd⟩
      · rcases Except.bind_eq_error.mp h with hds | ⟨_, _, h⟩
        · obtain ⟨before, d', after, ids, c₂, rfl, hbefore, hfail⟩ := ih.mp hds
          exact ⟨d :: before, d', after, id :: ids, c₂, rfl,
            .cons (answer_insertOne_eq_ok.mpr hd) hbefore, hfail⟩
        · cases h
    · rintro ⟨before, d', after, ids, c₁, h, hbefore, hfail⟩
      cases hbefore with
      | nil =>
        cases h
        exact Except.bind_eq_error.mpr (.inl (answer_insertOne_eq_error.mp hfail))
      | cons hd hbefore =>
        cases h
        refine Except.bind_eq_error.mpr (.inr ⟨_, answer_insertOne_eq_ok.mp hd, ?_⟩)
        exact Except.bind_eq_error.mpr (.inl (ih.mpr ⟨_, _, _, _, _, rfl, hbefore, hfail⟩))

theorem insert_eq_ok_iff {ids : List Bson} :
    c.insert gen ds = (.ok ids, c') ↔ c.insertAll gen ds = .ok (ids, c') := by
  rw [insert]
  cases c.insertAll gen ds with
  | error e => exact ⟨nofun, nofun⟩
  | ok r =>
    constructor
    · rintro ⟨⟩
      rfl
    · rintro ⟨⟩
      rfl

/-- A batch that fails leaves the collection as it was. -/
theorem insert_eq_error_iff {e : StoreError} :
    c.insert gen ds = (.error e, c') ↔ c' = c ∧ c.insertAll gen ds = .error e := by
  rw [insert]
  cases c.insertAll gen ds with
  | error e' =>
    constructor
    · rintro ⟨⟩
      exact ⟨rfl, rfl⟩
    · rintro ⟨rfl, ⟨⟩⟩
      rfl
  | ok r => exact ⟨nofun, nofun⟩

/-- A batch is its documents one after another, or nothing.  It succeeds exactly if single
insertions, one for each document, all succeed, and then it returns their identifiers and leaves the
collection that they leave.  If one of them fails, it fails with the error of the first one that
does, and leaves the collection as it was.  A single insertion, which is a batch of one, always
finds the identifier that it returns. -/
theorem insertMany_eq_insertEach (gen : Nat → ObjectId) (c : Collection) (ds : List Document)
    (hne : ds ≠ []) :
    (∀ (ids : List Bson) c', answer gen (.insertMany ds) c = (.ok ids, c') ↔
      InsertedEach gen ds ids c c') ∧
    (∀ e c', answer gen (.insertMany ds) c = (.error e, c') ↔
      c' = c ∧ ∃ before d after ids c₁, ds = before ++ d :: after ∧
        InsertedEach gen before ids c c₁ ∧ (answer gen (.insertOne d) c₁).1 = .error e) ∧
    ∀ d, (c.insertNext? gen d).isSome := by
  have hbatch : answer gen (.insertMany ds) c = c.insert gen ds := by
    rw [answer_insertMany, List.isEmpty_eq_false_iff.mpr hne]
    rfl
  refine ⟨?_, ?_, isSome_insertNext? gen c⟩
  · intro ids c'
    constructor
    · intro h
      exact insertAll_eq_ok.mp (insert_eq_ok_iff.mp (hbatch.symm.trans h))
    · intro h
      exact hbatch.trans (insert_eq_ok_iff.mpr (insertAll_eq_ok.mpr h))
  · intro e c'
    constructor
    · intro h
      obtain ⟨hc, hfail⟩ := insert_eq_error_iff.mp (hbatch.symm.trans h)
      exact ⟨hc, insertAll_eq_error_iff.mp hfail⟩
    · rintro ⟨hc, hfail⟩
      exact hbatch.trans (insert_eq_error_iff.mpr ⟨hc, insertAll_eq_error_iff.mpr hfail⟩)

/-- A batch of a document without identifier and one with; followed by a document that has the
identifier generated for the first, it is refused as a whole. -/
theorem insertMany_clashing :
    let gen : Nat → ObjectId := fun n => ⟨BitVec.ofNat 96 n⟩
    let batch : List Document := [[("x", .int32 1)], [("_id", .int32 2)]]
    let late : Document := [("_id", .objectId (gen 0))]
    let ids : List Bson := [.objectId (gen 0), .int32 2]
    let c : Collection := ⟨"c", [[("_id", .int32 1)]], 0⟩
    let c' : Collection := ⟨"c", [[("_id", .int32 1)],
      [("_id", .objectId (gen 0)), ("x", .int32 1)], [("_id", .int32 2)]], 1⟩
    let e := StoreError.duplicateId "c" (.objectId (gen 0))
    batch ≠ [] ∧ batch ++ [late] ≠ [] ∧
      answer gen (.insertMany batch) c = (.ok ids, c') ∧ InsertedEach gen batch ids c c' ∧
      (answer gen (.insertOne late) c').1 = .error e ∧
      answer gen (.insertMany (batch ++ [late])) c = (.error e, c) := by
  intro gen batch late ids c c' e
  have hne : batch ≠ [] := List.cons_ne_nil _ _
  have hne' : batch ++ [late] ≠ [] := List.cons_ne_nil _ _
  have hbatch : answer gen (.insertMany batch) c = (.ok ids, c') := rfl
  have heach : InsertedEach gen batch ids c c' :=
    ((insertMany_eq_insertEach gen c batch hne).1 ids c').mp hbatch
  have hlate : (answer gen (.insertOne late) c').1 = .error e := rfl
  have hfail := (insertMany_eq_insertEach gen c (batch ++ [late]) hne').2.1 e c
  exact ⟨hne, hne', hbatch, heach, hlate,
    hfail.mpr ⟨rfl, batch, late, [], ids, c', rfl, heach, hlate⟩⟩

end Collection
end DocLoad
