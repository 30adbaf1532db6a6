import DocLoad.Proofs.Store.Failure
import DocLoad.Proofs.Store.Setting

/-!
# DocLoad.Proofs.Store.Effect — what an update changes, and what it leaves alone

An update that succeeds rewrites the documents that it reaches, the first match or every match, and
leaves all others as they are.  `Covers` says which positions it reaches, without running it, and
`Leaves` what a change leaves of one document.

* `changeWhere_first_eq_ok` and `changeWhere_all_eq_ok` are the step: the first match, and what
  comes behind it.  `worked_changeWhere` is the run: what stands at each position afterwards.
* `update_effect` puts it together with what an update makes of one document (`Rewritten`): each
  value is found at its path, and nothing changes at paths that do not meet one of these.
-/

namespace DocLoad.Collection

/-! ## Positions -/

/-- Work reaches a position when a match stands there, and no match before it if the work ends at
the first one. -/
structure Covers (reach : Reach) (hits : Document → Bool) (ds : List Document) (i : Nat) :
    Prop where
  hit : ∃ d, ds[i]? = some d ∧ hits d = true
  first (h : reach = .first) (j : Nat) (hj : j < i) (e : Document) (he : ds[j]? = some e) :
    hits e = false

section

variable {reach : Reach} {hits : Document → Bool} {d : Document} {ds : List Document} {i : Nat}

theorem covers_zero : Covers reach hits (d :: ds) 0 ↔ hits d = true := by
  constructor
  · rintro ⟨⟨e, he, hhit⟩, -⟩
    cases he
    exact hhit
  · intro hhit
    refine ⟨⟨d, rfl, hhit⟩, ?_⟩
    intro _ j hj
    exact absurd hj (Nat.not_lt_zero j)

/-- Work reaches a later position when it does not end at the first document. -/
theorem covers_succ :
    Covers reach hits (d :: ds) (i + 1) ↔
      (reach = .first → hits d = false) ∧ Covers reach hits ds i := by
  constructor
  · rintro ⟨hhit, hfirst⟩
    refine ⟨fun h => hfirst h 0 (Nat.succ_pos i) d rfl, hhit, ?_⟩
    intro h j hj e he
    exact hfirst h (j + 1) (Nat.succ_lt_succ hj) e he
  · rintro ⟨hd, hhit, hfirst⟩
    refine ⟨hhit, ?_⟩
    intro h j hj e he
    -- the document before the position is the first one or stands behind it
    cases j with
    | zero =>
      cases he
      exact hd h
    | succ j => exact hfirst h j (Nat.lt_of_succ_lt_succ hj) e he

end

/-! ## All documents -/

/-- What work leaves of a match: the changed document, or the old one if the two are equal.  It
counts as modified in the first case. -/
def Leaves (change : Document → Except StoreError Document) (d kept : Document) (modified : Nat) :
    Prop :=
  ∃ new, change d = .ok new ∧ kept = (if new.same d then d else new) ∧
    modified = if new.same d then 0 else 1

section

variable {reach : Reach} {hits : Document → Bool} {change : Document → Except StoreError Document}
  {d kept : Document} {ds ds' : List Document} {counts : UpdateCounts} {modified : Nat}

/-- Work that ends at the first match leaves everything behind it alone. -/
theorem changeWhere_first_eq_ok (hd : hits d = true) :
    changeWhere .first hits change (d :: ds) = (.ok counts, ds') ↔
      ∃ kept modified, Leaves change d kept modified ∧ counts = ⟨1, modified⟩ ∧
        ds' = kept :: ds := by
  constructor
  · intro h
    cases hnew : change d with
    | error e =>
      rw [changeWhere_fail hd hnew] at h
      cases h
    | ok new =>
      rw [changeWhere_first hd hnew] at h
      obtain ⟨hcounts, rfl⟩ := Prod.mk.inj h
      exact ⟨_, _, ⟨new, hnew, rfl, rfl⟩, (Except.ok.inj hcounts).symm, rfl⟩
  · rintro ⟨kept, modified, ⟨new, hnew, rfl, rfl⟩, rfl, rfl⟩
    exact changeWhere_first hd hnew

/-- Work on every match goes on behind the first one, and adds the counts up. -/
theorem changeWhere_all_eq_ok (hd : hits d = true) :
    changeWhere .all hits change (d :: ds) = (.ok counts, ds') ↔
      ∃ kept modified rest ds₁, Leaves change d kept modified ∧
        changeWhere .all hits change ds = (.ok rest, ds₁) ∧
        counts = ⟨rest.matched + 1, rest.modified + modified⟩ ∧ ds' = kept :: ds₁ := by
  constructor
  · intro h
    cases hnew : change d with
    | error e =>
      rw [changeWhere_fail hd hnew] at h
      cases h
    | ok new =>
      rw [changeWhere_all hd hnew] at h
      obtain ⟨hcounts, rfl⟩ := Prod.mk.inj h
      obtain ⟨rest, hrest, rfl⟩ := Except.map_eq_ok.mp hcounts
      exact ⟨_, _, rest, _, ⟨new, hnew, rfl, rfl⟩, Prod.ext hrest rfl, rfl, rfl⟩
  · rintro ⟨kept, modified, rest, ds₁, ⟨new, hnew, rfl, rfl⟩, hrest, rfl, rfl⟩
    rw [changeWhere_all hd hnew, hrest]
    rfl

/-- What work that succeeds has made of the document at a position. -/
structure Worked (reach : Reach) (hits : Document → Bool)
    (change : Document → Except StoreError Document) (ds ds' : List Document) (i : Nat) : Prop where
  covered (d : Document) (hd : ds[i]? = some d) (hi : Covers reach hits ds i) :
    ∃ kept modified, Leaves change d kept modified ∧ ds'[i]? = some kept
  others (hi : ¬ Covers reach hits ds i) : ds'[i]? = ds[i]?

/-- The first document of a list that was worked on, when it is no match. -/
theorem Worked.zero_of_miss (hd : hits d = false) :
    Worked reach hits change (d :: ds) (d :: ds') 0 := by
  constructor
  · intro e he hi
    rw [covers_zero, hd] at hi
    cases hi
  · intro _
    rfl

/-- The first document of a list that was worked on, when it is a match. -/
theorem Worked.zero_of_hit (hd : hits d = true) (hleaves : Leaves change d kept modified) :
    Worked reach hits change (d :: ds) (kept :: ds') 0 := by
  constructor
  · intro e he hi
    cases he
    exact ⟨kept, modified, hleaves, rfl⟩
  · intro hi
    exact absurd (covers_zero.mpr hd) hi

/-- A later document, where the work goes on behind the first one. -/
theorem Worked.succ {i : Nat} (hgoes : reach = .first → hits d = false)
    (h : Worked reach hits change ds ds' i) :
    Worked reach hits change (d :: ds) (kept :: ds') (i + 1) := by
  constructor
  · intro f hf hi
    exact h.covered f hf (covers_succ.mp hi).2
  · intro hi
    exact h.others fun hds => hi (covers_succ.mpr ⟨hgoes, hds⟩)

/-- A later document, where the work has ended at the first one. -/
theorem Worked.succ_of_ended (hd : hits d = true) (i : Nat) :
    Worked .first hits change (d :: ds) (kept :: ds) (i + 1) := by
  have hends : ¬ Covers .first hits (d :: ds) (i + 1) := by
    intro hi
    have hmiss := (covers_succ.mp hi).1 rfl
    rw [hd] at hmiss
    cases hmiss
  constructor
  · intro f _ hi
    exact absurd hi hends
  · intro _
    rfl

/-- Work that succeeds has changed each document that it reaches, and no other. -/
theorem worked_changeWhere (h : changeWhere reach hits change ds = (.ok counts, ds')) (i : Nat) :
    Worked reach hits change ds ds' i := by
  induction ds generalizing i counts ds' with
  | nil =>
    cases h
    constructor
    · intro d hd
      cases hd
    · intro _
      rfl
  | cons d ds ih =>
    cases hd : hits d with
    | false =>
      -- no match: the work goes on behind it in any case
      rw [changeWhere_miss hd] at h
      obtain ⟨hrest, rfl⟩ := Prod.mk.inj h
      cases i with
      | zero => exact .zero_of_miss hd
      | succ i => exact (ih (Prod.ext hrest rfl) i).succ fun _ => hd
    | true =>
      cases reach with
      | first =>
        -- the work ends here, and no later position is reached
        obtain ⟨kept, modified, hleaves, -, rfl⟩ := (changeWhere_first_eq_ok hd).mp h
        cases i with
        | zero => exact .zero_of_hit hd hleaves
        | succ i => exact .succ_of_ended hd i
      | all =>
        obtain ⟨kept, modified, rest, ds₁, hleaves, hrest, -, rfl⟩ :=
          (changeWhere_all_eq_ok hd).mp h
        cases i with
        | zero => exact .zero_of_hit hd hleaves
        | succ i => exact (ih hrest i).succ nofun

end

/-! ## Updates -/

/-- The documents that an update reaches are rewritten, and all others are the old ones. -/
structure Updated (reach : Reach) (filter fields : Document) (c c' : Collection) : Prop where
  rewritten (i : Nat) (d : Document) (hd : c.documents[i]? = some d)
    (hi : Covers reach filter.satisfies c.documents i) :
    ∃ d', c'.documents[i]? = some d' ∧ Document.Rewritten fields d d'
  others (i : Nat) (hi : ¬ Covers reach filter.satisfies c.documents i) :
    c'.documents[i]? = c.documents[i]?

/-- An update that succeeds rewrites the documents that it reaches, and no others. -/
theorem updated_of_update {reach : Reach} {filter fields : Document} {c c' : Collection}
    {counts : UpdateCounts} (hapart : Document.PathsApart fields)
    (h : c.update reach filter [("$set", .document fields)] = (.ok counts, c')) :
    Updated reach filter fields c c' := by
  obtain ⟨change, -, haccepted, hwork, -⟩ := modify_eq_ok.mp h
  obtain rfl : Document.update fields = change := Except.ok.inj haccepted
  have hworked := worked_changeWhere hwork
  constructor
  · intro i d hd hi
    obtain ⟨kept, modified, ⟨new, hnew, rfl, -⟩, hkept⟩ := (hworked i).covered d hd hi
    exact ⟨_, hkept, Document.rewritten_of_update hapart hnew⟩
  · intro i hi
    exact (hworked i).others hi

/-- What an update that succeeds does.  In the first match, or in every match, it sets the fields,
leaves what is found at other paths, and keeps the keys in their order; every other document stays
as it is. -/
theorem update_effect (gen : Nat → ObjectId) (filter fields : Document) (c c' : Collection)
    (counts : UpdateCounts) (hapart : Document.PathsApart fields) :
    (answer gen (.updateOne filter [("$set", .document fields)]) c = (.ok counts, c') →
      Updated .first filter fields c c') ∧
    (answer gen (.updateMany filter [("$set", .document fields)]) c = (.ok counts, c') →
      Updated .all filter fields c c') := by
  constructor
  · intro h
    exact updated_of_update hapart h
  · intro h
    exact updated_of_update hapart h

/-- Two documents with `k=1`, one of them with nested fields, and a document without `k`. -/
def nestedAndFlat : Collection :=
  ⟨"c", [[("_id", .int32 1), ("k", .int32 1),
      ("a", .document [("x", .int32 5), ("b", .int32 1)])],
    [("_id", .int32 2)], [("_id", .int32 3), ("k", .int64 1)]], 0⟩

/-- The first of these documents after an update at a dotted path and at one that ends with a
dot. -/
def nestedRewritten : Document :=
  [("_id", .int32 1), ("k", .int32 1), ("a", .document [("x", .int32 5), ("b", .int32 7)]),
    ("c", .document [("", .string "x")])]

/-- The update of the first match, and the update of both. -/
theorem update_effect_nestedAndFlat :
    let filter : Document := [("k", .int32 1)]
    let fields : Document := [("a.b", .int32 7), ("c.", .string "x")]
    let one : Collection :=
      ⟨"c", [nestedRewritten, [("_id", .int32 2)], [("_id", .int32 3), ("k", .int64 1)]], 0⟩
    let both : Collection :=
      ⟨"c", [nestedRewritten, [("_id", .int32 2)],
        [("_id", .int32 3), ("k", .int64 1), ("a", .document [("b", .int32 7)]),
          ("c", .document [("", .string "x")])]], 0⟩
    Document.PathsApart fields ∧
      (answer (fun _ => ⟨0⟩) (.updateOne filter [("$set", .document fields)]) nestedAndFlat =
          (.ok ⟨1, 1⟩, one) ∧
        Updated .first filter fields nestedAndFlat one) ∧
      answer (fun _ => ⟨0⟩) (.updateMany filter [("$set", .document fields)]) nestedAndFlat =
          (.ok ⟨2, 2⟩, both) ∧
        Updated .all filter fields nestedAndFlat both := by
  intro filter fields one both
  have hapart : Document.PathsApart fields := by decide +kernel
  have hone : answer (fun _ => ⟨0⟩) (.updateOne filter [("$set", .document fields)])
      nestedAndFlat = (.ok ⟨1, 1⟩, one) := rfl
  have hboth : answer (fun _ => ⟨0⟩) (.updateMany filter [("$set", .document fields)])
      nestedAndFlat = (.ok ⟨2, 2⟩, both) := rfl
  have heffect := update_effect (fun _ => ⟨0⟩) filter fields nestedAndFlat
  exact ⟨hapart, ⟨hone, (heffect one ⟨1, 1⟩ hapart).1 hone⟩,
    hboth, (heffect both ⟨2, 2⟩ hapart).2 hboth⟩

end DocLoad.Collection
