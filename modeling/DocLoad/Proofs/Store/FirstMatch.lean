import DocLoad.Proofs.Store.Failure
import DocLoad.Proofs.Store.Identifiers

/-!
# DocLoad.Proofs.Store.FirstMatch — work on the first match and work on every match

An update, a replacement or a deletion goes to the first match or to every match.  The first form is
the second one cut short (`CutToFirst`): it does with the first match what the second form does with
it when it is the only document, and leaves everything else alone.  Where at most one document
matches, both forms are the same.

* `changeWhere_append_of_none` — work goes past documents that do not match.
* `changeWhere_cons_first` and `changeWhere_cons_of_none` are the step at a match, when the work
  ends there and when no other match follows.
* `one_cuts_many` puts the calls together.
-/

namespace DocLoad.Collection

/-! ## Documents -/

section

variable {reach : Reach} {hits : Document → Bool} {change : Document → Except StoreError Document}
  {d : Document} {before after ds : List Document}

/-- Work goes past documents that do not match. -/
theorem changeWhere_append_of_none (h : ∀ b ∈ before, ¬ hits b = true) :
    changeWhere reach hits change (before ++ ds) =
      ((changeWhere reach hits change ds).1, before ++ (changeWhere reach hits change ds).2) := by
  induction before with
  | nil => rfl
  | cons b before ih =>
    rw [List.forall_mem_cons, Bool.not_eq_true] at h
    rw [List.cons_append, changeWhere_miss h.1, ih h.2]
    rfl

/-- Where nothing matches, work counts nothing and changes nothing. -/
theorem changeWhere_of_none (h : ∀ d ∈ ds, ¬ hits d = true) :
    changeWhere reach hits change ds = (.ok ⟨0, 0⟩, ds) := by
  have hpast : changeWhere reach hits change (ds ++ []) = (.ok ⟨0, 0⟩, ds ++ []) :=
    changeWhere_append_of_none h
  rwa [List.append_nil] at hpast

/-- A document that is alone is still alone after the work. -/
theorem exists_changeWhere_singleton :
    ∃ reply d', changeWhere reach hits change [d] = (reply, [d']) := by
  cases hd : hits d with
  | false => exact ⟨_, d, changeWhere_miss hd⟩
  | true =>
    cases hnew : change d with
    | error e => exact ⟨_, d, changeWhere_fail hd hnew⟩
    | ok new =>
      cases reach with
      | first => exact ⟨_, _, changeWhere_first hd hnew⟩
      | all => exact ⟨_, _, changeWhere_all hd hnew⟩

/-- Work that ends at the first match does with it what work on every match does with it alone. -/
theorem changeWhere_cons_first (hd : hits d = true) :
    changeWhere .first hits change (d :: ds) =
      ((changeWhere .all hits change [d]).1, (changeWhere .all hits change [d]).2 ++ ds) := by
  cases hnew : change d with
  | error e =>
    rw [changeWhere_fail hd hnew, changeWhere_fail hd hnew]
    rfl
  | ok new =>
    rw [changeWhere_first hd hnew, changeWhere_all hd hnew]
    simp only [changeWhere, Except.map, Nat.zero_add, List.cons_append, List.nil_append]

/-- The document at the position of the first match becomes what it becomes alone. -/
theorem changeWhere_first_of_findIdx? (change : Document → Except StoreError Document) {i : Nat}
    (h : ds.findIdx? hits = some i) (hi : i < ds.length) :
    ∃ reply d', changeWhere .all hits change [ds[i]] = (reply, [d']) ∧
      changeWhere .first hits change ds = (reply, ds.set i d') := by
  obtain ⟨_, hhit, hbefore⟩ := List.findIdx?_eq_some_iff_getElem.mp h
  have hmiss : ∀ b ∈ ds.take i, ¬ hits b = true := by
    intro b hb
    obtain ⟨j, hj, rfl⟩ := List.mem_take_iff_getElem.mp hb
    exact hbefore j (lt_of_lt_of_le hj (Nat.min_le_left _ _))
  obtain ⟨reply, d', halone⟩ :
      ∃ reply d', changeWhere .all hits change [ds[i]] = (reply, [d']) :=
    exists_changeWhere_singleton
  refine ⟨reply, d', halone, ?_⟩
  rw [List.set_eq_take_append_cons_drop, if_pos hi]
  nth_rewrite 1 [← List.take_append_drop i ds]
  rw [← List.getElem_cons_drop hi, changeWhere_append_of_none hmiss, changeWhere_cons_first hhit,
    halone]
  rfl

/-- So does work on every match, when no match follows. -/
theorem changeWhere_cons_of_none (hd : hits d = true) (h : ∀ a ∈ after, ¬ hits a = true) :
    changeWhere .all hits change (d :: after) =
      ((changeWhere .all hits change [d]).1, (changeWhere .all hits change [d]).2 ++ after) := by
  cases hnew : change d with
  | error e =>
    rw [changeWhere_fail hd hnew, changeWhere_fail hd hnew]
    rfl
  | ok new =>
    rw [changeWhere_all hd hnew, changeWhere_all hd hnew, changeWhere_of_none h]
    rfl

/-- Where at most one document matches, it makes no difference how far the work goes. -/
theorem changeWhere_first_eq_all (h : ds.countP hits ≤ 1) :
    changeWhere .first hits change ds = changeWhere .all hits change ds := by
  rw [List.countP_eq_length_filter] at h
  rcases hfound : ds.filter hits with - | ⟨d, found⟩
  · have hnone := List.filter_eq_nil_iff.mp hfound
    rw [changeWhere_of_none hnone, changeWhere_of_none hnone]
  · -- what stands before and behind the only match does not match
    obtain ⟨before, after, rfl, hbefore, hd, hafter⟩ := List.filter_eq_cons_iff.mp hfound
    rw [hfound, List.length_cons] at h
    obtain rfl : found = [] := List.eq_nil_of_length_eq_zero (by omega)
    rw [changeWhere_append_of_none hbefore, changeWhere_append_of_none hbefore,
      changeWhere_cons_first hd, changeWhere_cons_of_none hd (List.filter_eq_nil_iff.mp hafter)]

/-- Where at most one document matches, taking out the first match leaves what does not match. -/
theorem remaining_first_eq_all (h : ds.countP hits ≤ 1) :
    remaining .first hits ds = remaining .all hits ds := by
  induction ds with
  | nil => rfl
  | cons d ds ih =>
    simp only [remaining] at ih ⊢
    cases hd : hits d with
    | false =>
      rw [List.countP_cons_of_neg (by simp [hd])] at h
      rw [List.eraseP_cons_of_neg (by simp [hd]), ih h, List.filter_cons_of_pos (by simp [hd])]
    | true =>
      -- no other match follows, so all that follows is left
      rw [List.countP_cons_of_pos hd] at h
      have hnone := List.countP_eq_zero.mp (show ds.countP hits = 0 by omega)
      have hrest : (ds.filter fun a => !hits a) = ds := by
        rw [List.filter_eq_self]
        intro a ha
        simpa using hnone a ha
      rw [List.eraseP_cons_of_pos hd, List.filter_cons_of_neg (by simp [hd]), hrest]

end

/-! ## Calls -/

/-- Of two kinds of work for one filter, the one that ends at the first match is the one that goes
to every match, cut short. -/
structure CutToFirst {ρ : Type} (filter : Document)
    (one many : Collection → Except StoreError ρ × Collection) (c : Collection) : Prop where
  /-- Without a match both give the same answer, and change nothing. -/
  none (h : c.documents.findIdx? filter.satisfies = none) :
    ∃ reply, one c = (reply, c) ∧ many c = (reply, c)
  /-- Otherwise the answer is the one for the first match alone, and what becomes of it there takes
  its place. -/
  first (i : Nat) (d : Document) (h : c.documents.findIdx? filter.satisfies = some i)
    (hd : c.documents[i]? = some d) :
    ∃ reply d', many (c.alone d) = (reply, c.alone d') ∧
      one c = (reply, { c with documents := c.documents.set i d' })
  /-- Where at most one document matches, both do the same. -/
  atMostOne (h : c.documents.countP filter.satisfies ≤ 1) : one c = many c

section

variable (filter : Document)
  (accepted : Except StoreError (Document → Except StoreError Document)) (c : Collection)

/-- The change of the first match is the change of every match, cut short. -/
theorem cutToFirst_modify :
    CutToFirst filter (modify .first filter accepted) (modify .all filter accepted) c := by
  cases haccepted : (do filter.checkFilter; accepted) with
  | error e =>
    -- what is refused is refused in both forms, and for any collection
    have hrefused : ∀ reach c', modify reach filter accepted c' = (.error e, c') := by
      intro reach c'
      simp only [modify, haccepted]
    constructor
    · intro _
      exact ⟨_, hrefused .first c, hrefused .all c⟩
    · intro i d _ hd
      refine ⟨_, d, hrefused .all _, ?_⟩
      obtain ⟨hi, rfl⟩ := List.getElem?_eq_some_iff.mp hd
      rw [hrefused .first c, List.set_getElem_self]
    · intro _
      exact (hrefused .first c).trans (hrefused .all c).symm
  | ok change =>
    have hmodify : ∀ reach c', modify reach filter accepted c' =
        ((changeWhere reach filter.satisfies change c'.documents).1,
          { c' with documents := (changeWhere reach filter.satisfies change c'.documents).2 }) := by
      intro reach c'
      simp only [modify, haccepted]
    constructor
    · intro h
      have hnone : ∀ d ∈ c.documents, ¬ filter.satisfies d = true := by
        intro d hd
        rw [Bool.not_eq_true]
        exact List.findIdx?_eq_none_iff.mp h d hd
      refine ⟨.ok ⟨0, 0⟩, ?_, ?_⟩
      · rw [hmodify, changeWhere_of_none hnone]
      · rw [hmodify, changeWhere_of_none hnone]
    · intro i d h hd
      obtain ⟨hi, rfl⟩ := List.getElem?_eq_some_iff.mp hd
      obtain ⟨reply, d', halone, hfirst⟩ := changeWhere_first_of_findIdx? change h hi
      refine ⟨reply, d', ?_, ?_⟩
      · rw [hmodify]
        simp only [alone, halone]
      · rw [hmodify, hfirst]
    · intro h
      rw [hmodify, hmodify, changeWhere_first_eq_all h]

/-- Where at most one document matches, both forms of a deletion are the same. -/
theorem delete_first_eq_all (h : c.documents.countP filter.satisfies ≤ 1) :
    c.delete .first filter = c.delete .all filter := by
  cases hfilter : filter.checkFilter with
  | error e => simp only [delete, hfilter]
  | ok _ => rw [delete_eq_remaining hfilter, delete_eq_remaining hfilter, remaining_first_eq_all h]

end

/-- The calls for one document are those for many, cut to the first match, and where at most one
document matches they are the same. -/
theorem one_cuts_many (gen : Nat → ObjectId) (filter : Document) (c : Collection) :
    (∀ u, CutToFirst filter (answer gen (.updateOne filter u)) (answer gen (.updateMany filter u))
      c) ∧
    (∀ r, CutToFirst filter (answer gen (.replaceOne filter r))
      (answer gen (.replaceMany filter r)) c) ∧
    (c.documents.countP filter.satisfies ≤ 1 →
      answer gen (.deleteOne filter) c = answer gen (.deleteMany filter) c) := by
  refine ⟨?_, ?_, ?_⟩
  · intro u
    exact cutToFirst_modify filter (u.setFields.map Document.update) c
  · intro r
    exact cutToFirst_modify filter (r.checkReplacement.map fun _ => Document.replace r) c
  · intro h
    exact delete_first_eq_all filter c h

/-- Three documents, of which the last two have `k=1` and the second has a number under `a`. -/
def lastTwoMatch : Collection :=
  ⟨"c", [[("_id", .int32 1)], [("_id", .int32 2), ("k", .int64 1), ("a", .int32 5)],
    [("_id", .int32 3), ("k", .int32 1)]], 0⟩

/-- A replacement of the first match is written in its place, an update below the number fails as it
does for that document alone, and a deletion by identifier takes out the same document in both
forms. -/
theorem one_cuts_many_lastTwoMatch :
    let gen : Nat → ObjectId := fun _ => ⟨0⟩
    let filter : Document := [("k", .int32 1)]
    let u : Document := [("$set", .document [("a.b", .int32 7)])]
    let r : Document := [("x", .string "y")]
    let d : Document := [("_id", .int32 2), ("k", .int64 1), ("a", .int32 5)]
    let d' : Document := [("_id", .int32 2), ("x", .string "y")]
    let e := StoreError.notNested "b" "a" "a.b"
    let byId : Document := [("_id", .int32 2)]
    (lastTwoMatch.documents.findIdx? filter.satisfies = some 1 ∧
      lastTwoMatch.documents[1]? = some d) ∧
    (answer gen (.replaceMany filter r) (lastTwoMatch.alone d) =
        (.ok ⟨1, 1⟩, lastTwoMatch.alone d') ∧
      answer gen (.replaceOne filter r) lastTwoMatch =
        (.ok ⟨1, 1⟩, { lastTwoMatch with documents := lastTwoMatch.documents.set 1 d' })) ∧
    (answer gen (.updateMany filter u) (lastTwoMatch.alone d) = (.error e, lastTwoMatch.alone d) ∧
      answer gen (.updateOne filter u) lastTwoMatch = (.error e, lastTwoMatch)) ∧
    lastTwoMatch.documents.countP byId.satisfies ≤ 1 ∧
    answer gen (.deleteOne byId) lastTwoMatch = answer gen (.deleteMany byId) lastTwoMatch := by
  intro gen filter u r d d' e byId
  have hfirst : lastTwoMatch.documents.findIdx? filter.satisfies = some 1 := by decide +kernel
  have hd : lastTwoMatch.documents[1]? = some d := rfl
  have hone : lastTwoMatch.documents.countP byId.satisfies ≤ 1 := by decide +kernel
  have hreplace : answer gen (.replaceMany filter r) (lastTwoMatch.alone d) =
      (.ok ⟨1, 1⟩, lastTwoMatch.alone d') := rfl
  have hupdate : answer gen (.updateMany filter u) (lastTwoMatch.alone d) =
      (.error e, lastTwoMatch.alone d) := rfl
  obtain ⟨hupdates, hreplacements, -⟩ := one_cuts_many gen filter lastTwoMatch
  obtain ⟨-, -, hdeletions⟩ := one_cuts_many gen byId lastTwoMatch
  refine ⟨⟨hfirst, hd⟩, ⟨hreplace, ?_⟩, ⟨hupdate, ?_⟩, hone, hdeletions hone⟩
  · obtain ⟨reply, new, halone, hanswer⟩ := (hreplacements r).first 1 d hfirst hd
    rw [hreplace] at halone
    cases halone
    exact hanswer
  · obtain ⟨reply, new, halone, hanswer⟩ := (hupdates u).first 1 d hfirst hd
    rw [hupdate] at halone
    cases halone
    exact hanswer

end DocLoad.Collection
