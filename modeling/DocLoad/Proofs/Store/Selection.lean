import DocLoad.Proofs.Store.Accounting
import DocLoad.Proofs.Store.Matching

/-!
# DocLoad.Proofs.Store.Selection — reads, counts and deletions select the same documents

Five calls take a filter only: a count, two searches and two deletions.  They go through the
documents in five ways, but they refuse the same filters, and for any other filter they speak of the
same documents in the same order (`Agreement`): what is counted is what is found, the first one
found is the one that a single deletion takes out, and a deletion of all takes out what is found and
leaves the rest in order.

* `delete_first_of_split` and `delete_all_eq` say what the two deletions do.
* `after_deleteOne` is an induction over the matches: single deletions, one for each match, come to
  the same as a deletion of all.
* `after_deleteMany_comm` — two deletions of all can be made in either order.
* `selection_agrees` puts these together.
-/

namespace DocLoad.Collection

variable {gen : Nat → ObjectId} {filter : Document} {c : Collection}

/-! ## One deletion -/

section

variable (hfilter : filter.checkFilter = .ok ())
include hfilter

/-- A single deletion takes out the first match and leaves what stands before and behind it. -/
theorem delete_first_of_split {before after : List Document} {d : Document}
    (hc : c.documents = before ++ d :: after) (hbefore : ∀ b ∈ before, ¬ filter.satisfies b = true)
    (hd : filter.satisfies d = true) :
    c.delete .first filter = (.ok 1, { c with documents := before ++ after }) := by
  have hremaining : remaining .first filter.satisfies c.documents = before ++ after := by
    rw [remaining, hc, List.eraseP_append_right _ hbefore, List.eraseP_cons_of_pos hd]
  have hone : c.documents.length - (before ++ after).length = 1 := by
    rw [hc]
    simp only [List.length_append, List.length_cons]
    omega
  rw [delete_eq_remaining hfilter, hremaining, hone]

/-- Where nothing matches, a single deletion takes out nothing. -/
theorem delete_first_of_none (hnone : c.documents.filter filter.satisfies = []) :
    c.delete .first filter = (.ok 0, c) := by
  have hremaining : remaining .first filter.satisfies c.documents = c.documents :=
    List.eraseP_of_forall_not (List.filter_eq_nil_iff.mp hnone)
  rw [delete_eq_remaining hfilter, hremaining, Nat.sub_self]

/-- A deletion of all takes out what matches and tells how many these were. -/
theorem delete_all_eq (c : Collection) :
    c.delete .all filter =
      (.ok (c.documents.filter filter.satisfies).length,
        { c with documents := c.documents.filter fun d => !filter.satisfies d }) := by
  have hcount := List.length_eq_length_filter_add (l := c.documents) filter.satisfies
  rw [delete_eq_remaining hfilter]
  simp only [remaining]
  rw [hcount, Nat.add_sub_cancel_right]

/-! ## Several deletions -/

/-- Single deletions, as many as there are matches, leave what a deletion of all leaves. -/
theorem after_deleteOne (gen : Nat → ObjectId) (c : Collection) :
    c.after (List.replicate (c.documents.filter filter.satisfies).length
        (gen, .deleteOne filter)) =
      { c with documents := c.documents.filter fun d => !filter.satisfies d } := by
  generalize hfound : c.documents.filter filter.satisfies = found
  induction found generalizing c with
  | nil =>
    -- nothing matches, so a deletion of all takes out nothing either
    have hall : ∀ d ∈ c.documents, (!filter.satisfies d) = true := by
      intro d hd
      have hmiss := List.filter_eq_nil_iff.mp hfound d hd
      rw [Bool.not_eq_true] at hmiss
      rw [hmiss]
      rfl
    rw [List.filter_eq_self.mpr hall]
    rfl
  | cons d found ih =>
    -- the first deletion takes out `d`, and the others find what is left of `found`
    obtain ⟨before, after, hc, hbefore, hd, hafter⟩ := List.filter_eq_cons_iff.mp hfound
    have hstep : (answer gen (.deleteOne filter) c).2 = { c with documents := before ++ after } :=
      congrArg Prod.snd (delete_first_of_split hfilter hc hbefore hd)
    have hrest : (before ++ after).filter filter.satisfies = found := by
      rw [List.filter_append, List.filter_eq_nil_iff.mpr hbefore, hafter, List.nil_append]
    have hlast := ih { c with documents := before ++ after } hrest
    rw [List.length_cons, List.replicate_succ, Collection.after, List.foldl_cons, hstep]
    rw [Collection.after] at hlast
    rw [hlast, hc]
    simp only [List.filter_append, List.filter_cons, hd, Bool.not_true, Bool.false_eq_true,
      if_false]

end

/-- A deletion of all keeps the documents that do not match, or all if the filter is refused. -/
def Spares (filter d : Document) : Bool :=
  match filter.checkFilter with
  | .ok () => !filter.satisfies d
  | .error _ => true

/-- A deletion of all leaves what its filter spares. -/
theorem answer_deleteMany_snd (gen : Nat → ObjectId) (filter : Document) (c : Collection) :
    (answer gen (.deleteMany filter) c).2 =
      { c with documents := c.documents.filter (Spares filter) } := by
  show (c.delete .all filter).2 = _
  cases hfilter : filter.checkFilter with
  | error e =>
    have hall : c.documents.filter (Spares filter) = c.documents :=
      List.filter_eq_self.mpr fun d _ => by rw [Spares, hfilter]
    rw [hall]
    simp only [delete, hfilter]
  | ok _ =>
    have hspares : Spares filter = fun d => !filter.satisfies d := by
      funext d
      rw [Spares, hfilter]
    rw [delete_all_eq hfilter, hspares]

/-! ## What deletions report -/

/-- Calls that all delete. -/
def Deletions (calls : List ((Nat → ObjectId) × Call)) : Prop :=
  ∀ step ∈ calls, ∃ filter, step.2 = .deleteOne filter ∨ step.2 = .deleteMany filter

theorem insertedIn_deletions {calls : List ((Nat → ObjectId) × Call)} (h : Deletions calls)
    (c : Collection) : insertedIn (c.answers calls) = 0 := by
  induction calls generalizing c with
  | nil => rfl
  | cons step calls ih =>
    obtain ⟨gen, call⟩ := step
    rw [Deletions, List.forall_mem_cons] at h
    obtain ⟨⟨filter, hcall⟩, hrest⟩ := h
    rw [answers, insertedIn, ih hrest]
    rcases hcall with hcall | hcall
    · cases hcall
      rfl
    · cases hcall
      rfl

/-- Over deletions, what is no longer there was reported as deleted. -/
theorem deletedIn_deletions {calls : List ((Nat → ObjectId) × Call)} (h : Deletions calls)
    (c : Collection) :
    (c.after calls).documents.length + deletedIn (c.answers calls) = c.documents.length := by
  have hlength := length_after c calls
  rw [insertedIn_deletions h, Nat.add_zero] at hlength
  exact hlength

/-- Single deletions, as many as there are matches, report one document each. -/
theorem deletedIn_deleteOne (hfilter : filter.checkFilter = .ok ()) (gen : Nat → ObjectId)
    (c : Collection) :
    deletedIn (c.answers (List.replicate (c.documents.filter filter.satisfies).length
        (gen, .deleteOne filter))) = (c.documents.filter filter.satisfies).length := by
  have hdeletions : Deletions (List.replicate (c.documents.filter filter.satisfies).length
      (gen, .deleteOne filter)) := by
    intro step hstep
    rw [List.eq_of_mem_replicate hstep]
    exact ⟨filter, .inl rfl⟩
  have htotal := deletedIn_deletions hdeletions c
  rw [after_deleteOne hfilter] at htotal
  -- every document matches or is left
  have hcount := List.length_eq_length_filter_add (l := c.documents) filter.satisfies
  dsimp only at htotal
  omega

/-- Two deletions of all leave the same documents in either order, and report as many in total. -/
theorem after_deleteMany_comm (gen : Nat → ObjectId) (f g : Document) (c : Collection) :
    c.after [(gen, .deleteMany f), (gen, .deleteMany g)] =
        c.after [(gen, .deleteMany g), (gen, .deleteMany f)] ∧
      deletedIn (c.answers [(gen, .deleteMany f), (gen, .deleteMany g)]) =
        deletedIn (c.answers [(gen, .deleteMany g), (gen, .deleteMany f)]) := by
  have hsame : c.after [(gen, .deleteMany f), (gen, .deleteMany g)] =
      c.after [(gen, .deleteMany g), (gen, .deleteMany f)] := by
    simp only [Collection.after, List.foldl_cons, List.foldl_nil, answer_deleteMany_snd]
    rw [List.filter_comm]
  have hdeletions : ∀ f g : Document, Deletions [(gen, .deleteMany f), (gen, .deleteMany g)] := by
    intro f g step hstep
    rcases List.mem_pair.mp hstep with rfl | rfl
    · exact ⟨f, .inr rfl⟩
    · exact ⟨g, .inr rfl⟩
  -- both orders leave as many documents, so both have reported as many
  have htotal := deletedIn_deletions (hdeletions f g) c
  have htotal' := deletedIn_deletions (hdeletions g f) c
  rw [hsame] at htotal
  exact ⟨hsame, by omega⟩

/-! ## The five calls -/

/-- All calls that take only this filter fail alike, and change nothing. -/
structure Refusal (gen : Nat → ObjectId) (filter : Document) (e : StoreError) (c : Collection) :
    Prop where
  count : answer gen (.count filter) c = (.error e, c)
  find : answer gen (.find filter) c = (.error e, c)
  findOne : answer gen (.findOne filter) c = (.error e, c)
  deleteOne : answer gen (.deleteOne filter) c = (.error e, c)
  deleteMany : answer gen (.deleteMany filter) c = (.error e, c)

/-- All calls that take only this filter succeed, and agree on the documents that match. -/
structure Agreement (gen : Nat → ObjectId) (filter : Document) (found : List Document)
    (c : Collection) : Prop where
  find : answer gen (.find filter) c = (.ok found, c)
  count : answer gen (.count filter) c = (.ok found.length, c)
  findOne : answer gen (.findOne filter) c = (.ok found.head?, c)
  /-- Without a match, a single deletion does nothing. -/
  deleteNone (h : found.head? = none) : answer gen (.deleteOne filter) c = (.ok (0 : Nat), c)
  /-- Otherwise it takes out the document that a search for one finds: it matches, and no document
  before it does. -/
  deleteOne (d : Document) (h : found.head? = some d) :
    ∃ before after, c.documents = before ++ d :: after ∧ filter.satisfies d = true ∧
      (∀ b ∈ before, ¬ filter.satisfies b = true) ∧
      answer gen (.deleteOne filter) c = (.ok (1 : Nat), { c with documents := before ++ after })
  /-- What is found is what matches, and a deletion of all leaves what does not. -/
  found_eq : found = c.documents.filter filter.satisfies
  deleteMany : answer gen (.deleteMany filter) c =
    (.ok found.length, { c with documents := c.documents.filter fun d => !filter.satisfies d })
  /-- Nothing is found after a deletion of all. -/
  findAfter (c' : Collection) (h : (answer gen (.deleteMany filter) c).2 = c') :
    answer gen (.find filter) c' = (.ok [], c')
  /-- Single deletions, as many as were counted, come to the same. -/
  oneByOne : c.after (List.replicate found.length (gen, .deleteOne filter)) =
      (answer gen (.deleteMany filter) c).2 ∧
    deletedIn (c.answers (List.replicate found.length (gen, .deleteOne filter))) = found.length

/-- A filter that is refused is refused by every call. -/
theorem refusal_of_checkFilter {e : StoreError} (h : filter.checkFilter = .error e) :
    Refusal gen filter e c := by
  have hselect : c.select filter = .error e := by
    rw [select, h]
    rfl
  have hdelete : ∀ reach, c.delete reach filter = (.error e, c) := by
    intro reach
    simp only [delete, h]
  constructor
  · exact congrArg (·, c) ((count_eq_select filter c).trans (congrArg (Except.map _) hselect))
  · exact congrArg (·, c) hselect
  · exact congrArg (·, c) ((selectFirst_eq_select filter c).trans (congrArg (Except.map _) hselect))
  · exact hdelete .first
  · exact hdelete .all

/-- Any other filter is accepted by every call, with the same matches. -/
theorem agreement_of_checkFilter (h : filter.checkFilter = .ok ()) :
    Agreement gen filter (c.documents.filter filter.satisfies) c := by
  have hselect : ∀ c : Collection,
      c.select filter = .ok (c.documents.filter filter.satisfies) := by
    intro c
    rw [select, h]
    rfl
  have hdeleteMany := delete_all_eq h c
  constructor
  · exact congrArg (·, c) (hselect c)
  · exact congrArg (·, c) ((count_eq_select filter c).trans (congrArg (Except.map _) (hselect c)))
  · exact congrArg (·, c)
      ((selectFirst_eq_select filter c).trans (congrArg (Except.map _) (hselect c)))
  · intro hnone
    exact delete_first_of_none h (List.head?_eq_none_iff.mp hnone)
  · -- the head of the matches is the match that no other one stands before
    intro d hd
    obtain ⟨rest, hrest⟩ := List.head?_eq_some_iff.mp hd
    obtain ⟨before, after, hc, hbefore, hmatch, -⟩ := List.filter_eq_cons_iff.mp hrest
    exact ⟨before, after, hc, hmatch, hbefore, delete_first_of_split h hc hbefore hmatch⟩
  · rfl
  · exact hdeleteMany
  · rintro c' rfl
    -- a document that does not match is not found
    have hnothing :
        (answer gen (.deleteMany filter) c).2.documents.filter filter.satisfies = [] := by
      show (c.delete .all filter).2.documents.filter filter.satisfies = []
      rw [hdeleteMany, List.filter_filter, List.filter_eq_nil_iff]
      intro d _
      rw [Bool.and_not_self]
      exact Bool.false_ne_true
    exact congrArg (·, _) ((hselect _).trans (congrArg Except.ok hnothing))
  · exact ⟨(after_deleteOne h gen c).trans (congrArg Prod.snd hdeleteMany).symm,
      deletedIn_deleteOne h gen c⟩

/-- Counts, searches and deletions agree on what matches.  For any filter all of them fail alike, or
all succeed and speak of the same documents; and two deletions of all leave the same documents and
report as many in total, whichever comes first. -/
theorem selection_agrees (gen : Nat → ObjectId) (c : Collection) :
    (∀ filter, (∃ e, Refusal gen filter e c) ∨ ∃ found, Agreement gen filter found c) ∧
    ∀ f g : Document,
      c.after [(gen, .deleteMany f), (gen, .deleteMany g)] =
          c.after [(gen, .deleteMany g), (gen, .deleteMany f)] ∧
        deletedIn (c.answers [(gen, .deleteMany f), (gen, .deleteMany g)]) =
          deletedIn (c.answers [(gen, .deleteMany g), (gen, .deleteMany f)]) := by
  constructor
  · intro filter
    cases hfilter : filter.checkFilter with
    | error e => exact .inl ⟨e, refusal_of_checkFilter hfilter⟩
    | ok _ => exact .inr ⟨_, agreement_of_checkFilter hfilter⟩
  · intro f g
    exact after_deleteMany_comm gen f g c

end DocLoad.Collection
