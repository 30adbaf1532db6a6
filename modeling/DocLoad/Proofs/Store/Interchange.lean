import DocLoad.Proofs.Store.Repetition

/-!
# DocLoad.Proofs.Store.Interchange — updates of unrelated paths in either order

Two updates of every document, whose paths do not meet, can be made in either order.  Both orders
succeed or neither does, each update reports the same counts in both, and the documents are equal in
the end.  They need not be the same: both updates may create one document on the way to their
fields, and whichever comes first puts its keys first.

* `Leaves.comm` is the step, for one document.  That the results are equal is `update_comm`.  That
  the counts are the same follows from `same_of_update_iff`: a document is modified unless it holds
  all fields already, and it holds a field whether or not an unrelated update was made before
  (`holds_update_iff`).
* `changeWhere_comm` is the run over all documents, and `updates_interchange` states it of query
  lines.

A document with a NaN is always reported as modified, so there must not be any.
-/

namespace DocLoad

namespace Document

variable {d d' : Document} {f : String × Bson} {fields : Document}

/-- Whether a field is held does not depend on an update at paths that are apart from its own. -/
theorem holds_update_iff
    (hapart : ∀ k ∈ Fields.keys fields, (Path.ofString f.1).Apart (Path.ofString k))
    (h : update fields d = .ok d') : d'.Holds f ↔ d.Holds f := by
  rw [Holds, Holds, lookup?_update hapart h]

end Document

/-- No path of the one fields meets a path of the others. -/
def Unrelated (fields fields' : Document) : Prop :=
  ∀ k ∈ Fields.keys fields, ∀ k' ∈ Fields.keys fields',
    (Path.ofString k).Apart (Path.ofString k')

instance (fields fields' : Document) : Decidable (Unrelated fields fields') :=
  inferInstanceAs (Decidable (∀ k ∈ Fields.keys fields, ∀ k' ∈ Fields.keys fields', _))

theorem Unrelated.symm {fields fields' : Document} (h : Unrelated fields fields') :
    Unrelated fields' fields := by
  intro k' hk' k hk
  exact (h k hk k' hk').symm

namespace Collection

/-! ## One document -/

section

variable {fields fields' d e new kept kept' : Document} {modified modified' : Nat}

/-- What an update leaves of a document is equal to what it has made of it. -/
theorem leaves_of_update (hfields : QueryFields fields) (hd : d.same d = true)
    (h : Document.update fields d = .ok new) :
    ∃ kept modified, Leaves (Document.update fields) d kept modified ∧ kept.same new = true := by
  refine ⟨_, _, ⟨new, h, rfl, rfl⟩, ?_⟩
  split
  · next hsame => rwa [Document.same_comm]
  · exact Document.same_self_of_update hfields.self hd h

/-- What an update leaves of a document is the same as its full result. -/
theorem Leaves.same_update (hfields : QueryFields fields) (hd : d.same d = true)
    (h : Leaves (Document.update fields) d kept modified) :
    ∃ new, Document.update fields d = .ok new ∧ kept.same new = true := by
  obtain ⟨new, hnew, rfl, -⟩ := h
  obtain ⟨other, _, ⟨new', hnew', rfl, -⟩, hsame⟩ := leaves_of_update hfields hd hnew
  rw [hnew] at hnew'
  cases hnew'
  exact ⟨new, hnew, hsame⟩

/-- An update counts a document as modified unless that holds all the fields. -/
theorem Leaves.modified_eq (hfields : QueryFields fields) (hd : d.same d = true)
    (h : Leaves (Document.update fields) d kept modified) :
    (modified = 0 ∧ ∀ f ∈ fields, d.Holds f) ∨ (modified = 1 ∧ ¬ ∀ f ∈ fields, d.Holds f) := by
  obtain ⟨new, hnew, -, rfl⟩ := h
  have hapart := Document.pathsApart_of_update hfields.increasing hfields.atomic hnew
  rw [← Document.same_of_update_iff hfields.self hapart hd hnew]
  by_cases hsame : new.same d = true
  · exact .inl ⟨if_pos hsame, hsame⟩
  · exact .inr ⟨if_neg hsame, hsame⟩

/-- Documents that hold the same ones of the fields count alike. -/
theorem Leaves.modified_congr (hfields : QueryFields fields) (hd : d.same d = true)
    (he : e.same e = true) (h : Leaves (Document.update fields) d kept modified)
    (h' : Leaves (Document.update fields) e kept' modified')
    (hheld : ∀ f ∈ fields, d.Holds f ↔ e.Holds f) : modified = modified' := by
  have hall : (∀ f ∈ fields, d.Holds f) ↔ ∀ f ∈ fields, e.Holds f := forall₂_congr hheld
  have hmodified := h.modified_eq hfields hd
  have hmodified' := h'.modified_eq hfields he
  rw [hall] at hmodified
  rcases hmodified with ⟨rfl, hyes⟩ | ⟨rfl, hno⟩
  · rcases hmodified' with ⟨rfl, -⟩ | ⟨-, hno'⟩
    · rfl
    · exact absurd hyes hno'
  · rcases hmodified' with ⟨-, hyes'⟩ | ⟨rfl, -⟩
    · exact absurd hyes' hno
    · rfl

variable (hfields : QueryFields fields) (hfields' : QueryFields fields')
  (hapart : Unrelated fields fields')
include hfields hfields' hapart

/-- Two updates of one document, one after the other, leave an equal one in the other order, and
each of them counts it as modified in both orders or in none. -/
theorem Leaves.comm (hd : d.same d = true)
    (h₁ : Leaves (Document.update fields) d kept modified)
    (h₂ : Leaves (Document.update fields') kept kept' modified') :
    ∃ other other', Leaves (Document.update fields') d other modified' ∧
      Leaves (Document.update fields) other other' modified ∧ kept'.same other' = true := by
  obtain ⟨new₁, hnew₁, hkept⟩ := h₁.same_update hfields hd
  have hkeptSelf : kept.same kept = true := Document.same_self hkept
  obtain ⟨new₂, hnew₂, hkept'⟩ := h₂.same_update hfields' hkeptSelf
  -- the second update works on `new₁` as it does on what was kept, and so may come first
  obtain ⟨n₂, hn₂, hequal₂⟩ := Document.update_same hfields'.self hkept hnew₂
  obtain ⟨new₃, n₄, hnew₃, hn₄, hcomm⟩ :=
    Document.update_comm hfields.self hfields'.self hd hapart hnew₁ hn₂
  obtain ⟨other, modified₃, h₃, hother⟩ := leaves_of_update hfields' hd hnew₃
  have hotherSelf : other.same other = true := Document.same_self hother
  -- and the first one works on what is kept then as it does on `new₃`
  obtain ⟨new₄, hnew₄, hequal₄⟩ :=
    Document.update_same hfields.self ((Document.same_comm _ _).trans hother) hn₄
  obtain ⟨other', modified₄, h₄, hother'⟩ := leaves_of_update hfields hotherSelf hnew₄
  -- each update finds the same fields held in both orders, since the other one is unrelated
  have hcounts' : modified' = modified₃ := by
    refine h₂.modified_congr hfields' hkeptSelf hd h₃ fun f hf => ?_
    rw [Document.holds_same_iff hkept]
    exact Document.holds_update_iff (hapart.symm f.1 (List.mem_map_of_mem hf)) hnew₁
  have hcounts : modified = modified₄ := by
    refine h₁.modified_congr hfields hd hotherSelf h₄ fun f hf => ?_
    rw [Document.holds_same_iff hother]
    exact (Document.holds_update_iff (hapart f.1 (List.mem_map_of_mem hf)) hnew₃).symm
  subst hcounts hcounts'
  refine ⟨other, other', h₃, h₄, ?_⟩
  have hlast : new₄.same other' = true := (Document.same_comm _ _).trans hother'
  have hmiddle : new₂.same new₄ = true :=
    Document.same_trans hequal₂ (Document.same_trans hcomm hequal₄)
  exact Document.same_trans hkept' (Document.same_trans hmiddle hlast)

/-! ## All documents -/

/-- Two updates of every document succeed in the other order as well, with the same counts and with
equal documents. -/
theorem changeWhere_comm {hits : Document → Bool} (hhits : ∀ d, hits d = true)
    {ds ds₁ ds₂ : List Document} {counts counts' : UpdateCounts}
    (hds : ∀ d ∈ ds, d.same d = true)
    (h₁ : changeWhere .all hits (Document.update fields) ds = (.ok counts, ds₁))
    (h₂ : changeWhere .all hits (Document.update fields') ds₁ = (.ok counts', ds₂)) :
    ∃ ds₃ ds₄, changeWhere .all hits (Document.update fields') ds = (.ok counts', ds₃) ∧
      changeWhere .all hits (Document.update fields) ds₃ = (.ok counts, ds₄) ∧
      List.Forall₂ (fun d d' => d.same d' = true) ds₂ ds₄ := by
  induction ds generalizing counts counts' ds₁ ds₂ with
  | nil =>
    cases h₁
    cases h₂
    exact ⟨[], [], rfl, rfl, .nil⟩
  | cons d ds ih =>
    -- the two changes of the first document are exchanged, and the rest is exchanged by induction
    rw [List.forall_mem_cons] at hds
    obtain ⟨kept, m, rest, es₁, hleaves, hrest, rfl, rfl⟩ :=
      (changeWhere_all_eq_ok (hhits d)).mp h₁
    obtain ⟨kept', m', rest', es₂, hleaves', hrest', rfl, rfl⟩ :=
      (changeWhere_all_eq_ok (hhits kept)).mp h₂
    obtain ⟨other, other', hother, hother', hequal⟩ :=
      hleaves.comm hfields hfields' hapart hds.1 hleaves'
    obtain ⟨es₃, es₄, h₃, h₄, hequals⟩ := ih hds.2 hrest hrest'
    refine ⟨other :: es₃, other' :: es₄, ?_, ?_, .cons hequal hequals⟩
    · exact (changeWhere_all_eq_ok (hhits d)).mpr ⟨_, _, _, _, hother, h₃, rfl, rfl⟩
    · exact (changeWhere_all_eq_ok (hhits other)).mpr ⟨_, _, _, _, hother', h₄, rfl, rfl⟩

end

/-! ## Query lines -/

/-- Updates of every document with two query lines, one after the other, succeed with the given
outcomes. -/
def UpdatedInTurn (gen : Nat → ObjectId) (line line' : String) (outcome outcome' : Outcome)
    (c c' : Collection) : Prop :=
  ∃ c₁, c.execute gen .general "updateMany" line = (.ok outcome, c₁) ∧
    c₁.execute gen .general "updateMany" line' = (.ok outcome', c')

section

variable {gen : Nat → ObjectId} {line line' : String} {q q' : Query} {c c' : Collection}
  {outcome outcome' : Outcome}

/-- An update of every document with a query line is work on all of them without a filter. -/
theorem execute_updateMany_eq_ok (hread : Session.readQuery line = .ok q) :
    c.execute gen .general "updateMany" line = (.ok outcome, c') ↔
      ∃ counts, changeWhere .all (Document.satisfies []) (Document.update q.toDocument)
          c.documents = (.ok counts, c'.documents) ∧
        c' = { c with documents := c'.documents } ∧ .updated counts = outcome := by
  rw [execute_eq .updateMany hread rfl]
  refine Session.answered_eq_ok.trans ?_
  constructor
  · rintro ⟨counts, hcall, houtcome⟩
    have hmodify : c.modify .all [] (.ok (Document.update q.toDocument)) = (.ok counts, c') := hcall
    obtain ⟨change, -, haccepted, hwork, hc'⟩ := modify_eq_ok.mp hmodify
    cases haccepted
    exact ⟨counts, hwork, hc', houtcome⟩
  · rintro ⟨counts, hwork, hc', houtcome⟩
    exact ⟨counts, modify_eq_ok.mpr ⟨_, rfl, rfl, hwork, hc'⟩, houtcome⟩

/-- Two updates in turn may change their turns. -/
theorem UpdatedInTurn.swap (hread : Session.readQuery line = .ok q)
    (hread' : Session.readQuery line' = .ok q') (hapart : Unrelated q.toDocument q'.toDocument)
    (hc : c.EachSelf) (h : UpdatedInTurn gen line line' outcome outcome' c c') :
    ∃ c'', UpdatedInTurn gen line' line outcome' outcome c c'' ∧
      List.Forall₂ (fun d d' => d.same d' = true) c'.documents c''.documents := by
  obtain ⟨c₁, h₁, h₂⟩ := h
  obtain ⟨counts, hwork, hc₁, hcounts⟩ := (execute_updateMany_eq_ok hread).mp h₁
  obtain ⟨counts', hwork', hc', hcounts'⟩ := (execute_updateMany_eq_ok hread').mp h₂
  obtain ⟨ds₃, ds₄, h₃, h₄, hequal⟩ :=
    changeWhere_comm (queryFields_of_readQuery hread) (queryFields_of_readQuery hread') hapart
      Document.satisfies_nil hc hwork hwork'
  refine ⟨{ c with documents := ds₄ }, ⟨{ c with documents := ds₃ }, ?_, ?_⟩, hequal⟩
  · exact (execute_updateMany_eq_ok hread').mpr ⟨counts', h₃, rfl, hcounts'⟩
  · exact (execute_updateMany_eq_ok hread).mpr ⟨counts, h₄, rfl, hcounts⟩

end

/-- Updates of every document with two query lines whose paths do not meet can be interchanged, if
no document has a NaN in it.  Both orders succeed or neither does; each line has the same outcome in
both, and the documents are equal, position by position. -/
theorem updates_interchange (gen : Nat → ObjectId) (c : Collection) (line line' : String)
    (q q' : Query) (hread : Session.readQuery line = .ok q)
    (hread' : Session.readQuery line' = .ok q') (hapart : Unrelated q.toDocument q'.toDocument)
    (hnan : c.NoNaN) :
    ((∃ outcome outcome' c', UpdatedInTurn gen line line' outcome outcome' c c') ↔
      ∃ outcome outcome' c', UpdatedInTurn gen line' line outcome' outcome c c') ∧
    ∀ outcome outcome' c' other other' c'',
      UpdatedInTurn gen line line' outcome outcome' c c' →
      UpdatedInTurn gen line' line other' other c c'' →
      outcome = other ∧ outcome' = other' ∧ c'.documents.length = c''.documents.length ∧
        List.Forall₂ (fun d d' => d.same d' = true) c'.documents c''.documents := by
  have hc : c.EachSelf := hnan.eachSelf
  constructor
  · constructor
    · rintro ⟨outcome, outcome', c', h⟩
      obtain ⟨c'', hswapped, -⟩ := h.swap hread hread' hapart hc
      exact ⟨outcome, outcome', c'', hswapped⟩
    · rintro ⟨outcome, outcome', c', h⟩
      obtain ⟨c'', hswapped, -⟩ := h.swap hread' hread hapart.symm hc
      exact ⟨outcome, outcome', c'', hswapped⟩
  · intro outcome outcome' c' other other' c'' h h'
    obtain ⟨d, ⟨d₁, hd₁, hd⟩, hequal⟩ := h.swap hread hread' hapart hc
    obtain ⟨e₁, he₁, he⟩ := h'
    -- the run in the other order is the one that was given
    rw [hd₁] at he₁
    cases he₁
    rw [hd] at he
    cases he
    exact ⟨rfl, rfl, hequal.length_eq, hequal⟩

/-- A document without a field `a`, and one that has both fields below it already. -/
def bareAndFull : Collection :=
  ⟨"c", [[("_id", .int32 1)],
    [("_id", .int32 2), ("a", .document [("b", .int32 7), ("d", .string "x")])]], 0⟩

/-- Two updates below one missing field each modify one document of two, in either order, and leave
its fields in different orders. -/
theorem updates_interchange_bareAndFull :
    let gen : Nat → ObjectId := fun _ => ⟨0⟩
    let q : Query := ⟨[("a.b", .integer 7)]⟩
    let q' : Query := ⟨[("a.d", .text "x")]⟩
    let after : Document → Collection := fun nested =>
      ⟨"c", [[("_id", .int32 1), ("a", .document nested)],
        [("_id", .int32 2), ("a", .document [("b", .int32 7), ("d", .string "x")])]], 0⟩
    let bFirst := after [("b", .int32 7), ("d", .string "x")]
    let dFirst := after [("d", .string "x"), ("b", .int32 7)]
    (Session.readQuery "a.b=7" = .ok q ∧ Session.readQuery "a.d=x" = .ok q' ∧
      Unrelated q.toDocument q'.toDocument ∧ bareAndFull.NoNaN) ∧
    (UpdatedInTurn gen "a.b=7" "a.d=x" (.updated ⟨2, 1⟩) (.updated ⟨2, 1⟩) bareAndFull bFirst ∧
      UpdatedInTurn gen "a.d=x" "a.b=7" (.updated ⟨2, 1⟩) (.updated ⟨2, 1⟩) bareAndFull dFirst) ∧
    List.Forall₂ (fun d d' => d.same d' = true) bFirst.documents dFirst.documents := by
  intro gen q q' after bFirst dFirst
  have hread : Session.readQuery "a.b=7" = .ok q := Session.readQuery_eq_ok.mpr (by decide +kernel)
  have hread' : Session.readQuery "a.d=x" = .ok q' :=
    Session.readQuery_eq_ok.mpr (by decide +kernel)
  have hapart : Unrelated q.toDocument q'.toDocument := by decide +kernel
  have hnan : bareAndFull.NoNaN := by decide
  have hb : UpdatedInTurn gen "a.b=7" "a.d=x" (.updated ⟨2, 1⟩) (.updated ⟨2, 1⟩) bareAndFull
      bFirst := by
    refine ⟨after [("b", .int32 7)], ?_, ?_⟩
    · exact (execute_updateMany_eq_ok hread).mpr ⟨⟨2, 1⟩, rfl, rfl, rfl⟩
    · exact (execute_updateMany_eq_ok hread').mpr ⟨⟨2, 1⟩, rfl, rfl, rfl⟩
  have hd : UpdatedInTurn gen "a.d=x" "a.b=7" (.updated ⟨2, 1⟩) (.updated ⟨2, 1⟩) bareAndFull
      dFirst := by
    refine ⟨after [("d", .string "x")], ?_, ?_⟩
    · exact (execute_updateMany_eq_ok hread').mpr ⟨⟨2, 1⟩, rfl, rfl, rfl⟩
    · exact (execute_updateMany_eq_ok hread).mpr ⟨⟨2, 1⟩, rfl, rfl, rfl⟩
  have hswap := updates_interchange gen bareAndFull "a.b=7" "a.d=x" q q' hread hread' hapart hnan
  obtain ⟨-, -, -, hequal⟩ := hswap.2 _ _ _ _ _ _ hb hd
  exact ⟨⟨hread, hread', hapart, hnan⟩, ⟨hb, hd⟩, hequal⟩

end Collection
end DocLoad
