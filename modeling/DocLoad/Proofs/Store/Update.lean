import DocLoad.Proofs.Query.Grammar
import DocLoad.Proofs.Session.Performing
import DocLoad.Proofs.Store.Effect

/-!
# DocLoad.Proofs.Store.Update — what an update writes, a filter finds

An update sets the fields of a query one after another, and a field could in principle be lost to a
later one: where one path goes on after the other.  It never is, because the keys of a query
increase, so the shorter path comes first, and a write below it then fails, since what stands there
is not a document.

* `apart_of_updateField` is that argument for one field, and `pathsApart_of_update` the run over all
  fields.  So after an update its fields are settled (`settled_of_update`), and held
  (`holds_update`).
* `Leaves.holds` is about the document that is kept.  One that would be equal to the old one is not
  written, and then the old one holds the fields as well.
* `satisfies_of_modify_all` and `satisfies_of_modify_first` are the run over all documents, for any
  change that makes documents hold some fields.
* `find_after_update` puts an update and the search with the same query line together.
-/

namespace DocLoad

/-! ## Values that a query sets -/

/-- A value that equals itself and is not a document. -/
structure Bson.Atomic (v : Bson) : Prop where
  self : (v == v) = true
  notDocument : ∀ nested, v ≠ .document nested

/-- An integer of either width. -/
theorem Bson.atomic_narrow (n : Int64) : (narrow n).Atomic := by
  rw [narrow]
  split
  · constructor
    · simp [BEq.beq, Bson.beq]
    · intro nested h
      cases h
  · constructor
    · simp [BEq.beq, Bson.beq]
    · intro nested h
      cases h

/-- Rounding a quotient never gives a NaN. -/
theorem Double.isNaN_ofRatio (negative : Bool) (num den : Nat) :
    (ofRatio negative num den).isNaN = false := by
  have hle : nearestCode num den ≤ infinityCode := Nat.min_le_left _ _
  exact decide_eq_false (Nat.not_lt.mpr hle)

/-- A numeral is never read as a NaN. -/
theorem Double.isNaN_ofScientific (negative : Bool) (m : Nat) (e : Int) :
    (ofScientific negative m e).isNaN = false := by
  cases e with
  | ofNat e =>
    rw [ofScientific]
    split
    · rfl
    · split
      · rfl
      · exact isNaN_ofRatio _ _ _
  | negSucc e =>
    rw [ofScientific]
    split
    · rfl
    · exact isNaN_ofRatio _ _ _

namespace Literal

/-- The double of a numeral is a value that equals itself. -/
theorem atomic_toBson_double (numeral : Numeral) : (double numeral.toDouble).toBson.Atomic where
  self := Double.numEq_self (Double.isNaN_ofScientific _ _ _)
  notDocument := by
    intro nested h
    cases h

/-- The value of a clause equals itself and is not a document. -/
theorem atomic_ofChars (cs : List Char) : (ofChars cs).toBson.Atomic := by
  rw [ofChars]
  cases Numeral.read cs with
  | none =>
    constructor
    · simp [toBson, BEq.beq, Bson.beq]
    · intro nested h
      cases h
  | some numeral =>
    dsimp only
    cases numeral.toInt? with
    | none => exact atomic_toBson_double numeral
    | some n =>
      dsimp only
      by_cases hn : Int64.minValue.toInt ≤ n ∧ n ≤ Int64.maxValue.toInt
      · rw [if_pos hn]
        exact Bson.atomic_narrow _
      · rw [if_neg hn]
        exact atomic_toBson_double numeral

end Literal

/-- The fields of a query that was read have such values. -/
theorem Query.atomic_of_readQuery {line : String} {q : Query}
    (h : Session.readQuery line = .ok q) : ∀ f ∈ q.toDocument, f.2.Atomic := by
  intro f hf
  have hkey : f.1 ∈ Fields.keys q.toDocument := List.mem_map_of_mem hf
  obtain ⟨cl, hlast, hcl⟩ := exists_isLast ((Session.mem_keys_of_readQuery h).mp hkey)
  have hget := Session.get?_of_readQuery h hlast
  rw [hcl, get?_of_mem (Session.increasing_of_readQuery h) hf] at hget
  rw [Option.some.inj hget]
  exact Literal.atomic_ofChars _

/-! ## One field -/

namespace Document

variable {d d' : Document} {field other : String × Bson}

/-- Where a held field has a smaller key than a field that is set next, neither path goes on after
the other. -/
theorem apart_of_updateField (hd : d.Holds other) (hother : other.2.Atomic)
    (hlt : utf8 other.1 < utf8 field.1) (h : d.updateField field = .ok d') :
    (Path.ofString other.1).Apart (Path.ofString field.1) := by
  constructor
  · -- below the held value, which is not a document, nothing is written or found
    intro habove
    have hproper : (Path.ofString other.1).segments ≠ (Path.ofString field.1).segments := by
      intro heq
      rw [Path.ofString_injective heq] at hlt
      exact List.lt_irrefl _ hlt
    obtain ⟨value, d₁, hassign⟩ :
        ∃ value d₁, d.assign (Path.ofString field.1) value = .ok d₁ := by
      rcases updateField_eq_ok.mp h with ⟨-, -, u, hu, -⟩ | ⟨-, hassign⟩
      · exact ⟨u, d, assignAt_of_lookupAt? hu⟩
      · exact ⟨field.2, d', hassign⟩
    obtain ⟨w, hw, hequal⟩ := hd
    obtain ⟨nested, rfl⟩ := nested_of_assignAt habove hproper hassign hw
    cases hv : other.2 with
    | document fields => exact hother.notDocument fields hv
    | _ => rw [hv] at hequal; cases hequal
  · -- the key of a shorter path is smaller
    intro hbelow
    have hprefix := Query.utf8_isPrefix (Path.isPrefix_of_segments hbelow)
    exact List.not_lt.mpr hprefix.le hlt

/-! ## All fields -/

/-- The paths of fields with greater keys are apart from that of a held field. -/
theorem apart_of_update {fields : Document} (hd : d.Holds other) (hother : other.2.Atomic)
    (hlt : ∀ key ∈ Fields.keys fields, utf8 other.1 < utf8 key)
    (h : Document.update fields d = .ok d') :
    ∀ key ∈ Fields.keys fields, (Path.ofString other.1).Apart (Path.ofString key) := by
  induction fields generalizing d with
  | nil =>
    intro key hkey
    cases hkey
  | cons field fields ih =>
    obtain ⟨d₁, h₁, hrest⟩ := update_cons.mp h
    rw [Fields.keys, List.map_cons, List.forall_mem_cons] at hlt ⊢
    have hapart := apart_of_updateField hd hother hlt.1 h₁
    have hd₁ : d₁.Holds other := by
      obtain ⟨w, hw, hequal⟩ := hd
      exact ⟨w, (lookup?_updateField hapart h₁).trans hw, hequal⟩
    exact ⟨hapart, ih hd₁ hlt.2 hrest⟩

section

variable {fields : Document} (hsorted : Query.Increasing fields)
  (hatomic : ∀ f ∈ fields, f.2.Atomic)
include hsorted hatomic

/-- In an update with increasing keys that succeeds, no path goes on after another one. -/
theorem pathsApart_of_update (h : Document.update fields d = .ok d') : PathsApart fields := by
  induction fields generalizing d with
  | nil => exact .nil
  | cons field fields ih =>
    obtain ⟨hleast, hsorted⟩ := Query.increasing_cons.mp hsorted
    rw [List.forall_mem_cons] at hatomic
    obtain ⟨d₁, h₁, hrest⟩ := update_cons.mp h
    have hfield : d₁.Holds field := (settled_updateField h₁).holds hatomic.1.self
    exact pathsApart_cons.mpr
      ⟨apart_of_update hfield hatomic.1 hleast hrest, ih hsorted hatomic.2 hrest⟩

/-- After an update with increasing keys, all its fields are settled. -/
theorem settled_of_update (h : Document.update fields d = .ok d') : ∀ f ∈ fields, d'.Settled f :=
  settled_update (pathsApart_of_update hsorted hatomic h) h

/-- After an update with increasing keys, all its fields are held. -/
theorem holds_update (h : Document.update fields d = .ok d') : ∀ f ∈ fields, d'.Holds f := by
  intro f hf
  exact (settled_of_update hsorted hatomic h f hf).holds (hatomic f hf).self

end

end Document

namespace Collection

/-! ## All documents -/

/-- What work leaves of a document, the old or the new one, holds the fields that the new one
holds. -/
theorem Leaves.holds {change : Document → Except StoreError Document} {fields d kept : Document}
    {modified : Nat} (hchange : ∀ new, change d = .ok new → ∀ f ∈ fields, new.Holds f)
    (h : Leaves change d kept modified) : ∀ f ∈ fields, kept.Holds f := by
  obtain ⟨new, hnew, rfl, -⟩ := h
  intro f hf
  have hheld := hchange new hnew f hf
  split
  · next hsame => exact hheld.same hsame
  · exact hheld

/-! ## Calls without a filter -/

section

variable {accepted : Except StoreError (Document → Except StoreError Document)}
  {change : Document → Except StoreError Document} (haccepted : accepted = .ok change)
  {fields : Document} {c c' : Collection} {counts : UpdateCounts}
include haccepted

/-- Where a change makes documents hold some fields, every document satisfies these as a filter
after the change of all. -/
theorem satisfies_of_modify_all
    (hchange : ∀ d ∈ c.documents, ∀ new, change d = .ok new → ∀ f ∈ fields, new.Holds f)
    (h : c.modify .all [] accepted = (.ok counts, c')) :
    ∀ d ∈ c'.documents, fields.satisfies d = true := by
  obtain ⟨_, -, haccepted', hwork, -⟩ := modify_eq_ok.mp h
  cases haccepted.symm.trans haccepted'
  intro d' hd'
  obtain ⟨i, hi⟩ := List.getElem?_of_mem hd'
  have hworked := worked_changeWhere hwork i
  by_cases hcovers : Covers .all (Document.satisfies []) c.documents i
  · obtain ⟨d, hd, -⟩ := hcovers.hit
    obtain ⟨kept, modified, hleaves, hkept⟩ := hworked.covered d hd hcovers
    rw [hi] at hkept
    cases hkept
    exact Document.satisfies_of_holds (hleaves.holds (hchange d (List.mem_of_getElem? hd)))
  · -- without a filter every document is reached
    rw [hworked.others hcovers] at hi
    exact absurd ⟨⟨d', hi, Document.satisfies_nil d'⟩, nofun⟩ hcovers

/-- After the change of the first document, that one satisfies the fields. -/
theorem satisfies_of_modify_first {d : Document} {ds : List Document}
    (hchange : ∀ new, change d = .ok new → ∀ f ∈ fields, new.Holds f)
    (hc : c.documents = d :: ds) (h : c.modify .first [] accepted = (.ok counts, c')) :
    ∃ d', c'.documents = d' :: ds ∧ fields.satisfies d' = true := by
  obtain ⟨_, -, haccepted', hwork, -⟩ := modify_eq_ok.mp h
  cases haccepted.symm.trans haccepted'
  rw [hc] at hwork
  obtain ⟨kept, modified, hleaves, -, hkept⟩ :=
    (changeWhere_first_eq_ok (Document.satisfies_nil d)).mp hwork
  exact ⟨kept, hkept, Document.satisfies_of_holds (hleaves.holds hchange)⟩

end

section

variable {fields : Document} (hsorted : Query.Increasing fields)
  (hatomic : ∀ f ∈ fields, f.2.Atomic) {c c' : Collection} {counts : UpdateCounts}
include hsorted hatomic

/-- After an update of every document, every document satisfies the fields as a filter. -/
theorem satisfies_of_updateMany
    (h : c.update .all [] [("$set", .document fields)] = (.ok counts, c')) :
    ∀ d ∈ c'.documents, fields.satisfies d = true := by
  refine satisfies_of_modify_all (show _ = Except.ok (Document.update fields) from rfl) ?_ h
  intro d _ new hnew
  exact Document.holds_update hsorted hatomic hnew

/-- After an update of the first document, that one satisfies the fields as a filter. -/
theorem satisfies_of_updateOne {d : Document} {ds : List Document} (hc : c.documents = d :: ds)
    (h : c.update .first [] [("$set", .document fields)] = (.ok counts, c')) :
    ∃ d', c'.documents = d' :: ds ∧ fields.satisfies d' = true := by
  refine satisfies_of_modify_first (show _ = Except.ok (Document.update fields) from rfl) ?_ hc h
  intro new hnew
  exact Document.holds_update hsorted hatomic hnew

end

/-! ## An update and a search with one query line -/

section

variable {gen : Nat → ObjectId} {c c' : Collection} {line : String} {q : Query}
  (hread : Session.readQuery line = .ok q)
  (hkeys : ∀ key ∈ Fields.keys q.toDocument, isOperator key = false)
include hread hkeys

/-- A search in any mode finds the documents that satisfy the query. -/
theorem execute_find_eq (mode : Mode) :
    c.execute gen mode "find" line =
      (.ok (.documents (c.documents.filter q.toDocument.satisfies)), c) := by
  have hcall : answer gen (Operation.find.call q.toDocument) c =
      (.ok (c.documents.filter q.toDocument.satisfies), c) :=
    congrArg (·, c) (select_eq_ok hkeys c)
  rw [execute_eq .find hread (by cases mode <;> rfl)]
  exact Session.answered_of_ok hcall

/-- A query that all documents satisfy finds all of them. -/
theorem execute_find (hall : ∀ d ∈ c.documents, q.toDocument.satisfies d = true) :
    c.execute gen .general "find" line = (.ok (.documents c.documents), c) := by
  rw [execute_find_eq hread hkeys, List.filter_eq_self.mpr hall]

theorem execute_findOne {d : Document} {ds : List Document} (hc : c.documents = d :: ds)
    (hd : q.toDocument.satisfies d = true) :
    c.execute gen .general "findOne" line = (.ok (.document (some d)), c) := by
  have hfound : c.selectFirst q.toDocument = .ok (some d) := by
    rw [selectFirst_eq_select, select_eq_ok hkeys, hc, List.filter_cons_of_pos hd]
    rfl
  have hcall : answer gen (Operation.findOne.call q.toDocument) c = (.ok (some d), c) :=
    congrArg (·, c) hfound
  rw [execute_eq .findOne hread rfl]
  exact Session.answered_of_ok hcall

end

/-- What `updateMany` has written with a query line, `find` sees with the same line: it returns
every document.  What `update` or `updateOne` has written, `findOne` sees: it returns the first
document, if there is one. -/
theorem find_after_update (gen : Nat → ObjectId) (c : Collection) (line : String) (q : Query)
    (hread : Session.readQuery line = .ok q)
    (hkeys : ∀ key ∈ Fields.keys q.toDocument, isOperator key = false) :
    (∀ outcome c', c.execute gen .general "updateMany" line = (.ok outcome, c') →
      c'.execute gen .general "find" line = (.ok (.documents c'.documents), c')) ∧
    ∀ name ∈ ["update", "updateOne"], c.documents ≠ [] →
      ∀ outcome c', c.execute gen .general name line = (.ok outcome, c') →
        ∃ d ds, c'.documents = d :: ds ∧
          c'.execute gen .general "findOne" line = (.ok (.document (some d)), c') := by
  have hsorted := Session.increasing_of_readQuery hread
  have hatomic := Query.atomic_of_readQuery hread
  constructor
  · intro outcome c' h
    rw [execute_eq .updateMany hread rfl] at h
    obtain ⟨counts, hcall, -⟩ := Session.answered_eq_ok.mp h
    exact execute_find hread hkeys (satisfies_of_updateMany hsorted hatomic hcall)
  · intro name hname hne outcome c' h
    obtain ⟨d, ds, hc⟩ := List.exists_cons_of_ne_nil hne
    obtain ⟨counts, hcall⟩ : ∃ counts : UpdateCounts,
        c.update .first [] [("$set", .document q.toDocument)] = (.ok counts, c') := by
      -- both names stand for the same call
      simp only [List.mem_cons, List.not_mem_nil, or_false] at hname
      rcases hname with rfl | rfl
      · rw [execute_eq .update hread rfl] at h
        obtain ⟨counts, hcall, -⟩ := Session.answered_eq_ok.mp h
        exact ⟨counts, hcall⟩
      · rw [execute_eq .updateOne hread rfl] at h
        obtain ⟨counts, hcall, -⟩ := Session.answered_eq_ok.mp h
        exact ⟨counts, hcall⟩
    obtain ⟨d', hc', hd'⟩ := satisfies_of_updateOne hsorted hatomic hc hcall
    exact ⟨d', ds, hc', execute_findOne hread hkeys hc' hd'⟩

/-- A document that has the fields of `a.b=7, c=x` already, and one that has neither. -/
def halfUpToDate : Collection :=
  ⟨"c", [[("c", .string "x"), ("a", .document [("b", .int32 7)])], [("_id", .int32 2)]], 0⟩

/-- An update with a dotted path leaves the first document as it is and writes the second; the
search finds both. -/
theorem updateMany_halfUpToDate :
    let gen : Nat → ObjectId := fun _ => ⟨0⟩
    let line := "c=x, a.b=7"
    let q : Query := ⟨[("a.b", .integer 7), ("c", .text "x")]⟩
    let updated : Collection := ⟨"c", [[("c", .string "x"), ("a", .document [("b", .int32 7)])],
      [("_id", .int32 2), ("a", .document [("b", .int32 7)]), ("c", .string "x")]], 0⟩
    Session.readQuery line = .ok q ∧
      (∀ key ∈ Fields.keys q.toDocument, isOperator key = false) ∧
      halfUpToDate.execute gen .general "updateMany" line = (.ok (.updated ⟨2, 1⟩), updated) ∧
      updated.execute gen .general "find" line = (.ok (.documents updated.documents), updated) := by
  intro gen line q updated
  have hread : Session.readQuery line = .ok q := Session.readQuery_eq_ok.mpr (by decide +kernel)
  have hkeys : ∀ key ∈ Fields.keys q.toDocument, isOperator key = false := by decide
  have hupdate : halfUpToDate.execute gen .general "updateMany" line =
      (.ok (.updated ⟨2, 1⟩), updated) := by
    rw [execute_eq .updateMany hread rfl]
    rfl
  exact ⟨hread, hkeys, hupdate,
    (find_after_update gen halfUpToDate line q hread hkeys).1 _ updated hupdate⟩

end Collection
end DocLoad
