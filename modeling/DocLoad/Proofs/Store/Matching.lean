import DocLoad.Proofs.Bson.Equality
import DocLoad.Proofs.Except
import DocLoad.Store.Collection

/-!
# DocLoad.Proofs.Store.Matching — what equality means for filters

A filter compares more loosely than `==`: numbers of different types may match, and so may an item
of an array.  So whatever is equal also matches (`meets_of_beq`), and equal documents have equal
values at every path (`lookup?_same`).  Together: a document that holds a value equal to the one
that is asked for at each path of a filter is selected (`satisfies_of_holds`).
-/

namespace DocLoad

namespace Bson

variable {w v : Bson}

/-- Values that are equal are equal in the sense of filters. -/
theorem valueEq_of_beq (h : (w == v) = true) : valueEq w v = true := by
  cases w with
  | int32 n =>
    cases v with
    | int32 m =>
      have hnm : n = m := by simpa using (show (n == m) = true from h)
      simp [valueEq, integer?, hnm]
    | _ => exact absurd h Bool.false_ne_true
  | int64 n =>
    cases v with
    | int64 m => exact h
    | _ => exact absurd h Bool.false_ne_true
  | double x =>
    cases v with
    | double y => exact h
    | _ => exact absurd h Bool.false_ne_true
  | _ => exact h

/-- A value that equals the expected one matches it. -/
theorem meets_of_beq (h : (w == v) = true) : v.meets (some w) = true := by
  cases w with
  | array items =>
    cases v with
    | array others => exact valueEq_of_beq h
    | _ => exact absurd h Bool.false_ne_true
  | _ => exact valueEq_of_beq h

end Bson

namespace Document

/-! ## Equal documents -/

variable {d d' : Document}

/-- In two documents that are the same, equal values stand under a key. -/
theorem get?_same (h : d.same d' = true) {key : String} {v : Bson}
    (hv : Fields.get? key d = some v) :
    ∃ w, Fields.get? key d' = some w ∧ (v == w) = true := by
  have hrel := Bson.beq_document_iff.mp h key
  rw [hv] at hrel
  cases hw : Fields.get? key d' with
  | none =>
    rw [hw] at hrel
    cases hrel
  | some w =>
    rw [hw] at hrel
    cases hrel with
    | some hvw => exact ⟨w, rfl, hvw⟩

/-- Equal documents have equal values where a path leads to one. -/
theorem lookupAt?_same {rest : List String} {key : String} (h : d.same d' = true) {v : Bson}
    (hv : d.lookupAt? key rest = some v) :
    ∃ w, d'.lookupAt? key rest = some w ∧ (v == w) = true := by
  induction rest generalizing d d' key with
  | nil => exact get?_same h hv
  | cons next rest ih =>
    rw [lookupAt?] at hv
    split at hv
    · next nested hnested =>
      obtain ⟨w, hw, hequal⟩ := get?_same h hnested
      cases w with
      | document nested' =>
        rw [lookupAt?, hw]
        exact ih hequal hv
      | _ => cases hequal
    · cases hv

/-! ## Fields that a document holds -/

/-- What a field asks for, a document has: an equal value at its path. -/
def Holds (d : Document) (field : String × Bson) : Prop :=
  ∃ w, d.lookup? (Path.ofString field.1) = some w ∧ (w == field.2) = true

/-- A field that is held is held by every document that is the same. -/
theorem Holds.same {field : String × Bson} (hd : d.Holds field) (h : d.same d' = true) :
    d'.Holds field := by
  obtain ⟨w, hw, hfield⟩ := hd
  obtain ⟨w', hw', hequal⟩ := lookupAt?_same h hw
  rw [Bson.beq_comm] at hequal
  exact ⟨w', hw', Bson.beq_trans hequal hfield⟩

/-- A document that holds all fields of a filter is selected. -/
theorem satisfies_of_holds {filter : Document} (h : ∀ field ∈ filter, d.Holds field) :
    filter.satisfies d = true := by
  rw [satisfies, List.all_eq_true]
  intro ⟨path, expected⟩ hfield
  obtain ⟨w, hw, hequal⟩ := h (path, expected) hfield
  dsimp only at hw ⊢
  rw [hw]
  exact Bson.meets_of_beq hequal

theorem satisfies_nil (d : Document) : satisfies [] d = true := rfl

/-- No key names an operator when a search for one finds none. -/
theorem operator?_eq_none :
    d.operator? = none ↔ ∀ key ∈ Fields.keys d, isOperator key = false := by
  rw [operator?, List.find?_eq_none]
  simp only [Bool.not_eq_true]

/-- A filter is accepted if none of its keys is an operator. -/
theorem checkFilter_eq_ok {filter : Document} :
    filter.checkFilter = .ok () ↔ ∀ key ∈ Fields.keys filter, isOperator key = false := by
  rw [checkFilter, ← operator?_eq_none]
  cases filter.operator? <;> simp

theorem checkReplacement_eq_ok {r : Document} :
    r.checkReplacement = .ok () ↔ ∀ key ∈ Fields.keys r, isOperator key = false := by
  rw [checkReplacement, ← operator?_eq_none]
  cases r.operator? <;> simp

end Document

namespace Collection

/-- A filter without operators selects the documents that satisfy it. -/
theorem select_eq_ok {filter : Document}
    (h : ∀ key ∈ Fields.keys filter, isOperator key = false) (c : Collection) :
    c.select filter = .ok (c.documents.filter filter.satisfies) := by
  rw [select, Document.checkFilter_eq_ok.mpr h]
  rfl

/-- What is counted is what is selected. -/
theorem count_eq_select (filter : Document) (c : Collection) :
    c.count filter = (c.select filter).map List.length := by
  rw [count, select]
  cases filter.checkFilter with
  | error e => rfl
  | ok _ => exact congrArg Except.ok List.countP_eq_length_filter

/-- The first document that is found stands first in the selection. -/
theorem selectFirst_eq_select (filter : Document) (c : Collection) :
    c.selectFirst filter = (c.select filter).map List.head? := by
  rw [selectFirst, select]
  cases filter.checkFilter with
  | error e => rfl
  | ok _ => exact congrArg Except.ok List.head?_filter.symm

/-- A filter that every document satisfies selects them all. -/
theorem select_eq_all {filter : Document}
    (h : ∀ key ∈ Fields.keys filter, isOperator key = false) {c : Collection}
    (hall : ∀ d ∈ c.documents, filter.satisfies d = true) : c.select filter = .ok c.documents := by
  rw [select_eq_ok h, List.filter_eq_self.mpr hall]

end Collection
end DocLoad
