import DocLoad.Query
import Mathlib.Data.List.Lex
import Mathlib.Order.Basic

/-!
# DocLoad.Proofs.Query.Sorted — the fields of a query

The fields of a query are kept in increasing order of their keys' bytes, and every clause goes to
its place among them.

* `increasing_ofClauses` — the keys of a query increase strictly, so each occurs once;
* `mem_keys_ofClauses` — its keys are those of its clauses;
* `get?_ofClauses_of_last` — the last clause with a key decides its value;
* `eq_of_get?_eq` — a query is determined by what its keys lead to, so the order of its clauses
  does not matter beyond that.
-/

namespace DocLoad.Query

/-! ## The order of keys -/

theorem utf8_injective {s t : String} (h : utf8 s = utf8 t) : s = t := by
  rw [← String.toByteArray_inj]
  exact ByteArray.ext (Array.toList_inj.mp h)

/-- Of two different texts one has the smaller bytes. -/
theorem utf8_lt_of_not_lt {s t : String} (hne : t ≠ s) (h : ¬ utf8 s < utf8 t) :
    utf8 t < utf8 s := by
  rcases Std.lt_trichotomy (utf8 s) (utf8 t) with hlt | heq | hgt
  · exact absurd hlt h
  · exact absurd (utf8_injective heq).symm hne
  · exact hgt

/-- A text that goes on after another one has bytes that do so as well. -/
theorem utf8_isPrefix {s t : String} (h : s.toList <+: t.toList) : utf8 s <+: utf8 t := by
  obtain ⟨rest, hrest⟩ := h
  have ht : t = s ++ String.ofList rest := by
    apply String.ext
    rw [String.toList_append, String.toList_ofList, hrest]
  rw [ht, utf8, utf8, String.toByteArray_append, ByteArray.data_append, Array.toList_append]
  exact List.prefix_append _ _

/-- The keys increase in the order of their bytes. -/
def Increasing {α : Type} (d : Fields α) : Prop :=
  (Fields.keys d).Pairwise fun k k' => utf8 k < utf8 k'

theorem increasing_cons {α : Type} {k : String} {v : α} {d : Fields α} :
    Increasing ((k, v) :: d) ↔ (∀ k' ∈ Fields.keys d, utf8 k < utf8 k') ∧ Increasing d :=
  List.pairwise_cons

/-- A key that is smaller than all others is not among them. -/
theorem get?_of_smaller {α : Type} {k : String} {d : Fields α}
    (h : ∀ k' ∈ Fields.keys d, utf8 k < utf8 k') : Fields.get? k d = none := by
  rw [Fields.get?_eq_none_iff]
  intro hk
  exact List.lt_irrefl _ (h k hk)

/-- A field with its key and value can be looked up, since no other field has the key. -/
theorem get?_of_mem {α : Type} {d : Fields α} {f : String × α} (hd : Increasing d) (hf : f ∈ d) :
    Fields.get? f.1 d = some f.2 := by
  induction d with
  | nil => cases hf
  | cons g d ih =>
    obtain ⟨hleast, hrest⟩ := increasing_cons.mp hd
    rcases List.mem_cons.mp hf with rfl | hf
    · simp [Fields.get?]
    · have hne : g.1 ≠ f.1 := by
        intro heq
        have hlt := hleast f.1 (List.mem_map_of_mem hf)
        exact List.lt_irrefl _ (heq ▸ hlt)
      simpa only [Fields.get?, if_neg hne] using ih hrest hf

/-- No key of fields in increasing order is smaller than the first. -/
theorem not_lt_first {α : Type} {k k' : String} {v v' : α} {d : Fields α}
    (hd : Increasing ((k', v') :: d)) (h : Fields.get? k ((k', v') :: d) = some v) :
    ¬ utf8 k < utf8 k' := by
  intro hlt
  have hleast := (increasing_cons.mp hd).1
  have hsmaller : ∀ j ∈ Fields.keys ((k', v') :: d), utf8 k < utf8 j := by
    intro j hj
    rcases List.mem_cons.mp hj with rfl | hj
    · exact hlt
    · exact List.lt_trans hlt (hleast j hj)
  rw [get?_of_smaller hsmaller] at h
  cases h

/-- Fields in increasing order are determined by what can be looked up in them. -/
theorem eq_of_get?_eq {α : Type} {d d' : Fields α} (hd : Increasing d) (hd' : Increasing d')
    (h : ∀ k, Fields.get? k d = Fields.get? k d') : d = d' := by
  induction d generalizing d' with
  | nil =>
    cases d' with
    | nil => rfl
    | cons f d' =>
      have hf := h f.1
      simp [Fields.get?] at hf
  | cons f d ih =>
    obtain ⟨k, v⟩ := f
    cases d' with
    | nil =>
      have hk := h k
      simp [Fields.get?] at hk
    | cons f' d' =>
      obtain ⟨k', v'⟩ := f'
      have hself : Fields.get? k ((k, v) :: d) = some v := by simp [Fields.get?]
      have hself' : Fields.get? k' ((k', v') :: d') = some v' := by simp [Fields.get?]
      -- each first key is found on the other side, so neither is the smaller one
      have hkk : k = k' := by
        by_contra hne
        exact not_lt_first hd ((h k').trans hself')
          (utf8_lt_of_not_lt (Ne.symm hne) (not_lt_first hd' ((h k).symm.trans hself)))
      subst hkk
      have hv : v = v' := by
        have hk := hself.symm.trans ((h k).trans hself')
        exact Option.some.inj hk
      obtain ⟨hleast, hrest⟩ := increasing_cons.mp hd
      obtain ⟨hleast', hrest'⟩ := increasing_cons.mp hd'
      have heq : d = d' := by
        apply ih hrest hrest'
        intro j
        by_cases hj : k = j
        · subst hj
          rw [get?_of_smaller hleast, get?_of_smaller hleast']
        · have hk := h j
          simpa only [Fields.get?, if_neg hj] using hk
      rw [hv, heq]

/-! ## One clause more -/

variable {key k : String} {value : Literal} {d : Fields Literal}

/-- The new value stands under its key. -/
theorem get?_insertSorted_self : Fields.get? key (insertSorted key value d) = some value := by
  induction d with
  | nil => simp [insertSorted, Fields.get?]
  | cons f d ih =>
    obtain ⟨j, w⟩ := f
    rw [insertSorted]
    split
    · simp [Fields.get?]
    · split
      · simp [Fields.get?]
      · next hj _ => simpa [Fields.get?, hj] using ih

theorem get?_insertSorted_of_ne (h : k ≠ key) :
    Fields.get? k (insertSorted key value d) = Fields.get? k d := by
  induction d with
  | nil => simp [insertSorted, Fields.get?, h.symm]
  | cons f d ih =>
    obtain ⟨j, w⟩ := f
    rw [insertSorted]
    split
    · next hj =>
      subst hj
      simp [Fields.get?, h.symm]
    · split
      · simp [Fields.get?, h.symm]
      · rw [Fields.get?, Fields.get?, ih]

/-- The only new key is that of the new field. -/
theorem mem_keys_insertSorted :
    k ∈ Fields.keys (insertSorted key value d) ↔ k = key ∨ k ∈ Fields.keys d := by
  rw [← not_iff_not, not_or, ← Fields.get?_eq_none_iff, ← Fields.get?_eq_none_iff]
  by_cases h : k = key
  · simp [h, get?_insertSorted_self]
  · simp [h, get?_insertSorted_of_ne h]

/-- A field put at its place leaves the others in order. -/
theorem Increasing.insertSorted (h : Increasing d) : Increasing (insertSorted key value d) := by
  -- on the fields, as the place is looked for: the key is there, is smaller, or goes further back
  induction d with
  | nil => exact List.pairwise_singleton _ _
  | cons f d ih =>
    obtain ⟨j, w⟩ := f
    obtain ⟨hleast, hd⟩ := increasing_cons.mp h
    rw [Query.insertSorted]
    split
    · next hj =>
      subst hj
      exact increasing_cons.mpr ⟨hleast, hd⟩
    · next hj =>
      split
      · next hlt =>
        refine increasing_cons.mpr ⟨?_, h⟩
        intro k hk
        rcases List.mem_cons.mp hk with rfl | hk
        · exact hlt
        · exact List.lt_trans hlt (hleast k hk)
      · next hlt =>
        refine increasing_cons.mpr ⟨?_, ih hd⟩
        intro k hk
        rcases mem_keys_insertSorted.mp hk with rfl | hk
        · exact utf8_lt_of_not_lt hj hlt
        · exact hleast k hk

/-! ## All clauses -/

variable {q : Query} {clauses before after : List (String × Literal)}

/-- Keys that increase still do so after further clauses. -/
theorem increasing_foldl_insert (h : Increasing q.fields) :
    Increasing (clauses.foldl insert q).fields := by
  induction clauses generalizing q with
  | nil => exact h
  | cons clause clauses ih => exact ih (q := q.insert clause) h.insertSorted

/-- The keys of a query increase. -/
theorem increasing_ofClauses : Increasing (ofClauses clauses).fields :=
  increasing_foldl_insert (q := empty) .nil

/-- Further clauses bring their keys, and take none away. -/
theorem mem_keys_foldl_insert :
    k ∈ Fields.keys (clauses.foldl insert q).fields ↔
      k ∈ Fields.keys q.fields ∨ k ∈ clauses.map Prod.fst := by
  induction clauses generalizing q with
  | nil => simp
  | cons clause clauses ih =>
    rw [List.foldl_cons, ih, insert, mem_keys_insertSorted, List.map_cons, List.mem_cons]
    tauto

/-- The keys of a query are those of its clauses. -/
theorem mem_keys_ofClauses :
    k ∈ Fields.keys (ofClauses clauses).fields ↔ k ∈ clauses.map Prod.fst := by
  rw [ofClauses, mem_keys_foldl_insert]
  simp [empty, Fields.keys]

/-- Clauses with other keys do not touch a value. -/
theorem get?_foldl_insert_of_not_mem (h : k ∉ clauses.map Prod.fst) :
    Fields.get? k (clauses.foldl insert q).fields = Fields.get? k q.fields := by
  induction clauses generalizing q with
  | nil => rfl
  | cons clause clauses ih =>
    rw [List.map_cons, List.mem_cons, not_or] at h
    obtain ⟨hne, hrest⟩ := h
    rw [List.foldl_cons, ih hrest, insert, get?_insertSorted_of_ne hne]

/-- The last clause with a key decides its value. -/
theorem get?_ofClauses_of_last (h : key ∉ after.map Prod.fst) :
    Fields.get? key (ofClauses (before ++ (key, value) :: after)).fields = some value := by
  rw [ofClauses, List.foldl_append, List.foldl_cons, get?_foldl_insert_of_not_mem h, insert,
    get?_insertSorted_self]

end DocLoad.Query
