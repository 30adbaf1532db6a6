import DocLoad.Proofs.Store.Identifiers

/-!
# DocLoad.Proofs.Store.Insertion — what an insertion of many documents stores

An insertion goes through its documents and gives those without identifier the next generated ones;
`identified` is the list that comes out.  If no two identifiers meet on the way, that list is what
the insertion appends (`exists_insertAll`, `documents_insertAll`); if two do, it fails with a
duplicate (`insertAll_eq_error`).

Where generated identifiers are fresh (`FreshFor`), only the identifiers that the documents bring
along can meet, and `uniqueIds_identified` says that it is enough to keep those apart.
-/

namespace DocLoad

theorem Bson.objectId_beq_eq_false {a b : ObjectId} (h : a ≠ b) :
    (objectId a == objectId b) = false := by
  change Bson.beq _ _ = false
  simp [Bson.beq, h]

/-! ## Documents with and without identifier -/

/-- No two identifiers that the documents bring along are equal. -/
def SuppliedApart (ds : List Document) : Prop :=
  ds.Pairwise fun d e => ∀ a ∈ d.id?, ∀ b ∈ e.id?, (a == b) = false

/-- The identifiers that are generated for the documents differ from one another and from those
that the documents bring along. -/
structure FreshFor (gen : Nat → ObjectId) (ds : List Document) : Prop where
  distinct : ∀ n < missingIds ds, ∀ m < n, gen m ≠ gen n
  unused : ∀ d ∈ ds, ∀ id ∈ d.id?, ∀ n < missingIds ds, (id == .objectId (gen n)) = false

section

variable {d : Document} {ds : List Document}

theorem missingIds_cons : missingIds (d :: ds) = missingIds [d] + missingIds ds := by
  simp only [missingIds, List.countP_cons, List.countP_nil]
  omega

/-- A document without identifier counts from its place on. -/
theorem missingIds_take_lt {i j : Nat} (hi : i < ds.length) (hij : i < j)
    (hnone : ds[i].id? = none) : missingIds (ds.take i) < missingIds (ds.take j) := by
  have hnext : missingIds (ds.take (i + 1)) = missingIds (ds.take i) + 1 := by
    rw [missingIds, missingIds, List.take_succ_eq_append_getElem hi, List.countP_append]
    simp [hnone]
  have hle : missingIds (ds.take (i + 1)) ≤ missingIds (ds.take j) :=
    (List.take_sublist_take_left hij).countP_le
  omega

end

namespace Collection

variable {gen : Nat → ObjectId}

/-! ## One document -/

theorem withId_of_some {fresh : ObjectId} {d : Document} {id : Bson} (h : d.id? = some id) :
    withId fresh d = (id, d) := by
  rw [withId, h]

theorem withId_of_none {fresh : ObjectId} {d : Document} (h : d.id? = none) :
    withId fresh d = (.objectId fresh, (idKey, .objectId fresh) :: d) := by
  rw [withId, h]

/-- Two documents get different identifiers if every pair of those that they bring along or may be
given differs. -/
theorem withId_apart {d e : Document} {m n : ObjectId}
    (hboth : ∀ a ∈ d.id?, ∀ b ∈ e.id?, (a == b) = false)
    (hleft : e.id? = none → ∀ a ∈ d.id?, (a == .objectId n) = false)
    (hright : d.id? = none → ∀ b ∈ e.id?, (b == .objectId m) = false)
    (hneither : d.id? = none → e.id? = none → m ≠ n) :
    ((withId m d).1 == (withId n e).1) = false := by
  cases hd : d.id? with
  | some a =>
    cases he : e.id? with
    | some b =>
      rw [withId_of_some hd, withId_of_some he]
      exact hboth a hd b he
    | none =>
      rw [withId_of_some hd, withId_of_none he]
      exact hleft he a hd
  | none =>
    cases he : e.id? with
    | some b =>
      rw [withId_of_none hd, withId_of_some he, Bson.beq_comm]
      exact hright hd b he
    | none =>
      rw [withId_of_none hd, withId_of_none he]
      exact Bson.objectId_beq_eq_false (hneither hd he)

/-! ## Many documents -/

/-- The documents as they are stored: those without identifier get the next generated ones, counted
from `drawn`. -/
def identified (gen : Nat → ObjectId) (drawn : Nat) : List Document → List Document
  | [] => []
  | d :: ds => (withId (gen drawn) d).2 :: identified gen (drawn + missingIds [d]) ds

@[simp]
theorem length_identified (drawn : Nat) (ds : List Document) :
    (identified gen drawn ds).length = ds.length := by
  induction ds generalizing drawn with
  | nil => rfl
  | cons d ds ih => rw [identified, List.length_cons, List.length_cons, ih]

/-- How many identifiers were drawn for a document depends on those before it. -/
theorem getElem_identified {drawn i : Nat} {ds : List Document} (hi : i < ds.length)
    (hi' : i < (identified gen drawn ds).length) :
    (identified gen drawn ds)[i] =
      (withId (gen (drawn + missingIds (ds.take i))) ds[i]).2 := by
  induction ds generalizing drawn i with
  | nil => cases hi
  | cons d ds ih =>
    cases i with
    | zero => rfl
    | succ i =>
      have hdrawn : drawn + missingIds ((d :: ds).take (i + 1)) =
          drawn + missingIds [d] + missingIds (ds.take i) := by
        rw [List.take_succ_cons, missingIds_cons, Nat.add_assoc]
      rw [hdrawn]
      exact ih (Nat.lt_of_succ_lt_succ hi) _

/-- A batch that goes through appends its documents with their identifiers. -/
theorem documents_insertAll {ds : List Document} {c c' : Collection} {inserted : List Bson}
    (h : c.insertAll gen ds = .ok (inserted, c')) :
    c'.documents = c.documents ++ identified gen c.drawn ds := by
  induction ds generalizing c inserted with
  | nil =>
    rw [insertAll_nil] at h
    cases h
    exact (List.append_nil _).symm
  | cons d ds ih =>
    rw [insertAll_cons] at h
    obtain ⟨⟨id, c₁⟩, h₁, h⟩ := Except.bind_eq_ok.mp h
    obtain ⟨⟨rest, c₂⟩, h₂, h⟩ := Except.bind_eq_ok.mp h
    cases h
    obtain ⟨-, -, rfl⟩ := insertNext_eq_ok.mp h₁
    rw [ih h₂, push, identified, List.append_assoc]
    rfl

/-- The only way for an insertion to fail is an identifier that is taken. -/
theorem insertAll_eq_error {ds : List Document} {c : Collection} {e : StoreError}
    (h : c.insertAll gen ds = .error e) : ∃ id, e = .duplicateId c.name id := by
  induction ds generalizing c with
  | nil =>
    rw [insertAll_nil] at h
    cases h
  | cons d ds ih =>
    rw [insertAll_cons] at h
    rcases Except.bind_eq_error.mp h with h₁ | ⟨⟨id, c₁⟩, h₁, h⟩
    · exact ⟨_, (insertNext_eq_error.mp h₁).2⟩
    · obtain ⟨-, -, rfl⟩ := insertNext_eq_ok.mp h₁
      rcases Except.bind_eq_error.mp h with h₂ | ⟨_, _, h⟩
      · obtain ⟨id, hid⟩ := ih h₂
        exact ⟨id, hid⟩
      · cases h

/-- An insertion goes through if identifiers are still unique after it. -/
theorem exists_insertAll {ds : List Document} {c : Collection}
    (hunique : UniqueIds (c.ids ++ (identified gen c.drawn ds).map Document.id?)) :
    ∃ inserted c', c.insertAll gen ds = .ok (inserted, c') := by
  induction ds generalizing c with
  | nil => exact ⟨[], c, insertAll_nil gen c⟩
  | cons d ds ih =>
    rw [identified, List.map_cons, id?_withId] at hunique
    have hfree : c.holdsId (withId (gen c.drawn) d).1 = false := by
      rw [holdsId_eq_false_iff]
      intro a ha
      have hmeet := (List.pairwise_append.mp hunique.apart).2.2
      exact hmeet _ ha _ List.mem_cons_self a rfl _ rfl
    have hnext : c.insertNext gen d = .ok ((withId (gen c.drawn) d).1, c.push gen d) :=
      insertNext_eq_ok.mpr ⟨hfree, rfl, rfl⟩
    have hrest : UniqueIds ((c.push gen d).ids ++
        (identified gen (c.push gen d).drawn ds).map Document.id?) := by
      rw [ids_push, List.append_assoc]
      exact hunique
    obtain ⟨inserted, c', h⟩ := ih hrest
    rw [insertAll_cons]
    exact ⟨_, c', Except.bind_eq_ok.mpr ⟨_, hnext, Except.bind_eq_ok.mpr ⟨_, h, rfl⟩⟩⟩

/-! ## Unique identifiers -/

/-- The identifier at a position is its own one or the next one that was drawn. -/
theorem id?_getElem_identified {drawn i : Nat} {ds : List Document} (hi : i < ds.length)
    (hi' : i < (identified gen drawn ds).length) :
    (identified gen drawn ds)[i].id? =
      some (withId (gen (drawn + missingIds (ds.take i))) ds[i]).1 := by
  rw [getElem_identified hi hi', id?_withId]

/-- Identifiers that were brought along and differ, and fresh ones, are unique together. -/
theorem uniqueIds_identified {ds : List Document} (happart : SuppliedApart ds)
    (hfresh : FreshFor gen ds) : UniqueIds ((identified gen 0 ds).map Document.id?) := by
  constructor
  · intro hnone
    obtain ⟨d, hd, hid⟩ := List.mem_map.mp hnone
    obtain ⟨i, hi, rfl⟩ := List.getElem_of_mem hd
    rw [id?_getElem_identified (by simpa using hi) hi] at hid
    cases hid
  rw [List.pairwise_map, List.pairwise_iff_getElem]
  intro i j hi hj hij
  have hi' : i < ds.length := by simpa using hi
  have hj' : j < ds.length := by simpa using hj
  rw [id?_getElem_identified hi' hi, id?_getElem_identified hj' hj]
  intro a ha b hb
  cases ha
  cases hb
  rw [Nat.zero_add, Nat.zero_add]
  -- what is drawn for a document stays below the number of all that are drawn
  have hdrawn : ∀ k (hk : k < ds.length), ds[k].id? = none →
      missingIds (ds.take k) < missingIds ds := by
    intro k hk hnone
    have hlt := missingIds_take_lt hk hk hnone
    rwa [List.take_length] at hlt
  -- either of the two identifiers was brought along or drawn
  apply withId_apart
  · exact List.pairwise_iff_getElem.mp happart i j hi' hj' hij
  · intro hnone a ha
    exact hfresh.unused _ (List.getElem_mem hi') a ha _ (hdrawn j hj' hnone)
  · intro hnone b hb
    exact hfresh.unused _ (List.getElem_mem hj') b hb _ (hdrawn i hi' hnone)
  · intro hi₀ hj₀
    exact hfresh.distinct _ (hdrawn j hj' hj₀) _ (missingIds_take_lt hi' hij hi₀)

/-- If identifiers are unique after the insertion, those that were brought along differ. -/
theorem suppliedApart_of_uniqueIds {drawn : Nat} {ds : List Document}
    (h : UniqueIds ((identified gen drawn ds).map Document.id?)) : SuppliedApart ds := by
  have hapart := List.pairwise_map.mp h.apart
  rw [List.pairwise_iff_getElem] at hapart
  rw [SuppliedApart, List.pairwise_iff_getElem]
  intro i j hi hj hij a ha b hb
  have hi' : i < (identified gen drawn ds).length := by simpa using hi
  have hj' : j < (identified gen drawn ds).length := by simpa using hj
  apply hapart i j hi' hj' hij
  · rw [id?_getElem_identified hi hi', withId_of_some ha, Option.mem_some]
  · rw [id?_getElem_identified hj hj', withId_of_some hb, Option.mem_some]

end Collection
end DocLoad
