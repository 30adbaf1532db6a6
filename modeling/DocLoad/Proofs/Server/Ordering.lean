import DocLoad.Proofs.Store.Identifiers
import DocLoad.Server.Connection
import Mathlib.Data.List.Forall2
import Mathlib.Data.List.Nodup

/-!
# DocLoad.Proofs.Server.Ordering — identifiers in the order of their documents

What inserts documents at a server, a `Driver`, tells their identifiers by a map from positions.
The map gives its entries in any order, and they are sorted by position.

* `Listing.values_of_sorted` — a map from every position has only one sorted list of entries,
  whatever order they had and however they were sorted.  Positions are different, so it does not
  matter what a sort does with equal ones.
* `inserted_of_insertFrom` — the driver of a connection does give such a map.  It may need several
  commands; the induction is on the replies to them.  Each identifier is that of its document as
  some command carried it.

`insertMany_in_order` is about the call, over any driver and over a connection.
-/

namespace DocLoad.Server

/-! ## Entries in any order -/

/-- The entries of a map from the positions of a list to its items, in the order in which the map
gives them. -/
structure Listing (ids : List Bson) (entries : List (Nat × Bson)) : Prop where
  once : (entries.map (·.1)).Nodup
  mem_iff (i : Nat) (id : Bson) : (i, id) ∈ entries ↔ ids[i]? = some id

/-- A way to sort entries by position; what it does with equal positions is left open. -/
def SortsByPosition (sort : List (Nat × Bson) → List (Nat × Bson)) : Prop :=
  ∀ entries, (sort entries).Perm entries ∧ (sort entries).Pairwise fun a b => a.1 ≤ b.1

variable {ids : List Bson} {entries other sorted : List (Nat × Bson)}

/-- Merge sort by position is such a way to sort. -/
theorem sortsByPosition_mergeSort :
    SortsByPosition fun entries => entries.mergeSort fun a b => a.1 ≤ b.1 := by
  intro entries
  refine ⟨List.mergeSort_perm _ _, ?_⟩
  have htrans : ∀ a b c : Nat × Bson, decide (a.1 ≤ b.1) → decide (b.1 ≤ c.1) →
      decide (a.1 ≤ c.1) := by
    simp only [decide_eq_true_eq]
    omega
  have htotal : ∀ a b : Nat × Bson, decide (a.1 ≤ b.1) || decide (b.1 ≤ a.1) := by
    simp only [Bool.or_eq_true, decide_eq_true_eq]
    omega
  exact (List.pairwise_mergeSort htrans htotal entries).imp of_decide_eq_true

theorem pairwise_mapIdx (ids : List Bson) :
    (ids.mapIdx Prod.mk).Pairwise fun a b => a.1 < b.1 := by
  rw [List.pairwise_iff_getElem]
  intro i j hi hj hij
  rwa [List.getElem_mapIdx, List.getElem_mapIdx]

/-- The items of a list under their positions are a listing of it. -/
theorem listing_mapIdx (ids : List Bson) : Listing ids (ids.mapIdx Prod.mk) where
  once := by
    rw [List.nodup_iff_pairwise_ne, List.pairwise_map]
    exact (pairwise_mapIdx ids).imp fun h => Nat.ne_of_lt h
  mem_iff i id := by
    rw [List.mem_mapIdx]
    constructor
    · rintro ⟨k, hk, h⟩
      cases h
      exact List.getElem?_eq_getElem hk
    · intro h
      obtain ⟨hi, rfl⟩ := List.getElem?_eq_some_iff.mp h
      exact ⟨i, hi, rfl⟩

theorem values_mapIdx (ids : List Bson) : (ids.mapIdx Prod.mk).map (·.2) = ids := by
  apply List.ext_getElem
  · rw [List.length_map, List.length_mapIdx]
  · intro i hi hi'
    rw [List.getElem_map, List.getElem_mapIdx]

namespace Listing

/-- The entries of a map may come in any order. -/
theorem of_perm (h : Listing ids entries) (hperm : other.Perm entries) : Listing ids other where
  once := (hperm.map _).nodup_iff.mpr h.once
  mem_iff i id := hperm.mem_iff.trans (h.mem_iff i id)

/-- Two listings of the same items have the same entries. -/
theorem perm (h : Listing ids entries) (h' : Listing ids other) : entries.Perm other := by
  refine (List.perm_ext_iff_of_nodup h.once.of_map h'.once.of_map).mpr ?_
  rintro ⟨i, id⟩
  rw [h.mem_iff, h'.mem_iff]

/-- Sorted by position, the entries are the items in order. -/
theorem values_of_sorted (h : Listing ids sorted) (hsorted : sorted.Pairwise fun a b => a.1 ≤ b.1) :
    sorted.map (·.2) = ids := by
  -- no position comes twice, so the positions even increase
  have hne : sorted.Pairwise fun a b => a.1 ≠ b.1 := List.pairwise_map.mp h.once
  have hincreasing : sorted.Pairwise fun a b => a.1 < b.1 :=
    (hsorted.and hne).imp fun hab => Nat.lt_of_le_of_ne hab.1 hab.2
  have heq : sorted = ids.mapIdx Prod.mk := by
    refine List.Perm.eq_of_pairwise ?_ hincreasing (pairwise_mapIdx ids) ?_
    · intro a b _ _ hab hba
      exact absurd hba (Nat.lt_asymm hab)
    · exact h.perm (listing_mapIdx ids)
  rw [heq, values_mapIdx]

end Listing

/-- Sorted by position, the entries of a map give the items in the order of the list. -/
theorem values_sort {sort : List (Nat × Bson) → List (Nat × Bson)} (hsort : SortsByPosition sort)
    (h : Listing ids entries) : (sort entries).map (·.2) = ids :=
  (h.of_perm (hsort entries).1).values_of_sorted (hsort entries).2

theorem inOrder_eq (h : Listing ids entries) : inOrder entries = ids :=
  values_sort sortsByPosition_mergeSort h

/-! ## Sending documents -/

namespace Connection

variable {gen : Nat → ObjectId} {c c' : Connection} {ds : List Document} {reply : Document}
  {rest : List Document}

/-- The connection after documents were sent, with the replies that are left. -/
def sending (gen : Nat → ObjectId) (ds : List Document) (c : Connection)
    (rest : List Document) : Connection :=
  { c with
    replies := rest
    sent := c.sent ++ [insert c.ns ((withIds gen c.drawn ds).map (·.2))]
    drawn := c.drawn + (ds.filter fun d => d.id?.isNone).length }

/-- How many documents a server took. -/
def taken (reply : Document) : Except StoreError Nat := do
  checkOk reply
  written reply

/-- Identifiers under positions that are counted from the given one. -/
def positioned (position : Nat) (ids : List Bson) : List (Nat × Bson) :=
  ids.mapIdx fun i id => (position + i, id)

/-- The positions of further identifiers go on where those of the first ones end. -/
theorem positioned_append (position : Nat) (ids more : List Bson) :
    positioned position (ids ++ more) =
      positioned position ids ++ positioned (position + ids.length) more := by
  have hshift : (fun i (id : Bson) => (position + (i + ids.length), id)) =
      fun i id => (position + ids.length + i, id) := by
    funext i id
    rw [Nat.add_comm i, Nat.add_assoc]
  rw [positioned, List.mapIdx_append, hshift]
  rfl

theorem positioned_map_fst (position : Nat) (pairs : List (Bson × Document)) :
    (pairs.zipIdx.map fun (p, i) => (position + i, p.1)) =
      positioned position (pairs.map (·.1)) := by
  rw [positioned, List.mapIdx_eq_zipIdx_map, List.zipIdx_map, List.map_map]
  rfl

/-- The identifiers of the first documents of a command. -/
def firstIds (gen : Nat → ObjectId) (c : Connection) (ds : List Document) (n : Nat) : List Bson :=
  ((withIds gen c.drawn ds).take n).map (·.1)

/-- What a reply to a command leads to: if it took all documents the insertion is over, and
otherwise the rest goes out again. -/
theorem insertFrom_cons (gen : Nat → ObjectId) (position : Nat) (ds : List Document)
    (c : Connection) (reply : Document) (rest : List Document) :
    insertFrom gen position ds c (reply :: rest) =
      match taken reply with
      | .error e => (.error e, sending gen ds c rest)
      | .ok n =>
        let entries := positioned position (firstIds gen c ds n)
        if ds.length ≤ n then (.ok entries, sending gen ds c rest)
        else
          let (more, c') :=
            insertFrom gen (position + n) (ds.drop n) (sending gen ds c rest) rest
          (more.map (entries ++ ·), c') := by
  simp only [firstIds, ← positioned_map_fst]
  rfl

/-- An insertion goes through in one command, or the command took some documents and the rest goes
through. -/
theorem insertFrom_cons_eq_ok {position : Nat} {entries : List (Nat × Bson)}
    (h : insertFrom gen position ds c (reply :: rest) = (.ok entries, c')) :
    ∃ n, (ds.length ≤ n ∧ entries = positioned position (firstIds gen c ds n) ∧
        c' = sending gen ds c rest) ∨
      (n < ds.length ∧ ∃ more, entries = positioned position (firstIds gen c ds n) ++ more ∧
        insertFrom gen (position + n) (ds.drop n) (sending gen ds c rest) rest =
          (.ok more, c')) := by
  rw [insertFrom_cons] at h
  split at h
  · cases h
  · next n _ =>
    refine ⟨n, ?_⟩
    split at h
    · next hall =>
      cases h
      exact .inl ⟨hall, rfl, rfl⟩
    · next hsome =>
      obtain ⟨hentries, hc⟩ := Prod.mk.inj h
      obtain ⟨more, hmore, rfl⟩ := Except.map_eq_ok.mp hentries
      exact .inr ⟨Nat.lt_of_not_le hsome, more, rfl, Prod.ext hmore hc⟩

/-! ## The driver of a connection -/

/-- The identifier is that of the document as some command of the connection carried it. -/
def Carried (gen : Nat → ObjectId) (c : Connection) (d : Document) (id : Bson) : Prop :=
  ∃ k documents, insert c.ns documents ∈ c.sent ∧ (Collection.withId (gen k) d).2 ∈ documents ∧
    (Collection.withId (gen k) d).2.id? = some id

/-- An identifier that a command carried stays so when further commands are sent. -/
theorem Carried.mono {d : Document} {id : Bson} (h : Carried gen c d id) (hns : c'.ns = c.ns)
    (hsent : c.sent <+: c'.sent) : Carried gen c' d id := by
  obtain ⟨k, documents, hcommand, hmem, hid⟩ := h
  exact ⟨k, documents, hns ▸ hsent.subset hcommand, hmem, hid⟩

theorem length_withIds (gen : Nat → ObjectId) (drawn : Nat) (ds : List Document) :
    (withIds gen drawn ds).length = ds.length := by
  induction ds generalizing drawn with
  | nil => rfl
  | cons d ds ih => rw [withIds, List.length_cons, ih, List.length_cons]

theorem length_firstIds {n : Nat} (h : n ≤ ds.length) : (firstIds gen c ds n).length = n := by
  rw [firstIds, List.length_map, List.length_take, length_withIds, Nat.min_eq_left h]

/-- Each document is paired with an identifier that it brought along or was given. -/
theorem forall₂_withIds (gen : Nat → ObjectId) (drawn : Nat) (ds : List Document) :
    List.Forall₂ (fun d pair => ∃ k, pair = Collection.withId (gen k) d) ds
      (withIds gen drawn ds) := by
  induction ds generalizing drawn with
  | nil => exact .nil
  | cons d ds ih => exact .cons ⟨drawn, rfl⟩ (ih _)

/-- The identifiers of a command are those of its documents. -/
theorem carried_sending (gen : Nat → ObjectId) (ds : List Document) (c : Connection)
    (rest : List Document) (n : Nat) :
    List.Forall₂ (Carried gen (sending gen ds c rest)) (ds.take n) (firstIds gen c ds n) := by
  have hmem : ∀ pair ∈ (withIds gen c.drawn ds).take n, pair ∈ withIds gen c.drawn ds :=
    fun _ => List.mem_of_mem_take
  have hpairs := (List.forall₂_take n (forall₂_withIds gen c.drawn ds)).flip
  have hboth := ((List.forall₂_and_left _ _).mpr ⟨hmem, hpairs⟩).flip
  rw [firstIds, List.forall₂_map_right_iff]
  refine hboth.imp ?_
  rintro d _ ⟨hpair, k, rfl⟩
  exact ⟨k, _, List.mem_append_right _ (List.mem_singleton_self _), List.mem_map_of_mem hpair,
    Collection.id?_withId _ d⟩

/-- An insertion that goes through gives an identifier for each document, under its position. -/
theorem inserted_of_insertFrom {position : Nat} {entries : List (Nat × Bson)}
    {replies : List Document}
    (h : insertFrom gen position ds c replies = (.ok entries, c')) :
    c'.ns = c.ns ∧ c.sent <+: c'.sent ∧
      ∃ ids, entries = positioned position ids ∧ List.Forall₂ (Carried gen c') ds ids := by
  induction replies generalizing position ds c entries with
  | nil => cases h
  | cons reply rest ih =>
    have hsent : c.sent <+: (sending gen ds c rest).sent := List.prefix_append _ _
    obtain ⟨n, ⟨hall, rfl, rfl⟩ | ⟨hsome, more, rfl, hmore⟩⟩ := insertFrom_cons_eq_ok h
    · -- the server took all documents
      refine ⟨rfl, hsent, _, rfl, ?_⟩
      have hcarried := carried_sending gen ds c rest n
      rwa [List.take_of_length_le hall] at hcarried
    · -- those that it took keep their identifiers, and the others get theirs from later commands
      obtain ⟨hns, hsent', ids, rfl, hids⟩ := ih hmore
      refine ⟨hns, hsent.trans hsent', firstIds gen c ds n ++ ids, ?_, ?_⟩
      · rw [positioned_append, length_firstIds hsome.le]
      · have hfirst := (carried_sending gen ds c rest n).imp fun d id hid => hid.mono hns hsent'
        have hall : List.Forall₂ (Carried gen c') (ds.take n ++ ds.drop n)
            (firstIds gen c ds n ++ ids) := List.rel_append hfirst hids
        rwa [List.take_append_drop] at hall

end Connection

/-! ## The call -/

/-- What inserts documents at a server: it gives their identifiers by a map from positions. -/
def Driver (σ : Type) : Type :=
  List Document → σ → Except StoreError (List (Nat × Bson)) × σ

/-- Inserts documents through a driver and puts their identifiers in order. -/
def insertManyBy {σ : Type} (driver : Driver σ) (sort : List (Nat × Bson) → List (Nat × Bson))
    (ds : List Document) (s : σ) : Except StoreError (List Bson) × σ :=
  let (entries, s') := driver ds s
  (entries.map fun entries => (sort entries).map (·.2), s')

/-- The driver of a connection, with the entries of its map in some order. -/
def Connection.driver (gen : Nat → ObjectId) (order : List (Nat × Bson) → List (Nat × Bson)) :
    Driver Connection :=
  fun ds c =>
    match checkCall (.insertMany ds) with
    | .error e => (.error e, c)
    | .ok () =>
      let (entries, c') := c.insertFrom gen 0 ds c.replies
      (entries.map order, c')

theorem Connection.listing_positioned (ids : List Bson) : Listing ids (positioned 0 ids) := by
  simp only [positioned, Nat.zero_add]
  exact listing_mapIdx ids

/-- Over a connection neither the order of the entries matters nor the way to sort them. -/
theorem Connection.answer_insertMany (gen : Nat → ObjectId) (ds : List Document) (c : Connection)
    {order sort : List (Nat × Bson) → List (Nat × Bson)}
    (horder : ∀ entries, (order entries).Perm entries) (hsort : SortsByPosition sort) :
    answer gen (.insertMany ds) c = insertManyBy (driver gen order) sort ds c := by
  rw [answer, insertManyBy, driver]
  cases checkCall (.insertMany ds) with
  | error e => rfl
  | ok _ =>
    simp only [perform]
    cases hinsert : c.insertFrom gen 0 ds c.replies with
    | mk result c' =>
      cases result with
      | error e => rfl
      | ok entries =>
        -- the driver gives a listing, so both sides are its items
        obtain ⟨-, -, ids, rfl, -⟩ := inserted_of_insertFrom hinsert
        have hlisting := listing_positioned ids
        have hin : inOrder (positioned 0 ids) = ids := inOrder_eq hlisting
        have hout : (sort (order (positioned 0 ids))).map (·.2) = ids :=
          values_sort hsort (hlisting.of_perm (horder _))
        simp only [Except.map, hin, hout]
        rfl

/-- The identifiers in the answer are those that commands carried, one for each document. -/
theorem Connection.carried_of_answer {gen : Nat → ObjectId} {ds : List Document}
    {c c' : Connection} {ids : List Bson} (h : answer gen (.insertMany ds) c = (.ok ids, c')) :
    List.Forall₂ (Carried gen c') ds ids := by
  rw [answer] at h
  split at h
  · cases h
  · obtain ⟨hresult, hc⟩ := Prod.mk.inj h
    obtain ⟨entries, hentries, rfl⟩ := Except.map_eq_ok.mp hresult
    obtain ⟨-, -, ids, rfl, hids⟩ := inserted_of_insertFrom (Prod.ext hentries hc)
    rwa [inOrder_eq (listing_positioned ids)]

/-- The identifiers of inserted documents come back in the order of the documents.

If a driver gives a map from every position to the identifier of the document there, the call
returns the list of these identifiers, in whatever order the map gives its entries and however they
are sorted by position.  Over a connection the answer is the same for every order and every sort,
and when it is a list, it has one identifier for each document, in order, which is that of the
document as some command carried it. -/
theorem insertMany_in_order {sort : List (Nat × Bson) → List (Nat × Bson)}
    (hsort : SortsByPosition sort) :
    (∀ (σ : Type) (driver : Driver σ) ds s entries s' ids, driver ds s = (.ok entries, s') →
      Listing ids entries → insertManyBy driver sort ds s = (.ok ids, s')) ∧
    ∀ (gen : Nat → ObjectId) (ds : List Document) (c : Connection),
      (∀ order : List (Nat × Bson) → List (Nat × Bson), (∀ entries, (order entries).Perm entries) →
        Connection.answer gen (.insertMany ds) c =
          insertManyBy (Connection.driver gen order) sort ds c) ∧
      ∀ (ids : List Bson) c', Connection.answer gen (.insertMany ds) c = (.ok ids, c') →
        List.Forall₂ (Connection.Carried gen c') ds ids := by
  refine ⟨?_, fun gen ds c => ⟨?_, ?_⟩⟩
  · intro σ driver ds s entries s' ids hdriver hlisting
    rw [insertManyBy, hdriver]
    exact congrArg (·, s') (congrArg Except.ok (values_sort hsort hlisting))
  · intro order horder
    exact Connection.answer_insertMany gen ds c horder hsort
  · intro ids c' h
    exact Connection.carried_of_answer h

/-- Three documents in two commands, because the server takes only two of them at first; the third
one is given another identifier the second time.  The entries come in reverse. -/
theorem insertMany_in_order_reversed :
    let gen : Nat → ObjectId := fun n => ⟨BitVec.ofNat 96 n⟩
    let sort : List (Nat × Bson) → List (Nat × Bson) :=
      fun entries => entries.mergeSort fun a b => a.1 ≤ b.1
    let ds : List Document := [[("_id", .int32 7)], [("x", .null)], []]
    let ids : List Bson := [.int32 7, .objectId (gen 0), .objectId (gen 2)]
    let entries := [(2, .objectId (gen 2)), (1, .objectId (gen 0)), (0, .int32 7)]
    let c := Connection.fresh ⟨"d", "c"⟩
      [[("ok", .int32 1), ("n", .int32 2)], [("ok", .int32 1), ("n", .int32 1)]]
    let driver := Connection.driver gen List.reverse
    let c' := (driver ds c).2
    SortsByPosition sort ∧ driver ds c = (.ok entries, c') ∧ Listing ids entries ∧
      insertManyBy driver sort ds c = (.ok ids, c') ∧
      Connection.answer gen (.insertMany ds) c = (.ok ids, c') := by
  intro gen sort ds ids entries c driver c'
  have hdriver : driver ds c = (.ok entries, c') := rfl
  have hreverse : entries.Perm (Connection.positioned 0 ids) :=
    List.reverse_perm (Connection.positioned 0 ids)
  have hlisting : Listing ids entries := (Connection.listing_positioned ids).of_perm hreverse
  have hinorder := insertMany_in_order sortsByPosition_mergeSort
  have hcall : insertManyBy driver sort ds c = (.ok ids, c') :=
    hinorder.1 Connection driver ds c entries c' ids hdriver hlisting
  have hanswer := (hinorder.2 gen ds c).1 List.reverse List.reverse_perm
  exact ⟨sortsByPosition_mergeSort, hdriver, hlisting, hcall, hanswer.trans hcall⟩

end DocLoad.Server
