import DocLoad.Proofs.Store.Selection
import DocLoad.Proofs.Number.Exact
import DocLoad.Proofs.Store.Written

/-!
# DocLoad.Proofs.Store.KeyLookup — queries by identifier

The identifiers of a collection differ as values (`UniqueIds`), but a filter compares more loosely:
a number of another type can match, and an array matches if one of its items does.  So a query by
identifier can find several documents.  It finds at most one whose identifier is of each kind:

* `beq_of_valueEq` — identifiers of one kind that match the same value are equal.  For a double this
  holds of integers that it represents exactly (`Double.eq_of_numEq_ofInt`), as it does all of
  32 bits.
* `find_by_id` — what a query `_id=…` finds and deletes, whatever calls the collection has answered
  since it was empty.
* `find_by_id_several` — identifiers of several kinds for one query.
-/

namespace DocLoad

namespace Bson

/-! ## Kinds of identifiers -/

/-- The types of numbers. -/
inductive NumberType where
  | int32
  | int64
  | double
deriving DecidableEq, Repr

/-- The type of a numeric value. -/
def numberType? : Bson → Option NumberType
  | .int32 _ => some .int32
  | .int64 _ => some .int64
  | .double _ => some .double
  | _ => none

/-- Whether two values are of one kind for the comparison with `v`: they are no arrays, both are
numbers of one type or both none, and no integers that a comparison with a double rounds. -/
structure OneKind (v w u : Bson) : Prop where
  noArrays : w.isArray = false ∧ u.isArray = false
  sameType : w.numberType? = u.numberType?
  exact : ¬ (v.numberType? = some .double ∧ w.numberType? = some .int64)

variable {v w u : Bson}

/-- Values of the same type are no numbers, or have the same constructor. -/
theorem cases_of_sameType (h : w.numberType? = u.numberType?) :
    (w.numberType? = none ∧ u.numberType? = none) ∨
      (∃ n m, w = .int32 n ∧ u = .int32 m) ∨ (∃ n m, w = .int64 n ∧ u = .int64 m) ∨
      ∃ x y, w = .double x ∧ u = .double y := by
  cases hw : w.numberType? with
  | none => exact .inl ⟨rfl, h.symm.trans hw⟩
  | some t =>
    refine .inr ?_
    cases w with
    | int32 n =>
      cases u with
      | int32 m => exact .inl ⟨n, m, rfl, rfl⟩
      | _ => cases h
    | int64 n =>
      cases u with
      | int64 m => exact .inr (.inl ⟨n, m, rfl, rfl⟩)
      | _ => cases h
    | double x =>
      cases u with
      | double y => exact .inr (.inr ⟨x, y, rfl, rfl⟩)
      | _ => cases h
    | _ => cases hw

/-- Without numbers, a filter compares as `==` does. -/
theorem valueEq_eq_beq (h : w.numberType? = none) : valueEq w v = (w == v) := by
  cases w with
  | int32 n => cases h
  | int64 n => cases h
  | double x => cases h
  | _ => rfl

/-- A value meets one that is no array if the two are equal. -/
theorem meets_eq_valueEq (h : w.isArray = false) : v.meets (some w) = valueEq w v := by
  cases w with
  | array items => cases h
  | _ => rfl

/-- Integers of either width match when they are the same number. -/
theorem eq_of_valueEq_integer {a b : Int64} (hw : w.integer? = some a) (hv : v.integer? = some b)
    (h : valueEq w v = true) : a = b := by
  rw [valueEq, hw, hv] at h
  exact eq_of_beq h

/-- Where one of two numbers is a double, both are compared as doubles. -/
theorem valueEq_eq_numEq {x y : Double} (hw : w.double? = some x) (hv : v.double? = some y)
    (hone : w.integer? = none ∨ v.integer? = none) : valueEq w v = x.numEq y := by
  rw [valueEq, hw, hv]
  split
  · next ha hb =>
    -- two integers would be compared as such
    rcases hone with hnone | hnone
    · rw [hnone] at ha
      cases ha
    · rw [hnone] at hb
      cases hb
  · rfl

/-- Numbers that are equal are so as doubles, if one of them is no integer. -/
theorem numEq_of_valueEq {x y : Double} (hw : w.double? = some x) (hv : v.double? = some y)
    (hone : w.integer? = none ∨ v.integer? = none) (h : valueEq w v = true) :
    x.numEq y = true := by
  rw [← valueEq_eq_numEq hw hv hone]
  exact h

/-- A number matches only numbers. -/
theorem exists_double?_of_valueEq {x : Double} (hw : w.double? = some x)
    (h : valueEq w v = true) : ∃ y, v.double? = some y := by
  cases v with
  | int32 n => exact ⟨_, rfl⟩
  | int64 n => exact ⟨_, rfl⟩
  | double y => exact ⟨y, rfl⟩
  | _ => cases w <;> cases hw <;> cases h

/-- Doubles that match the same value are equal. -/
theorem numEq_of_valueEq_double {x y : Double} (hx : valueEq (.double x) v = true)
    (hy : valueEq (.double y) v = true) : x.numEq y = true := by
  obtain ⟨z, hz⟩ := exists_double?_of_valueEq rfl hx
  have hxz : x.numEq z = true := numEq_of_valueEq rfl hz (.inl rfl) hx
  have hyz : y.numEq z = true := numEq_of_valueEq rfl hz (.inl rfl) hy
  rw [Double.numEq_comm] at hyz
  exact Double.numEq_trans hxz hyz

theorem natAbs_toInt_lt (n : Int32) : n.toInt.natAbs < Nat.pow 2 53 := by
  have hlow := n.le_toInt
  have hhigh := n.toInt_lt
  rw [Nat.pow_eq]
  omega

/-- Integers of 32 bits that match the same value are equal: a double represents them exactly. -/
theorem eq_of_valueEq_int32 {n m : Int32} (hn : valueEq (.int32 n) v = true)
    (hm : valueEq (.int32 m) v = true) : n = m := by
  rw [← Int32.toInt_inj]
  cases hint : v.integer? with
  | some k =>
    have hnk : n.toInt64 = k := eq_of_valueEq_integer rfl hint hn
    have hmk : m.toInt64 = k := eq_of_valueEq_integer rfl hint hm
    rw [← n.toInt_toInt64, ← m.toInt_toInt64, hnk, hmk]
  | none =>
    obtain ⟨z, hz⟩ := exists_double?_of_valueEq rfl hn
    have hnz : (Double.ofInt n.toInt).numEq z = true := numEq_of_valueEq rfl hz (.inr hint) hn
    have hmz : (Double.ofInt m.toInt).numEq z = true := numEq_of_valueEq rfl hz (.inr hint) hm
    rw [Double.numEq_comm] at hmz
    exact Double.eq_of_numEq_ofInt (natAbs_toInt_lt n) (natAbs_toInt_lt m)
      (Double.numEq_trans hnz hmz)

/-- Integers of 64 bits that match the same value are equal, unless that is a double. -/
theorem eq_of_valueEq_int64 {n m : Int64} (hv : v.numberType? ≠ some .double)
    (hn : valueEq (.int64 n) v = true) (hm : valueEq (.int64 m) v = true) : n = m := by
  cases hint : v.integer? with
  | some k =>
    have hnk : n = k := eq_of_valueEq_integer rfl hint hn
    have hmk : m = k := eq_of_valueEq_integer rfl hint hm
    rw [hnk, hmk]
  | none =>
    obtain ⟨z, hz⟩ := exists_double?_of_valueEq rfl hn
    cases v with
    | int32 k => cases hint
    | int64 k => cases hint
    | double y => exact absurd rfl hv
    | _ => cases hz

/-- Values of one kind that match the same value are equal. -/
theorem beq_of_valueEq (hkind : OneKind v w u) (hw : valueEq w v = true)
    (hu : valueEq u v = true) : (w == u) = true := by
  rcases cases_of_sameType hkind.sameType with
    ⟨hwNone, huNone⟩ | ⟨n, m, rfl, rfl⟩ | ⟨n, m, rfl, rfl⟩ | ⟨x, y, rfl, rfl⟩
  · -- no numbers are compared by `==`, which is transitive through `v`
    rw [valueEq_eq_beq hwNone] at hw
    rw [valueEq_eq_beq huNone, beq_comm] at hu
    exact beq_trans hw hu
  · obtain rfl := eq_of_valueEq_int32 hw hu
    exact beq_self_eq_true n
  · have hv : v.numberType? ≠ some .double := fun hv => hkind.exact ⟨hv, rfl⟩
    obtain rfl := eq_of_valueEq_int64 hv hw hu
    exact beq_self_eq_true n
  · exact numEq_of_valueEq_double hw hu

/-- What matches a value of its own type is equal to it. -/
theorem beq_of_valueEq_of_sameType (htype : w.numberType? = v.numberType?)
    (h : valueEq w v = true) : (w == v) = true := by
  rcases cases_of_sameType htype with
    ⟨hnone, -⟩ | ⟨n, m, rfl, rfl⟩ | ⟨n, m, rfl, rfl⟩ | ⟨x, y, rfl, rfl⟩
  · rw [valueEq_eq_beq hnone] at h
    exact h
  · have hnm : n.toInt64 = m.toInt64 := eq_of_valueEq_integer rfl rfl h
    have hint : n.toInt = m.toInt := by rw [← n.toInt_toInt64, hnm, m.toInt_toInt64]
    obtain rfl := Int32.toInt_inj.mp hint
    exact beq_self_eq_true n
  · exact h
  · exact h

/-- What equals a number is a number. -/
theorem exists_numberType?_of_valueEq {s : NumberType} (hw : w.numberType? = some s)
    (h : valueEq w v = true) : ∃ t, v.numberType? = some t := by
  obtain ⟨x, hx⟩ : ∃ x, w.double? = some x := by
    cases w <;> first | exact ⟨_, rfl⟩ | cases hw
  obtain ⟨y, hy⟩ := exists_double?_of_valueEq hx h
  cases v <;> first | exact ⟨_, rfl⟩ | cases hy

/-- What matches a value is equal to it, or both are numbers, of different types. -/
theorem beq_or_numbers_of_valueEq (h : valueEq w v = true) :
    (w == v) = true ∨
      ∃ s t, w.numberType? = some s ∧ v.numberType? = some t ∧ s ≠ t := by
  by_cases htype : w.numberType? = v.numberType?
  · exact .inl (beq_of_valueEq_of_sameType htype h)
  · cases hs : w.numberType? with
    | none =>
      rw [valueEq_eq_beq hs] at h
      exact .inl h
    | some s =>
      obtain ⟨t, ht⟩ := exists_numberType?_of_valueEq hs h
      rw [hs, ht, Option.some.injEq] at htype
      exact .inr ⟨s, t, rfl, ht, htype⟩

end Bson

namespace Collection

/-! ## Queries by identifier -/

/-- What a query by identifier with the text `raw`, of value `v`, finds in a collection. -/
structure KeyLookup (gen : Nat → ObjectId) (mode : Mode) (raw : String) (v : Bson) (c : Collection)
    (found : List Document) : Prop where
  /-- The documents whose identifiers match are found. -/
  finds : c.execute gen mode "find" ("_id=" ++ raw) = (.ok (.documents found), c)
  found_eq : found = c.documents.filter fun d => v.meets d.id?
  /-- The same documents are deleted with the same query. -/
  deletes : c.execute gen mode "deleteMany" ("_id=" ++ raw) =
    (.ok (.deleted found.length),
      { c with documents := c.documents.filter fun d => !v.meets d.id? })
  /-- An identifier that matches is equal to the value or an array, or both are numbers, of
  different types. -/
  matching (d : Document) (hd : d ∈ found) : ∃ w, d.id? = some w ∧
    ((w == v) = true ∨ w.isArray = true ∨
      ∃ s t, w.numberType? = some s ∧ v.numberType? = some t ∧ s ≠ t)
  /-- No two identifiers are of one kind. -/
  apart : found.Pairwise fun d e => ∀ w ∈ d.id?, ∀ u ∈ e.id?, ¬ Bson.OneKind v w u
  /-- At most one document is found if no identifier that matches is an array or a number of another
  type. -/
  single (h : ∀ d ∈ found, ∀ w ∈ d.id?, w.isArray = false ∧ w.numberType? = v.numberType?) :
    found.length ≤ 1

/-- Where any two identifiers would be of one kind, there are no two. -/
theorem length_le_one_of_apart {v : Bson} {found : List Document}
    (hids : ∀ d ∈ found, ∃ w, d.id? = some w)
    (hapart : found.Pairwise fun d e => ∀ w ∈ d.id?, ∀ u ∈ e.id?, ¬ Bson.OneKind v w u)
    (hplain : ∀ d ∈ found, ∀ w ∈ d.id?, w.isArray = false ∧ w.numberType? = v.numberType?) :
    found.length ≤ 1 := by
  match found with
  | [] => exact Nat.zero_le 1
  | [_] => exact Nat.le_refl 1
  | d :: e :: rest =>
    -- the identifiers of the first two would be of one kind
    exfalso
    have hd : d ∈ d :: e :: rest := List.mem_cons_self
    have he : e ∈ d :: e :: rest := List.mem_cons_of_mem d List.mem_cons_self
    obtain ⟨w, hw⟩ := hids d hd
    obtain ⟨u, hu⟩ := hids e he
    obtain ⟨hwArray, hwType⟩ := hplain d hd w hw
    obtain ⟨huArray, huType⟩ := hplain e he u hu
    refine List.rel_of_pairwise_cons hapart List.mem_cons_self w hw u hu
      ⟨⟨hwArray, huArray⟩, hwType.trans huType.symm, ?_⟩
    rintro ⟨hv, hw64⟩
    rw [hwType, hv] at hw64
    cases hw64

section

variable {c : Collection} {v : Bson} (hunique : UniqueIds c.ids)
include hunique

/-- A document that is found has an identifier, and the value meets it. -/
theorem matching_of_uniqueIds {d : Document}
    (hd : d ∈ c.documents.filter fun d => v.meets d.id?) :
    ∃ w, d.id? = some w ∧ v.meets (some w) = true := by
  obtain ⟨hmem, hmeets⟩ := List.mem_filter.mp hd
  cases hid : d.id? with
  | none => exact absurd hid (id?_ne_none hunique.present hmem)
  | some w =>
    rw [hid] at hmeets
    exact ⟨w, rfl, hmeets⟩

/-- Identifiers of one kind that match would be equal, and the identifiers of a collection are
not. -/
theorem apart_of_uniqueIds : (c.documents.filter fun d => v.meets d.id?).Pairwise
    fun d e => ∀ w ∈ d.id?, ∀ u ∈ e.id?, ¬ Bson.OneKind v w u := by
  have hapart := List.pairwise_map.mp hunique.apart
  refine List.pairwise_filter.mpr (hapart.imp ?_)
  intro d e hdiffer hd he w hw u hu hkind
  rw [hw, Bson.meets_eq_valueEq hkind.noArrays.1] at hd
  rw [hu, Bson.meets_eq_valueEq hkind.noArrays.2] at he
  have hequal := Bson.beq_of_valueEq hkind hd he
  rw [hdiffer w hw u hu] at hequal
  cases hequal

end

/-! ## Reading and running the query -/

section

variable {gen : Nat → ObjectId} {mode : Mode} {c : Collection} {line raw : String} {q : Query}

/-- A deletion in any mode takes away the documents that satisfy the query, and tells how many. -/
theorem execute_deleteMany_eq (hread : Session.readQuery line = .ok q)
    (hkeys : ∀ key ∈ Fields.keys q.toDocument, isOperator key = false) :
    c.execute gen mode "deleteMany" line =
      (.ok (.deleted (c.documents.filter q.toDocument.satisfies).length),
        { c with documents := c.documents.filter fun d => !q.toDocument.satisfies d }) := by
  have hcall : answer gen (Operation.deleteMany.call q.toDocument) c =
      (.ok (c.documents.filter q.toDocument.satisfies).length,
        { c with documents := c.documents.filter fun d => !q.toDocument.satisfies d }) :=
    delete_all_eq (Document.checkFilter_eq_ok.mpr hkeys) c
  rw [execute_eq .deleteMany hread (by cases mode <;> rfl)]
  exact Session.answered_of_ok hcall

/-- The query by identifier with a given text. -/
def idQuery (raw : String) : Query := ⟨[(idKey, Literal.ofChars raw.toList)]⟩

/-- The line of a look-up is one clause, unless the text has a separator in it. -/
theorem readQuery_idQuery (hraw : ¬ [',', ' '] <:+: raw.toList) :
    Session.readQuery ("_id=" ++ raw) = .ok (idQuery raw) :=
  have hkey : '=' ∉ idKey.toList ∧ ¬ [',', ' '] <:+: idKey.toList := by decide
  Session.readQuery_clause hkey hraw

theorem satisfies_idQuery (raw : String) (d : Document) :
    (idQuery raw).toDocument.satisfies d = (Literal.ofChars raw.toList).toBson.meets d.id? := by
  have hkey : '.' ∉ idKey.toList := by decide
  show Document.satisfies [(idKey, (Literal.ofChars raw.toList).toBson)] d = _
  rw [Document.satisfies, List.all_cons, List.all_nil, Bool.and_true]
  show Bson.meets _ (d.lookup? (Path.ofString idKey)) = _
  rw [Path.ofString_of_not_mem hkey]
  rfl

theorem operators_idQuery (raw : String) :
    ∀ key ∈ Fields.keys (idQuery raw).toDocument, isOperator key = false := by
  intro key hkey
  obtain rfl : key = idKey := List.mem_singleton.mp hkey
  decide

end

/-- Whatever calls a collection has answered since it was empty, a query by identifier finds at most
one document of each kind, and only one if no identifier that matches is an array or a number of
another type than the value asked for. -/
theorem find_by_id (gen : Nat → ObjectId) (mode : Mode) (name : String)
    (calls : List ((Nat → ObjectId) × Call)) (raw : String) (hraw : ¬ [',', ' '] <:+: raw.toList) :
    ∃ found, KeyLookup gen mode raw (Literal.ofChars raw.toList).toBson
      ((empty name).after calls) found := by
  have hread := readQuery_idQuery hraw
  have hkeys := operators_idQuery raw
  have hempty : UniqueIds (empty name).ids := .nil
  have hunique := uniqueIds_after hempty calls
  -- of the run, only the invariant counts from here on
  generalize (empty name).after calls = c at hunique ⊢
  generalize hv : (Literal.ofChars raw.toList).toBson = v
  have hsatisfies : (idQuery raw).toDocument.satisfies = fun d => v.meets d.id? := by
    funext d
    rw [satisfies_idQuery, hv]
  have hapart := apart_of_uniqueIds hunique (v := v)
  refine ⟨c.documents.filter fun d => v.meets d.id?, ?_, rfl, ?_, ?_, hapart, ?_⟩
  · rw [execute_find_eq hread hkeys, hsatisfies]
  · rw [execute_deleteMany_eq hread hkeys, hsatisfies]
  · intro d hd
    obtain ⟨w, hw, hmeets⟩ := matching_of_uniqueIds hunique hd
    refine ⟨w, hw, ?_⟩
    cases harray : w.isArray with
    | true => exact .inr (.inl rfl)
    | false =>
      rw [Bson.meets_eq_valueEq harray] at hmeets
      rcases Bson.beq_or_numbers_of_valueEq hmeets with hequal | hnumbers
      · exact .inl hequal
      · exact .inr (.inr hnumbers)
  · refine length_le_one_of_apart (fun d hd => ?_) hapart
    obtain ⟨w, hw, -⟩ := matching_of_uniqueIds hunique hd
    exact ⟨w, hw⟩

/-- A collection after the insertion of documents that bring their identifiers along. -/
def holding (ds : List Document) : Collection :=
  (empty "c").after (ds.map fun d => (fun _ => ⟨0⟩, .insertOne d))

/-- The number one as a value of 32 bits, as a double and in an array. -/
def ones : List Document :=
  [[(idKey, .int32 1)], [(idKey, .double (.ofInt 1))], [(idKey, .array [.int32 1])]]

/-- Among identifiers of three kinds, a query by identifier is a look-up in each kind. -/
theorem find_by_id_ones :
    ¬ [',', ' '] <:+: "1".toList ∧
      ∃ found, KeyLookup (fun _ => ⟨0⟩) .general "1" (Literal.ofChars "1".toList).toBson
        (holding ones) found := by
  have hraw : ¬ [',', ' '] <:+: "1".toList := by decide
  exact ⟨hraw, find_by_id (fun _ => ⟨0⟩) .general "c"
    (ones.map fun d => (fun _ => ⟨0⟩, .insertOne d)) "1" hraw⟩

/-! ### Several documents for one query -/

/-- Two integers that become the same double. -/
def neighbours : List Document :=
  [[(idKey, .int64 9007199254740992)], [(idKey, .int64 9007199254740993)]]

/-- Where every identifier matches, all documents are found, and deleted. -/
theorem finds_all {ds : List Document} {raw : String} (hraw : ¬ [',', ' '] <:+: raw.toList)
    (hholding : (holding ds).documents = ds)
    (hmatch : ∀ d ∈ ds, (Literal.ofChars raw.toList).toBson.meets d.id? = true) :
    (holding ds).execute (fun _ => ⟨0⟩) .general "find" ("_id=" ++ raw) =
        (.ok (.documents ds), holding ds) ∧
      ((holding ds).execute (fun _ => ⟨0⟩) .general "deleteMany" ("_id=" ++ raw)).1 =
        .ok (.deleted ds.length) := by
  have hread := readQuery_idQuery hraw
  have hkeys := operators_idQuery raw
  have hfound : (holding ds).documents.filter (idQuery raw).toDocument.satisfies = ds := by
    rw [hholding, List.filter_eq_self]
    intro d hd
    rw [satisfies_idQuery]
    exact hmatch d hd
  constructor
  · rw [execute_find_eq hread hkeys, hfound]
  · rw [execute_deleteMany_eq hread hkeys, hfound]

/-- A query by identifier finds a number in each of its forms, and integers that it cannot tell
apart as doubles. -/
theorem find_by_id_several :
    ((holding ones).execute (fun _ => ⟨0⟩) .general "find" "_id=1" =
        (.ok (.documents ones), holding ones) ∧
      ((holding ones).execute (fun _ => ⟨0⟩) .general "deleteMany" "_id=1").1 =
        .ok (.deleted 3)) ∧
    (holding neighbours).execute (fun _ => ⟨0⟩) .general "find" "_id=9007199254740992.0" =
        (.ok (.documents neighbours), holding neighbours) ∧
      ((holding neighbours).execute (fun _ => ⟨0⟩) .general "deleteMany"
        "_id=9007199254740992.0").1 = .ok (.deleted 2) := by
  have hone : ¬ [',', ' '] <:+: "1".toList := by decide
  have hones : ∀ d ∈ ones, (Literal.ofChars "1".toList).toBson.meets d.id? = true := by
    decide +kernel
  have hdouble : ¬ [',', ' '] <:+: "9007199254740992.0".toList := by decide
  have hneighbours : ∀ d ∈ neighbours,
      (Literal.ofChars "9007199254740992.0".toList).toBson.meets d.id? = true := by
    decide +kernel
  have honeFinds := finds_all hone rfl hones
  have hdoubleFinds := finds_all hdouble rfl hneighbours
  -- the lines are put together first, as they would be compared letter by letter otherwise
  rw [show "_id=" ++ "1" = "_id=1" by decide] at honeFinds
  rw [show "_id=" ++ "9007199254740992.0" = "_id=9007199254740992.0" by decide] at hdoubleFinds
  exact ⟨honeFinds, hdoubleFinds⟩

end Collection
end DocLoad
