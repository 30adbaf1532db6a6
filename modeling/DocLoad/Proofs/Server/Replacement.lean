import DocLoad.Proofs.Store.Written
import DocLoad.Server.Reply

/-!
# DocLoad.Proofs.Server.Replacement — replacements by a server and in memory

A server replaces documents by stages (`replaceStages`).  What it makes of them is its own affair,
so it is taken as given here: an `Evaluator` is a server's way with expressions and stages, and
`Evaluator.Documented` says what is known of it.

* `run?_replaceStages` — the stages give the fields of the replacement behind an identifier, which
  is that of the replacement if it has one, and else the old one.
* `replaced_alike` compares this with `Document.replace`.  Without an identifier in the replacement,
  or with the old one, both make the same document; with another one, both refuse.

Equality of identifiers is that of values: the order of fields and the sign of a zero do not count,
and a NaN differs from itself.  So an identifier can be equal without being the same, or the same
without being equal, and there the two part (`not_alike`).

`Evaluator.plain` is an evaluator of which all this is known.
-/

namespace DocLoad.Server

/-! ## What is known of a server -/

/-- Whether a text can name a field in an expression. -/
def IsFieldName (key : String) : Prop :=
  key ≠ "" ∧ '.' ∉ key.toList ∧ isOperator key = false

/-- The fields of both documents: a key of the first one keeps its place, and the second one decides
its value. -/
def merge (d e : Document) : Document :=
  e.foldl (fun d f => Fields.set f.1 f.2 d) d

/-- A server's way with expressions and stages. -/
structure Evaluator where
  /-- The value of an expression for a document, if it has one. -/
  value? (expression : Bson) (d : Document) : Option Bson
  /-- The document that stages make of a document. -/
  run? (stages : List Bson) (d : Document) : Option Document
  /-- Whether a new document may take the place of an old one. -/
  Accepts (old new : Document) : Prop

namespace Evaluator

/-- An update by stages puts a new document in the place of the old one. -/
def Updates (S : Evaluator) (stages : List Bson) (old new : Document) : Prop :=
  S.run? stages old = some new ∧ S.Accepts old new

/-- What is documented of expressions, of stages and of identifiers. -/
structure Documented (S : Evaluator) : Prop where
  /-- `$literal` gives its argument as it stands. -/
  literal (v : Bson) (d : Document) : S.value? (.document [("$literal", v)]) d = some v
  /-- A text that starts with `$` stands for the field that it names. -/
  fieldPath (key : String) (d : Document) (hkey : IsFieldName key) :
    S.value? (.string ("$" ++ key)) d = Fields.get? key d
  /-- A document without operators is evaluated field by field. -/
  object (fields values d : Document) (hkeys : (Fields.keys fields).Nodup)
    (hnames : ∀ key ∈ Fields.keys fields, IsFieldName key)
    (h : List.Forall₂ (fun f g => f.1 = g.1 ∧ S.value? f.2 d = some g.2) fields values) :
    S.value? (.document fields) d = some (.document values)
  /-- `$mergeObjects` merges documents from left to right. -/
  mergeObjects (es : List Bson) (ds : List Document) (d : Document)
    (h : List.Forall₂ (fun e new => S.value? e d = some (.document new)) es ds) :
    S.value? (.document [("$mergeObjects", .array es)]) d = some (.document (ds.foldl merge []))
  /-- `$replaceWith` puts the value of its expression in the place of the document. -/
  replaceWith (e : Bson) (d new : Document) (h : S.value? e d = some (.document new)) :
    S.run? [.document [("$replaceWith", e)]] d = some new
  /-- A document with the same identifier is accepted. -/
  accepts_same (old new : Document) (h : new.id? = old.id?) : S.Accepts old new
  /-- A changed identifier is refused.  Every identifier counts as changed here that is neither
  identical with the old one nor `==` to it, so also a number of another type that is equal to the
  old one as a number. -/
  refuses_changed (old new : Document) (id newId : Bson) (hold : old.id? = some id)
    (hnew : new.id? = some newId) (hne : newId ≠ id) (hdiffer : (newId == id) = false) :
    ¬ S.Accepts old new

end Evaluator

/-! ## What the stages of a replacement give -/

/-- What is merged behind an identifier: another identifier takes its place, and all other fields
follow. -/
theorem merge_idKey_cons {id : Bson} {rest r : Document} (hkeys : (Fields.keys r).Nodup)
    (hrest : ∀ key ∈ Fields.keys r, key ∉ Fields.keys rest) :
    merge ((idKey, id) :: rest) r = (idKey, r.id?.getD id) :: (rest ++ r.withoutId) := by
  induction r generalizing id rest with
  | nil => simp [merge, Document.id?, Document.withoutId]
  | cons f r ih =>
    obtain ⟨k, v⟩ := f
    obtain ⟨hfresh, hkeys'⟩ := List.nodup_cons.mp hkeys
    obtain ⟨hk, hrestTail⟩ := List.forall_mem_cons.mp hrest
    by_cases hid : k = idKey
    · -- no later field has the identifier's key again
      subst hid
      have hnone : Document.id? r = none := Fields.get?_eq_none_iff.mpr hfresh
      have hset : Fields.set idKey v ((idKey, id) :: rest) = (idKey, v) :: rest := by
        rw [Fields.set, if_pos rfl]
      rw [merge, List.foldl_cons, hset, ← merge, ih hkeys' hrestTail, hnone,
        Document.withoutId_cons_idKey, Document.id?_cons_idKey]
      rfl
    · -- any other field goes behind those that are there, as its key is new
      have hset : Fields.set k v ((idKey, id) :: rest) = (idKey, id) :: (rest ++ [(k, v)]) := by
        rw [Fields.set, if_neg (Ne.symm hid), Fields.set_of_not_mem hk]
      have hrest' : ∀ key ∈ Fields.keys r, key ∉ Fields.keys (rest ++ [(k, v)]) := by
        intro key hkey hmem
        rw [Fields.keys, List.map_append, List.mem_append, List.map_singleton,
          List.mem_singleton] at hmem
        rcases hmem with hmem | rfl
        · exact hrestTail key hkey hmem
        · exact hfresh hkey
      have hget : Document.id? ((k, v) :: r) = Document.id? r := by
        rw [Document.id?, Fields.get?, if_neg hid, Document.id?]
      have hcons : Document.withoutId ((k, v) :: r) = (k, v) :: Document.withoutId r := by
        simp [Document.withoutId, hid]
      rw [merge, List.foldl_cons, hset, ← merge, ih hkeys' hrest', hget, hcons, List.append_assoc]
      rfl

theorem isFieldName_idKey : IsFieldName idKey := by
  refine ⟨by decide, by decide, by decide⟩

section

variable {S : Evaluator} (hS : S.Documented) {d r : Document} {id : Bson} (hid : d.id? = some id)
  (hkeys : (Fields.keys r).Nodup)
include hS hid

/-- The first part of what is merged is the identifier alone. -/
theorem value?_idKey : S.value? (.document [("_id", .string "$_id")]) d =
    some (.document [(idKey, id)]) := by
  have hpath : S.value? (.string "$_id") d = some id :=
    (hS.fieldPath idKey d isFieldName_idKey).trans hid
  have hnames : ∀ key ∈ Fields.keys [("_id", Bson.string "$_id")], IsFieldName key := by
    intro key hkey
    rw [List.mem_singleton.mp hkey]
    exact isFieldName_idKey
  have hnodup : (Fields.keys [("_id", Bson.string "$_id")]).Nodup := List.pairwise_singleton _ _
  exact hS.object _ _ d hnodup hnames (.cons ⟨rfl, hpath⟩ .nil)

include hkeys

/-- The stages of a replacement give its fields behind an identifier: its own, or the old one. -/
theorem run?_replaceStages :
    S.run? (replaceStages r) d = some ((idKey, r.id?.getD id) :: r.withoutId) := by
  have hparts : List.Forall₂ (fun e new => S.value? e d = some (.document new))
      [.document [("_id", .string "$_id")], .document [("$literal", .document r)]]
      [[(idKey, id)], r] :=
    .cons (value?_idKey hS hid) (.cons (hS.literal _ d) .nil)
  have hmerge : [[(idKey, id)], r].foldl merge [] = (idKey, r.id?.getD id) :: r.withoutId :=
    merge_idKey_cons hkeys fun _ _ => List.not_mem_nil
  rw [replaceStages, hS.replaceWith _ d _ (hS.mergeObjects _ _ d hparts), hmerge]

end

/-! ## An evaluator of which this is known -/

namespace Evaluator

/-- The value of a text: a field, if it starts with `$`. -/
def textValue (s : String) (d : Document) : Option Bson :=
  match s.toList with
  | '$' :: key => Fields.get? (String.ofList key) d
  | _ => some (.string s)

/-- The value of a document, given the values of its fields. -/
def combined (fields values : Document) : Option Bson :=
  match fields.operator? with
  | none => some (.document values)
  | some "$literal" => (Fields.get? "$literal" fields)
  | some "$mergeObjects" =>
    ((Fields.get? "$mergeObjects" values).bind documents?).map fun ds =>
      .document (ds.foldl merge [])
  | some _ => none

mutual
/-- The value of an expression. -/
def evaluate (d : Document) : Bson → Option Bson
  | .string s => textValue s d
  | .array items => some (.array (evaluateItems d items))
  | .document fields => combined fields (evaluateFields d fields)
  | v => some v
/-- The values of the items of an array; without a value, there is `null`. -/
def evaluateItems (d : Document) : List Bson → List Bson
  | [] => []
  | v :: vs => (evaluate d v).getD .null :: evaluateItems d vs
/-- The fields that have values, with them. -/
def evaluateFields (d : Document) : List (String × Bson) → List (String × Bson)
  | [] => []
  | (k, v) :: rest => ((evaluate d v).map (k, ·)).toList ++ evaluateFields d rest
end

/-- The document that one stage makes of a document. -/
def runStage (d : Document) : Bson → Option Document
  | .document [("$replaceWith", e)] =>
    match evaluate d e with
    | some (.document new) => some new
    | _ => none
  | _ => none

/-- An evaluator of the expressions and stages above that refuses every change of an identifier. -/
def plain : Evaluator where
  value? e d := evaluate d e
  run? stages d := stages.foldlM runStage d
  Accepts old new := new.id? = old.id?

/-- The operator of a document with a single field. -/
theorem operator?_singleton {key : String} (h : isOperator key = true) (v : Bson) :
    Document.operator? [(key, v)] = some key := by
  rw [Document.operator?, Fields.keys, List.map_singleton, List.find?_cons_of_pos h]

theorem evaluateFields_eq {fields values d : Document}
    (h : List.Forall₂ (fun f g => f.1 = g.1 ∧ evaluate d f.2 = some g.2) fields values) :
    evaluateFields d fields = values := by
  induction h with
  | nil => rfl
  | cons hfield _ ih =>
    obtain ⟨hkey, hvalue⟩ := hfield
    rw [evaluateFields, ih, hvalue, hkey]
    rfl

theorem documents?_evaluateItems {es : List Bson} {ds : List Document} {d : Document}
    (h : List.Forall₂ (fun e new => evaluate d e = some (.document new)) es ds) :
    documents? (.array (evaluateItems d es)) = some ds := by
  induction h with
  | nil => rfl
  | cons he _ ih =>
    simp only [documents?] at ih
    simp only [documents?, evaluateItems, he, Option.getD_some, List.mapM_cons, ih]
    rfl

/-- The plain evaluator does what is documented. -/
theorem documented_plain : plain.Documented where
  literal v d := by
    have hoperator : Document.operator? [("$literal", v)] = some "$literal" :=
      operator?_singleton (by decide) v
    show evaluate d (.document [("$literal", v)]) = _
    rw [evaluate, combined, hoperator]
    rfl
  fieldPath key d _ := by
    show textValue ("$" ++ key) d = _
    rw [textValue, String.toList_append]
    show Fields.get? (String.ofList key.toList) d = _
    rw [String.ofList_toList]
  object fields values d _ hnames h := by
    have hoperator : Document.operator? fields = none :=
      Document.operator?_eq_none.mpr fun key hkey => (hnames key hkey).2.2
    show evaluate d (.document fields) = _
    rw [evaluate, combined, hoperator, evaluateFields_eq h]
  mergeObjects es ds d h := by
    have hvalues : documents? (.array (evaluateItems d es)) = some ds := documents?_evaluateItems h
    have hoperator : Document.operator? [("$mergeObjects", .array es)] = some "$mergeObjects" :=
      operator?_singleton (by decide) _
    have hfields : evaluateFields d [("$mergeObjects", .array es)] =
        [("$mergeObjects", .array (evaluateItems d es))] := by
      rw [evaluateFields, evaluateFields, evaluate]
      rfl
    show evaluate d (.document [("$mergeObjects", .array es)]) = _
    rw [evaluate, combined, hoperator, hfields]
    show (documents? (.array (evaluateItems d es))).map _ = _
    rw [hvalues]
    rfl
  replaceWith e d new h := by
    have hvalue : evaluate d e = some (.document new) := h
    show (runStage d (.document [("$replaceWith", e)])).bind _ = _
    rw [runStage, hvalue]
    rfl
  accepts_same old new h := h
  refuses_changed old new id newId hold hnew hne _ := by
    intro haccepts
    have hsame : new.id? = old.id? := haccepts
    rw [hold, hnew] at hsame
    exact hne (Option.some.inj hsame)

end Evaluator

/-! ## Replacements compared -/

/-- A replacement by a server and one in memory come to the same, if `Equal` says when identifiers
are equal: with an equal identifier, or none, both make the same document, and with another one both
refuse. -/
structure Alike (Equal : Bson → Bson → Prop) (S : Evaluator) (d r : Document) : Prop where
  equal (h : ∀ newId ∈ r.id?, ∀ id ∈ d.id?, Equal newId id) :
    ∃ new, r.replace d = .ok new ∧ S.run? (replaceStages r) d = some new
  other (newId : Bson) (hnew : r.id? = some newId) (id : Bson) (hid : d.id? = some id)
    (h : ¬ Equal newId id) :
    r.replace d = .error .immutableId ∧ ∀ new, ¬ S.Updates (replaceStages r) d new

/-- How a replacement by a server and one in memory compare, for an old document with an
identifier. -/
structure Compared (S : Evaluator) (d r : Document) (id : Bson) : Prop where
  /-- Without an identifier, or with the old one, both make the same document. -/
  same (h : ∀ newId ∈ r.id?, newId = id ∧ (id == id) = true) :
    r.replace d = .ok ((idKey, id) :: r.withoutId) ∧
      S.Updates (replaceStages r) d ((idKey, id) :: r.withoutId)
  /-- With an identifier that is not equal, both refuse. -/
  other (newId : Bson) (hnew : r.id? = some newId) (hne : newId ≠ id)
    (hdiffer : (newId == id) = false) :
    r.replace d = .error .immutableId ∧ ∀ new, ¬ S.Updates (replaceStages r) d new
  /-- With an identifier that is equal but not the same, the old one is kept in memory, and the
  stages give the new one. -/
  equal (newId : Bson) (hnew : r.id? = some newId) (hne : newId ≠ id)
    (hequal : (newId == id) = true) :
    r.replace d = .ok ((idKey, id) :: r.withoutId) ∧
      S.run? (replaceStages r) d = some ((idKey, newId) :: r.withoutId)
  /-- With the same identifier, if it is not equal to itself, the replacement is refused in memory
  only. -/
  unequal (hnew : r.id? = some id) (hself : (id == id) = false) :
    r.replace d = .error .immutableId ∧
      S.Updates (replaceStages r) d ((idKey, id) :: r.withoutId)

section

variable {d r : Document} {id newId : Bson}

/-- In memory, an identifier that is not equal is refused. -/
theorem replace_eq_immutableId (hid : d.id? = some id) (hnew : r.id? = some newId)
    (hdiffer : (newId == id) = false) : r.replace d = .error .immutableId := by
  simp [Document.replace, hid, hnew, hdiffer]

/-- In memory, the old identifier is kept. -/
theorem replace_eq_cons (hid : d.id? = some id) (hequal : ∀ newId ∈ r.id?, (newId == id) = true) :
    r.replace d = .ok ((idKey, id) :: r.withoutId) := by
  refine Document.replace_eq_ok.mpr ⟨?_, ?_⟩
  · intro newId hnew own hown
    obtain rfl : id = own := Option.some.inj (hid.symm.trans hown)
    exact hequal newId hnew
  · rw [hid]
    rfl

end

/-- A replacement without operators is admitted, and the server and the memory compare as above. -/
theorem replaced_alike {S : Evaluator} (hS : S.Documented) {d r : Document} {id : Bson}
    (hid : d.id? = some id) (hkeys : (Fields.keys r).Nodup)
    (hoperator : ∀ key ∈ Fields.keys r, isOperator key = false) :
    r.checkReplacement = .ok () ∧ Compared S d r id := by
  have hrun := run?_replaceStages hS hid hkeys
  have hkept : r.id?.getD id = id → S.Updates (replaceStages r) d ((idKey, id) :: r.withoutId) := by
    intro hown
    rw [hown] at hrun
    exact ⟨hrun, hS.accepts_same _ _ ((Document.id?_cons_idKey id _).trans hid.symm)⟩
  refine ⟨Document.checkReplacement_eq_ok.mpr hoperator, ?_, ?_, ?_, ?_⟩
  · intro h
    refine ⟨replace_eq_cons hid ?_, hkept ?_⟩
    · intro newId hnew
      obtain ⟨rfl, hself⟩ := h newId hnew
      exact hself
    · cases hr : r.id? with
      | none => rfl
      | some newId => exact (h newId hr).1
  · -- the stages give the new identifier, which the server then refuses
    intro newId hnew hne hdiffer
    refine ⟨replace_eq_immutableId hid hnew hdiffer, ?_⟩
    rintro new ⟨hnewRun, haccepts⟩
    rw [hrun, hnew] at hnewRun
    obtain rfl := Option.some.inj hnewRun
    exact hS.refuses_changed _ _ id newId hid (Document.id?_cons_idKey newId _) hne hdiffer haccepts
  · intro newId hnew _ hequal
    refine ⟨replace_eq_cons hid ?_, by rw [hrun, hnew]; rfl⟩
    intro own hown
    obtain rfl : newId = own := Option.some.inj (hnew.symm.trans hown)
    exact hequal
  · intro hnew hself
    exact ⟨replace_eq_immutableId hid hnew hself, hkept (by rw [hnew]; rfl)⟩

/-- A replacement for `priced` that keeps its identifier and has texts and a document that would
mean something else in an expression. -/
def quoted : Document :=
  [("note", .string "$price"), (idKey, .int32 1), ("rule", .document [("$add", .array [])])]

/-- A document with an identifier and a price. -/
def priced : Document := [(idKey, .int32 1), ("price", .double (.zero false))]

/-- Texts of a replacement stay as they are. -/
theorem replaced_alike_quoted :
    Evaluator.plain.Documented ∧ priced.id? = some (.int32 1) ∧ (Fields.keys quoted).Nodup ∧
      (∀ key ∈ Fields.keys quoted, isOperator key = false) ∧
      quoted.checkReplacement = .ok () ∧ Compared Evaluator.plain priced quoted (.int32 1) := by
  have hid : priced.id? = some (.int32 1) := rfl
  have hkeys : (Fields.keys quoted).Nodup := by decide
  have hoperator : ∀ key ∈ Fields.keys quoted, isOperator key = false := by decide
  exact ⟨Evaluator.documented_plain, hid, hkeys, hoperator,
    replaced_alike Evaluator.documented_plain hid hkeys hoperator⟩

/-! ### Identifiers that are equal and not the same, or the same and not equal -/

/-- Two fields, as an identifier. -/
def inOrderId : Bson := .document [("a", .int32 1), ("b", .int32 2)]

/-- The same fields in the other order. -/
def outOfOrderId : Bson := .document [("b", .int32 2), ("a", .int32 1)]

/-- A document with an identifier and another field. -/
def tagged (id : Bson) (key : String) : Document := [(idKey, id), (key, .int32 1)]

/-- The stages give the identifier of the replacement. -/
theorem run?_tagged (id newId : Bson) :
    Evaluator.plain.run? (replaceStages (tagged newId "y")) (tagged id "x") =
      some (tagged newId "y") := by
  have hid : (tagged id "x").id? = some id := Document.id?_cons_idKey id _
  have hkeys : (Fields.keys (tagged newId "y")).Nodup := by simp [tagged, Fields.keys, idKey]
  exact run?_replaceStages Evaluator.documented_plain hid hkeys

/-- With the same fields in another order, the stages give the new identifier, and the old one is
kept in memory. -/
theorem not_alike_of_reordered (Equal : Bson → Bson → Prop) :
    ¬ Alike Equal Evaluator.plain (tagged inOrderId "x") (tagged outOfOrderId "y") := by
  intro halike
  have hreplace : (tagged outOfOrderId "y").replace (tagged inOrderId "x") =
      .ok (tagged inOrderId "y") := rfl
  by_cases h : Equal outOfOrderId inOrderId
  · obtain ⟨new, hnew, hrun⟩ := halike.equal <| by
      rintro _ ⟨⟩ _ ⟨⟩
      exact h
    rw [hreplace] at hnew
    rw [run?_tagged, ← Except.ok.inj hnew] at hrun
    have hids : outOfOrderId = inOrderId :=
      (Prod.mk.inj (List.cons.inj (Option.some.inj hrun)).1).2
    simp [outOfOrderId, inOrderId] at hids
  · have hrefused := (halike.other outOfOrderId rfl inOrderId rfl h).1
    rw [hreplace] at hrefused
    cases hrefused

/-- A NaN is refused in memory, where the server has no reason to. -/
theorem not_alike_of_nan (Equal : Bson → Bson → Prop) :
    ¬ Alike Equal Evaluator.plain (tagged (.double .nan) "x") (tagged (.double .nan) "y") := by
  intro halike
  have hreplace : (tagged (.double .nan) "y").replace (tagged (.double .nan) "x") =
      .error .immutableId := rfl
  by_cases h : Equal (.double .nan) (.double .nan)
  · obtain ⟨new, hnew, -⟩ := halike.equal <| by
      rintro _ ⟨⟩ _ ⟨⟩
      exact h
    rw [hreplace] at hnew
    cases hnew
  · exact (halike.other (.double .nan) rfl (.double .nan) rfl h).2 _ ⟨run?_tagged _ _, rfl⟩

/-- Whatever it means that identifiers are equal, a server and the memory do not come to the same
where the fields of an identifier are in another order, nor where an identifier is a NaN. -/
theorem not_alike :
    Evaluator.plain.Documented ∧
      (¬ ∃ Equal, Alike Equal Evaluator.plain (tagged inOrderId "x") (tagged outOfOrderId "y")) ∧
      ¬ ∃ Equal,
        Alike Equal Evaluator.plain (tagged (.double .nan) "x") (tagged (.double .nan) "y") :=
  ⟨Evaluator.documented_plain, fun ⟨Equal, h⟩ => not_alike_of_reordered Equal h,
    fun ⟨Equal, h⟩ => not_alike_of_nan Equal h⟩

end DocLoad.Server
