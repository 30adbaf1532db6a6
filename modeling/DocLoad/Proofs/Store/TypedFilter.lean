import DocLoad.Proofs.Query.Literals
import DocLoad.Proofs.Store.KeyLookup

/-!
# DocLoad.Proofs.Store.TypedFilter — what a search with a query line finds

A query line has literals at paths.  A document is selected (`Query.Selects`) when each path leads
through nested documents to a value (`Document.Leads`) that equals the literal, or is an array with
an item that does (`Literal.Matches`).  Which values a literal equals depends on their types
(`Literal.Equals`): strings and integers are compared exactly, and where one of two numbers is a
double, both are compared as doubles.

* `Literal.valueEq_toBson_iff` — a filter compares with a literal as `Literal.Equals` says;
* `Document.lookup?_eq_some_iff` — a look-up goes where the path leads;
* `Query.satisfies_toDocument_iff` — a document satisfies a query exactly when it is selected;
* `Collection.find_typed` — a search finds the documents that are selected.
-/

namespace DocLoad

namespace Bson

variable {v w : Bson}

/-- Equality in the sense of filters is symmetric. -/
theorem valueEq_comm (v w : Bson) : valueEq v w = valueEq w v := by
  unfold valueEq
  cases v.integer? <;> cases w.integer? <;> cases v.double? <;> cases w.double? <;>
    simp only [Double.numEq_comm, beq_comm v w, Bool.beq_comm]

/-- A number equals only numbers. -/
theorem isSome_double?_of_valueEq (h : valueEq v w = true) :
    v.double?.isSome = w.double?.isSome := by
  rw [Bool.eq_iff_iff, Option.isSome_iff_exists, Option.isSome_iff_exists]
  constructor
  · rintro ⟨x, hx⟩
    exact exists_double?_of_valueEq hx h
  · rintro ⟨y, hy⟩
    rw [valueEq_comm] at h
    exact exists_double?_of_valueEq hy h

/-- Only the same string equals a string. -/
theorem valueEq_string {s : String} : valueEq v (.string s) = true ↔ v = .string s := by
  constructor
  · intro h
    have hnumber := isSome_double?_of_valueEq h
    cases v with
    | string t =>
      have hts : (t == s) = true := h
      rw [eq_of_beq hts]
    | int32 n => cases hnumber
    | int64 n => cases hnumber
    | double x => cases hnumber
    | _ => cases h
  · rintro rfl
    exact beq_self_eq_true s

end Bson

namespace Literal

variable {l : Literal} {v : Bson}

/-! ## Which values a literal equals -/

/-- The binary64 number that a numeric literal becomes. -/
def double? : Literal → Option Double
  | integer n => some (Double.ofInt n.toInt)
  | double x => some x
  | text _ => none

/-- Equality of a literal and a value. -/
inductive Equals : Literal → Bson → Prop where
  /-- Texts equal the same string only. -/
  | text (s : String) : Equals (.text s) (.string s)
  /-- Integers are compared as numbers, whatever their width. -/
  | int32 {n : Int64} {m : Int32} (h : m.toInt = n.toInt) : Equals (.integer n) (.int32 m)
  | int64 {n m : Int64} (h : m.toInt = n.toInt) : Equals (.integer n) (.int64 m)
  /-- Where one of two numbers is a double, the doubles are compared that they become. -/
  | double {l : Literal} {v : Bson} {x y : Double} (hx : l.double? = some x)
      (hy : v.double? = some y) (hone : (∃ z, l = .double z) ∨ ∃ z, v = .double z)
      (heq : y.numEq x = true) : Equals l v

/-- Whether a literal equals a value or, if that is an array, one of its items. -/
def Matches (l : Literal) (v : Bson) : Prop :=
  l.Equals v ∨ ∃ items, v = .array items ∧ ∃ item ∈ items, l.Equals item

/-! ## Filters compare in this way -/

/-- The width in which an integer is stored does not matter for filters. -/
theorem numbers_toBson_integer (n : Int64) :
    (integer n).toBson.integer? = some n ∧
      (integer n).toBson.double? = some (Double.ofInt n.toInt) := by
  have hbson : (integer n).toBson = .narrow n := rfl
  rw [hbson]
  rcases Bson.narrow_cases n with ⟨-, -, m, hnarrow, hm⟩ | ⟨-, hnarrow⟩
  · have hwide : m.toInt64 = n := Int64.toInt_inj.mp (by rw [m.toInt_toInt64, hm])
    rw [hnarrow]
    exact ⟨congrArg some hwide, congrArg (fun k => some (Double.ofInt k)) hm⟩
  · rw [hnarrow]
    exact ⟨rfl, rfl⟩

theorem double?_toBson (l : Literal) : l.toBson.double? = l.double? := by
  cases l with
  | integer n => exact (numbers_toBson_integer n).2
  | double x => rfl
  | text s => rfl

/-- Values that a filter takes for a literal equal it. -/
theorem equals_of_valueEq (h : v.valueEq l.toBson = true) : l.Equals v := by
  -- what equals a number is one, so a numeric literal leaves three forms of the value
  have hnumber := Bson.isSome_double?_of_valueEq h
  rw [double?_toBson] at hnumber
  cases l with
  | text s =>
    rw [Bson.valueEq_string.mp h]
    exact .text s
  | integer n =>
    rcases numbers_toBson_integer n with ⟨hint, hdouble⟩
    cases v with
    | int32 m =>
      have hm : m.toInt64 = n := Bson.eq_of_valueEq_integer rfl hint h
      exact .int32 (by rw [← hm, m.toInt_toInt64])
    | int64 m =>
      have hm : m = n := Bson.eq_of_valueEq_integer rfl hint h
      exact .int64 (by rw [hm])
    | double x =>
      have heq := Bson.numEq_of_valueEq rfl hdouble (.inl rfl) h
      exact .double rfl rfl (.inr ⟨x, rfl⟩) heq
    | _ => cases hnumber
  | double x =>
    rcases Option.isSome_iff_exists.mp (hnumber.trans rfl) with ⟨y, hy⟩
    have heq := Bson.numEq_of_valueEq hy rfl (.inr rfl) h
    exact .double rfl hy (.inl ⟨x, rfl⟩) heq

/-- Values that equal a literal are taken for it by a filter. -/
theorem valueEq_of_equals (h : l.Equals v) : v.valueEq l.toBson = true := by
  cases h with
  | text s => exact Bson.valueEq_string.mpr rfl
  | @int32 n m hm =>
    have hwide : m.toInt64 = n := Int64.toInt_inj.mp (by rw [m.toInt_toInt64, hm])
    rw [Bson.valueEq, (numbers_toBson_integer n).1]
    exact beq_iff_eq.mpr hwide
  | @int64 n m hm =>
    rw [Bson.valueEq, (numbers_toBson_integer n).1]
    exact beq_iff_eq.mpr (Int64.toInt_inj.mp hm)
  | @double l v x y hx hy hone heq =>
    have hnone : v.integer? = none ∨ l.toBson.integer? = none := by
      rcases hone with ⟨z, rfl⟩ | ⟨z, rfl⟩
      · exact .inr rfl
      · exact .inl rfl
    rw [Bson.valueEq_eq_numEq hy ((double?_toBson l).trans hx) hnone]
    exact heq

/-- A filter compares with a literal as `Equals` says. -/
theorem valueEq_toBson_iff : v.valueEq l.toBson = true ↔ l.Equals v :=
  ⟨equals_of_valueEq, valueEq_of_equals⟩

/-- No literal is an array or null. -/
theorem toBson_plain (l : Literal) : l.toBson.isArray = false ∧ l.toBson ≠ .null := by
  cases l with
  | integer n =>
    have hbson : (integer n).toBson = .narrow n := rfl
    rw [hbson]
    rcases Bson.narrow_cases n with ⟨-, -, m, hnarrow, -⟩ | ⟨-, hnarrow⟩ <;> rw [hnarrow] <;>
      exact ⟨rfl, nofun⟩
  | double x => exact ⟨rfl, nofun⟩
  | text s => exact ⟨rfl, nofun⟩

theorem meets_none (l : Literal) : l.toBson.meets none = false := by
  rw [Bson.meets]
  exact (toBson_plain l).2

/-- A literal meets a value that it matches. -/
theorem meets_some_iff : l.toBson.meets (some v) = true ↔ l.Matches v := by
  have hitems : ∀ items : List Bson, ¬ l.Equals (.array items) := by
    rintro items (_ | _ | _ | ⟨-, hy, -, -⟩)
    cases hy
  cases v with
  | array items =>
    rw [Bson.meets, (toBson_plain l).1, if_neg Bool.false_ne_true, List.any_eq_true]
    simp only [valueEq_toBson_iff]
    constructor
    · rintro ⟨item, hitem, hequals⟩
      exact .inr ⟨items, rfl, item, hitem, hequals⟩
    · rintro (hequals | ⟨items', hitems', hmem⟩)
      · exact absurd hequals (hitems items)
      · cases hitems'
        exact hmem
  | _ =>
    rw [Bson.meets_eq_valueEq rfl, valueEq_toBson_iff]
    refine ⟨.inl, ?_⟩
    rintro (hequals | ⟨items, hitems, -⟩)
    · exact hequals
    · cases hitems

end Literal

/-! ## Where a path leads -/

/-- The segments of a path: what stands between the dots of its text. -/
def Path.Segments (path : String) (segments : List String) : Prop :=
  Text.Cut ['.'] path.toList (segments.map String.toList)

namespace Document

/-- The value that segments lead to: each names a field, and all but the last one a nested
document. -/
inductive Leads : Document → List String → Bson → Prop where
  | field {d : Document} {key : String} {v : Bson} (hv : Fields.get? key d = some v) :
    Leads d [key] v
  | nested {d nested : Document} {key : String} {rest : List String} {v : Bson}
      (hnested : Fields.get? key d = some (.document nested)) (hrest : Leads nested rest v) :
    Leads d (key :: rest) v

/-- A look-up finds the value that the segments lead to. -/
theorem lookupAt?_eq_some_iff {d : Document} {key : String} {rest : List String} {v : Bson} :
    d.lookupAt? key rest = some v ↔ d.Leads (key :: rest) v := by
  induction rest generalizing d key with
  | nil =>
    refine ⟨.field, ?_⟩
    rintro (hv | ⟨-, ⟨⟩⟩)
    exact hv
  | cons next rest ih =>
    rw [lookupAt?]
    constructor
    · intro h
      split at h
      · next nested hnested => exact .nested hnested (ih.mp h)
      · cases h
    · rintro (_ | ⟨hnested, hrest⟩)
      rw [hnested]
      exact ih.mpr hrest

/-- The segments of a text are the pieces between its dots, and there is one way to cut it. -/
theorem segments_ofString_iff {path : String} {segments : List String} :
    Path.Segments path segments ↔ (Path.ofString path).segments = segments := by
  have hcut := Text.cut_splitChar '.' path.toList
  rw [Path.segments_ofString]
  constructor
  · intro h
    rw [hcut.unique h, List.map_map]
    simp
  · rintro rfl
    rw [Path.Segments, List.map_map]
    simpa using hcut

/-- A look-up goes where the path leads. -/
theorem lookup?_eq_some_iff {d : Document} {path : String} {v : Bson} :
    d.lookup? (Path.ofString path) = some v ↔
      ∃ segments, Path.Segments path segments ∧ d.Leads segments v := by
  simp only [segments_ofString_iff, exists_eq_left']
  exact lookupAt?_eq_some_iff

end Document

/-! ## Searches -/

namespace Query

/-- Whether a document has what a query asks for: each path leads to a value that its literal
matches. -/
def Selects (q : Query) (d : Document) : Prop :=
  ∀ f ∈ q.fields, ∃ segments v, Path.Segments f.1 segments ∧ d.Leads segments v ∧ f.2.Matches v

/-- A document satisfies the filter of a query if the query selects it. -/
theorem satisfies_toDocument_iff {q : Query} {d : Document} :
    q.toDocument.satisfies d = true ↔ q.Selects d := by
  rw [Document.satisfies, toDocument, List.all_map, List.all_eq_true]
  refine forall₂_congr fun f _ => ?_
  show f.2.toBson.meets (d.lookup? (Path.ofString f.1)) = true ↔ _
  cases hlookup : d.lookup? (Path.ofString f.1) with
  | none =>
    rw [Literal.meets_none]
    refine ⟨fun h => absurd h Bool.false_ne_true, ?_⟩
    rintro ⟨segments, v, hsegments, hleads, -⟩
    rw [Document.lookup?_eq_some_iff.mpr ⟨segments, hsegments, hleads⟩] at hlookup
    cases hlookup
  | some v =>
    rw [Literal.meets_some_iff]
    constructor
    · intro hmatches
      rcases Document.lookup?_eq_some_iff.mp hlookup with ⟨segments, hsegments, hleads⟩
      exact ⟨segments, v, hsegments, hleads, hmatches⟩
    · rintro ⟨segments, w, hsegments, hleads, hmatches⟩
      rw [Document.lookup?_eq_some_iff.mpr ⟨segments, hsegments, hleads⟩] at hlookup
      cases hlookup
      exact hmatches

instance (q : Query) (d : Document) : Decidable (q.Selects d) :=
  decidable_of_iff _ satisfies_toDocument_iff

end Query

namespace Collection

/-- A search with a query line, in any mode, finds the documents that the query selects, in the
order of the collection.  The literals that it asks for are those of the last clauses with their
keys.  A document in which a path leads nowhere is not found, and numbers equal nothing but
numbers. -/
theorem find_typed (gen : Nat → ObjectId) (mode : Mode) (c : Collection) (line : String) (q : Query)
    (hread : Session.readQuery line = .ok q)
    (hkeys : ∀ key ∈ Fields.keys q.toDocument, isOperator key = false) :
    let found := c.documents.filter fun d => q.Selects d
    c.execute gen mode "find" line = (.ok (.documents found), c) ∧
    (∀ f ∈ q.fields, ∃ clause, Query.IsLast (Query.clauses line) clause ∧
      f = (Query.keyOf clause, Literal.ofChars (Query.valueOf clause))) ∧
    (∀ d, ∀ key ∈ Fields.keys q.toDocument,
      (¬ ∃ segments v, Path.Segments key segments ∧ d.Leads segments v) → d ∉ found) ∧
    ∀ v w : Bson, v.valueEq w = true → v.double?.isSome = w.double?.isSome := by
  intro found
  refine ⟨?_, fun f hf => Session.exists_entry_of_mem hread hf, ?_,
    fun v w h => Bson.isSome_double?_of_valueEq h⟩
  · have hfound : found = c.documents.filter q.toDocument.satisfies := by
      apply List.filter_congr
      intro d _
      rw [Bool.eq_iff_iff, decide_eq_true_eq]
      exact Query.satisfies_toDocument_iff.symm
    rw [execute_find_eq hread hkeys mode, hfound]
  · intro d key hkey hnowhere hd
    rw [Query.keys_toDocument] at hkey
    rcases List.mem_map.mp hkey with ⟨f, hf, rfl⟩
    have hselects : q.Selects d := of_decide_eq_true (List.mem_filter.mp hd).2
    rcases hselects f hf with ⟨segments, v, hsegments, hleads, -⟩
    exact hnowhere ⟨segments, v, hsegments, hleads⟩

/-- Documents with the number two below a path as a double and as an item of an array, and with
other values there: below an array, as a string, and not at all. -/
def twos : Collection :=
  ⟨"c", [[("_id", .int32 1), ("a", .document [("b", .double (Double.ofInt 2))]),
      ("s", .string "x")],
    [("_id", .int32 2), ("a", .document [("b", .array [.string "2", .int64 2])]),
      ("s", .array [.string "x"])],
    [("_id", .int32 3), ("a", .array [.document [("b", .int32 2)]]), ("s", .string "x")],
    [("_id", .int32 4), ("a", .document [("b", .string "2")]), ("s", .string "x")],
    [("_id", .int32 5), ("s", .string "x")]], 0⟩

/-- The line `a.b=2, s=x` finds the first two of them. -/
theorem find_typed_twos :
    let gen : Nat → ObjectId := fun _ => ⟨0⟩
    let q : Query := ⟨[("a.b", .integer 2), ("s", .text "x")]⟩
    (Session.readQuery "a.b=2, s=x" = .ok q ∧
      ∀ key ∈ Fields.keys q.toDocument, isOperator key = false) ∧
    twos.execute gen .general "find" "a.b=2, s=x" =
      (.ok (.documents (twos.documents.take 2)), twos) := by
  intro gen q
  have hread : Session.readQuery "a.b=2, s=x" = .ok q :=
    Session.readQuery_eq_ok.mpr (by decide +kernel)
  have hkeys : ∀ key ∈ Fields.keys q.toDocument, isOperator key = false := by decide
  rcases find_typed gen .general twos "a.b=2, s=x" q hread hkeys with ⟨hfind, -⟩
  have hfirst : ∀ d ∈ twos.documents.take 2, q.Selects d := by decide +kernel
  have hrest : ∀ d ∈ twos.documents.drop 2, ¬ q.Selects d := by decide +kernel
  have hfound : (twos.documents.filter fun d => q.Selects d) = twos.documents.take 2 := by
    calc
      _ = (twos.documents.take 2 ++ twos.documents.drop 2).filter fun d => q.Selects d := rfl
      _ = twos.documents.take 2 := by
        rw [List.filter_append, List.filter_eq_self.mpr fun d hd => decide_eq_true (hfirst d hd),
          List.filter_eq_nil_iff.mpr fun d hd => by simpa using hrest d hd, List.append_nil]
  refine ⟨⟨hread, hkeys⟩, ?_⟩
  rw [hfind, hfound]

end Collection
end DocLoad
