import DocLoad.Proofs.Store.Update

/-!
# DocLoad.Proofs.Store.Conjunction — query lines that are joined

Two query lines with the separator between them have the clauses of the first line and then those of
the second.  So the joined line means both: a value is the one of the second line, or else of the
first.  Where the two have no key in common, their order does not matter, and a search with the
joined line finds the documents that both searches find.

* `clauses_join` — the clauses of a joined line;
* `get?_ofClauses_append` and `mem_toDocument_join` — its keys and values;
* `satisfies_join` — what satisfies it;
* `readQuery_perm` — clauses with different keys may stand in any order.
-/

namespace DocLoad

/-! ## The clauses of a joined line -/

namespace Query

variable {cls cls' : List (List Char)} {clause : List Char} {line line' : String}

theorem clauses_ne_nil (h : line ≠ "") : clauses line ≠ [] :=
  (cut_clauses h).ne_nil

/-- The line of two lists of clauses is their lines with a separator between them. -/
theorem lineOf_append (hcls : cls ≠ []) (hcls' : cls' ≠ []) :
    lineOf (cls ++ cls') = lineOf cls ++ ", " ++ lineOf cls' := by
  obtain ⟨first, rest', rfl⟩ := List.exists_cons_of_ne_nil hcls'
  apply String.toList_injective
  simp only [lineOf, String.toList_append, String.toList_ofList]
  induction cls with
  | nil => exact absurd rfl hcls
  | cons cl cls ih =>
    rcases cls with - | ⟨next, cls⟩
    · rw [List.singleton_append, List.intercalate_cons_cons, List.intercalate_singleton]
      rfl
    · rw [List.cons_append, List.cons_append, List.intercalate_cons_cons, ← List.cons_append,
        ih (List.cons_ne_nil _ _), List.intercalate_cons_cons]
      simp only [List.append_assoc]

/-- The clauses of a line that is joined out of two. -/
theorem clauses_join (hne : line ≠ "") (hne' : line' ≠ "")
    (h : ∀ cl ∈ clauses line, '=' ∈ cl) (h' : ∀ cl ∈ clauses line', '=' ∈ cl) :
    clauses (line ++ ", " ++ line') = clauses line ++ clauses line' := by
  have hline := lineOf_append (clauses_ne_nil hne) (clauses_ne_nil hne')
  rw [lineOf_clauses, lineOf_clauses] at hline
  rw [← hline]
  apply clauses_lineOf
  · exact List.forall_mem_append.mpr ⟨h, h'⟩
  · exact List.forall_mem_append.mpr ⟨not_infix_of_mem_clauses, not_infix_of_mem_clauses⟩

/-! ## Its keys and values -/

/-- The last clause of a key is still the last one behind other clauses. -/
theorem IsLast.append_right (h : IsLast cls' clause) : IsLast (cls ++ cls') clause := by
  obtain ⟨before, after, rfl, hafter⟩ := h
  exact ⟨cls ++ before, after, (List.append_assoc _ _ _).symm, hafter⟩

/-- The last clause of a key is still the last one if no clause of the key follows. -/
theorem IsLast.append_left (h : IsLast cls clause) (hnone : ∀ cl ∈ cls', keyOf cl ≠ keyOf clause) :
    IsLast (cls ++ cls') clause := by
  obtain ⟨before, after, rfl, hafter⟩ := h
  exact ⟨before, after ++ cls', by simp, List.forall_mem_append.mpr ⟨hafter, hnone⟩⟩

/-- Of two lists of clauses the second one decides, where it has a key. -/
theorem get?_ofClauses_append (k : String) :
    Fields.get? k (ofClauses ((cls ++ cls').map entry)).fields =
      (Fields.get? k (ofClauses (cls'.map entry)).fields).or
        (Fields.get? k (ofClauses (cls.map entry)).fields) := by
  by_cases hk' : ∃ cl ∈ cls', keyOf cl = k
  · obtain ⟨cl, hlast, rfl⟩ := exists_isLast hk'
    rw [get?_ofClauses hlast.append_right, get?_ofClauses hlast, Option.some_or]
  · rw [get?_ofClauses_of_none hk', Option.none_or]
    by_cases hk : ∃ cl ∈ cls, keyOf cl = k
    · obtain ⟨cl, hlast, rfl⟩ := exists_isLast hk
      have hnone : ∀ cl' ∈ cls', keyOf cl' ≠ keyOf cl := fun cl' hcl' hkey => hk' ⟨cl', hcl', hkey⟩
      rw [get?_ofClauses (hlast.append_left hnone), get?_ofClauses hlast]
    · rw [get?_ofClauses_of_none hk, get?_ofClauses_of_none]
      rintro ⟨cl, hcl, hkey⟩
      rcases List.mem_append.mp hcl with hcl | hcl
      · exact hk ⟨cl, hcl, hkey⟩
      · exact hk' ⟨cl, hcl, hkey⟩

/-- Clauses with different keys are all the last ones. -/
theorem lastClauses_of_nodup (h : (cls.map keyOf).Nodup) : lastClauses cls = cls := by
  induction cls with
  | nil => rfl
  | cons cl cls ih =>
    rw [List.map_cons, List.nodup_cons, List.mem_map] at h
    obtain ⟨hcl, hcls⟩ := h
    rw [lastClauses, if_neg hcl, ih hcls]

end Query

namespace Session

open Query

variable {line line' : String} {q q' : Query}

/-- Clauses with different keys may stand in any order. -/
theorem readQuery_perm (h : readQuery line = .ok q) (hkeys : ((clauses line).map keyOf).Nodup)
    {cls : List (List Char)} (hperm : cls.Perm (clauses line)) :
    readQuery (lineOf cls) = .ok q := by
  apply readQuery_lineOf_last h
  rwa [lastClauses_of_nodup hkeys]

theorem increasing_fields_of_readQuery (h : readQuery line = .ok q) : Increasing q.fields := by
  have hdoc : Increasing q.toDocument := increasing_of_readQuery h
  rwa [Increasing, keys_toDocument] at hdoc

/-- The fields of a query are those that can be looked up in it. -/
theorem mem_toDocument_iff (h : readQuery line = .ok q) (f : String × Bson) :
    f ∈ q.toDocument ↔ Fields.get? f.1 q.toDocument = some f.2 :=
  ⟨get?_of_mem (increasing_of_readQuery h), Fields.mem_of_get?⟩

/-- A joined line is read, and each key has its value from the second line, or else from the
first. -/
theorem readQuery_join (hne : line ≠ "") (hne' : line' ≠ "") (hread : readQuery line = .ok q)
    (hread' : readQuery line' = .ok q') :
    ∃ both, readQuery (line ++ ", " ++ line') = .ok both ∧
      ∀ k, Fields.get? k both.fields = (Fields.get? k q'.fields).or (Fields.get? k q.fields) := by
  obtain ⟨hall, rfl⟩ := eq_of_read_eq_ok (readQuery_eq_ok.mp hread)
  obtain ⟨hall', rfl⟩ := eq_of_read_eq_ok (readQuery_eq_ok.mp hread')
  have hclauses := clauses_join hne hne' hall hall'
  have hjoined : ∀ cl ∈ clauses (line ++ ", " ++ line'), '=' ∈ cl := by
    rw [hclauses]
    exact List.forall_mem_append.mpr ⟨hall, hall'⟩
  refine ⟨_, readQuery_eq_ok.mpr (read_ok hjoined), ?_⟩
  intro k
  rw [hclauses, get?_ofClauses_append]

/-- Two queries without a common key. -/
def KeysApart (q q' : Query) : Prop :=
  ∀ key ∈ Fields.keys q.toDocument, key ∉ Fields.keys q'.toDocument

/-- Of two queries without a common key only one has a value under a key. -/
theorem KeysApart.get? (h : KeysApart q q') (k : String) :
    Fields.get? k q.fields = none ∨ Fields.get? k q'.fields = none := by
  rw [Fields.get?_eq_none_iff, Fields.get?_eq_none_iff, ← keys_toDocument, ← keys_toDocument,
    ← imp_iff_not_or]
  exact h k

/-- Lines without a common key may be joined in either order, and what is read has the fields of
both. -/
theorem readQuery_join_apart (hne : line ≠ "") (hne' : line' ≠ "")
    (hread : readQuery line = .ok q) (hread' : readQuery line' = .ok q') (hapart : KeysApart q q') :
    ∃ both, readQuery (line ++ ", " ++ line') = .ok both ∧
      readQuery (line' ++ ", " ++ line) = .ok both ∧
      ∀ f, f ∈ both.toDocument ↔ f ∈ q.toDocument ∨ f ∈ q'.toDocument := by
  obtain ⟨both, hboth, hget⟩ := readQuery_join hne hne' hread hread'
  obtain ⟨both', hboth', hget'⟩ := readQuery_join hne' hne hread' hread
  have hsame : both'.fields = both.fields := by
    apply eq_of_get?_eq (increasing_fields_of_readQuery hboth')
      (increasing_fields_of_readQuery hboth)
    intro k
    rw [hget, hget']
    rcases hapart.get? k with hnone | hnone <;> simp [hnone]
  obtain rfl : both' = both := Query.mk.injEq _ _ ▸ hsame
  refine ⟨both', hboth, hboth', ?_⟩
  intro f
  rw [mem_toDocument_iff hboth, mem_toDocument_iff hread, mem_toDocument_iff hread',
    get?_toDocument, get?_toDocument, get?_toDocument, hget]
  rcases hapart.get? f.1 with hnone | hnone <;> simp [hnone]

end Session

/-! ## Searches -/

/-- A filter with the fields of two others asks for what both ask for. -/
theorem Document.satisfies_of_mem_iff {both filter filter' : Document}
    (h : ∀ f, f ∈ both ↔ f ∈ filter ∨ f ∈ filter') (d : Document) :
    both.satisfies d = (filter.satisfies d && filter'.satisfies d) := by
  rw [Bool.eq_iff_iff, Bool.and_eq_true]
  simp only [satisfies, List.all_eq_true, h, or_imp, forall_and]

namespace Collection

variable {gen : Nat → ObjectId} {mode : Mode} {c : Collection} {name line line' : String}

/-- An operation depends on its line only by what is read of it. -/
theorem execute_congr (h : Session.readQuery line = Session.readQuery line') :
    c.execute gen mode name line = c.execute gen mode name line' := by
  simp only [execute, h]

/-- Query lines that are joined are a conjunction.  A search with two lines that have no key in
common, joined in either order, finds the documents that both searches find, in the order of the
collection; so what is joined to a line never adds a document.  The clauses of a line may stand in
any order if they have different keys, and this for any operation. -/
theorem find_joined (gen : Nat → ObjectId) (mode : Mode) (c : Collection) (line line' : String)
    (q q' : Query) (hne : line ≠ "") (hne' : line' ≠ "")
    (hread : Session.readQuery line = .ok q) (hread' : Session.readQuery line' = .ok q')
    (hapart : Session.KeysApart q q')
    (hkeys : ∀ key ∈ Fields.keys q.toDocument, isOperator key = false)
    (hkeys' : ∀ key ∈ Fields.keys q'.toDocument, isOperator key = false) :
    let found := c.documents.filter q.toDocument.satisfies
    let found' := c.documents.filter q'.toDocument.satisfies
    let both := c.documents.filter fun d => q.toDocument.satisfies d && q'.toDocument.satisfies d
    (∃ joined, Session.readQuery (line ++ ", " ++ line') = .ok joined) ∧
    c.execute gen mode "find" line = (.ok (.documents found), c) ∧
    c.execute gen mode "find" line' = (.ok (.documents found'), c) ∧
    c.execute gen mode "find" (line ++ ", " ++ line') = (.ok (.documents both), c) ∧
    c.execute gen mode "find" (line' ++ ", " ++ line) = (.ok (.documents both), c) ∧
    (∀ d, d ∈ both ↔ d ∈ found ∧ d ∈ found') ∧ both.Sublist found ∧
    ∀ cls, cls.Perm (Query.clauses line) → ((Query.clauses line).map Query.keyOf).Nodup →
      ∀ name, c.execute gen mode name (Query.lineOf cls) = c.execute gen mode name line := by
  intro found found' both
  obtain ⟨joined, hjoined, hswapped, hfields⟩ :=
    Session.readQuery_join_apart hne hne' hread hread' hapart
  have hboth : c.documents.filter joined.toDocument.satisfies = both :=
    List.filter_congr fun d _ => Document.satisfies_of_mem_iff hfields d
  have hoperator : ∀ key ∈ Fields.keys joined.toDocument, isOperator key = false := by
    rw [Fields.keys, List.forall_mem_map]
    intro f hf
    -- each field comes from one of the two queries
    rcases (hfields f).mp hf with hf | hf
    · exact hkeys f.1 (List.mem_map_of_mem hf)
    · exact hkeys' f.1 (List.mem_map_of_mem hf)
  refine ⟨⟨joined, hjoined⟩, execute_find_eq hread hkeys mode, execute_find_eq hread' hkeys' mode,
    ?_, ?_, ?_, ?_, ?_⟩
  · rw [execute_find_eq hjoined hoperator mode, hboth]
  · rw [execute_find_eq hswapped hoperator mode, hboth]
  · intro d
    rw [List.mem_filter, List.mem_filter, List.mem_filter, Bool.and_eq_true]
    tauto
  · have hfilter : both = found.filter q'.toDocument.satisfies := by
      rw [List.filter_filter]
      exact List.filter_congr fun d _ => Bool.and_comm _ _
    rw [hfilter]
    exact List.filter_sublist
  · intro cls hperm hdifferent name
    exact execute_congr ((Session.readQuery_perm hread hdifferent hperm).trans hread.symm)

/-- Documents with a text that ends in a comma, with a key that begins with a blank, and with
both. -/
def blankKeys : Collection :=
  ⟨"c", [[("_id", .int32 1), (" k", .int64 1), ("k", .string "1,"), ("m", .string "x")],
    [("_id", .int32 2), ("k", .string "1,"), ("m", .string "x")],
    [("_id", .int32 3), (" k", .int32 1)]], 0⟩

/-- The lines `k=1,, m=x` and ` k=1` find two documents each, and joined they find the one that has
all. -/
theorem find_joined_blankKeys :
    let gen : Nat → ObjectId := fun _ => ⟨0⟩
    let q : Query := ⟨[("k", .text "1,"), ("m", .text "x")]⟩
    let q' : Query := ⟨[(" k", .integer 1)]⟩
    let ds := blankKeys.documents
    (Session.readQuery "k=1,, m=x" = .ok q ∧ Session.readQuery " k=1" = .ok q' ∧
      Session.KeysApart q q' ∧
      (∀ key ∈ Fields.keys q.toDocument, isOperator key = false) ∧
      ∀ key ∈ Fields.keys q'.toDocument, isOperator key = false) ∧
    blankKeys.execute gen .general "find" "k=1,, m=x" =
      (.ok (.documents (ds.take 2)), blankKeys) ∧
    blankKeys.execute gen .general "find" " k=1" =
      (.ok (.documents (ds.eraseIdx 1)), blankKeys) ∧
    blankKeys.execute gen .general "find" "k=1,, m=x,  k=1" =
      (.ok (.documents (ds.take 1)), blankKeys) ∧
    blankKeys.execute gen .general "find" " k=1, k=1,, m=x" =
      (.ok (.documents (ds.take 1)), blankKeys) ∧
    blankKeys.execute gen .general "find" "m=x, k=1," =
      blankKeys.execute gen .general "find" "k=1,, m=x" := by
  intro gen q q' ds
  have hread : Session.readQuery "k=1,, m=x" = .ok q :=
    Session.readQuery_eq_ok.mpr (by decide +kernel)
  have hread' : Session.readQuery " k=1" = .ok q' := Session.readQuery_eq_ok.mpr (by decide +kernel)
  have hapart : Session.KeysApart q q' := by
    rw [Session.KeysApart]
    decide
  have hkeys : ∀ key ∈ Fields.keys q.toDocument, isOperator key = false := by decide
  have hkeys' : ∀ key ∈ Fields.keys q'.toDocument, isOperator key = false := by decide
  obtain ⟨-, hfound, hfound', hboth, hswapped, -, -, horder⟩ :=
    find_joined gen .general blankKeys "k=1,, m=x" " k=1" q q' (by decide) (by decide) hread hread'
      hapart hkeys hkeys'
  refine ⟨⟨hread, hread', hapart, hkeys, hkeys'⟩, hfound, hfound', hboth, hswapped, ?_⟩
  exact horder ["m=x".toList, "k=1,".toList] (by decide +kernel) (by decide +kernel) "find"

end Collection
end DocLoad
