import DocLoad.Proofs.Except
import DocLoad.Proofs.Query.Sorted
import DocLoad.Proofs.Text.Split
import DocLoad.Session

/-!
# DocLoad.Proofs.Query.Grammar — which query lines are accepted, and what they mean

A query line is cut at each comma with a blank behind it, from left to right, and it is accepted
exactly when every piece has a `=` in it.  Of several clauses with one key, the last one counts
(`IsLast`).  `readQuery_grammar` says this and its converse: the line that is written from given
keys and values is read as these, and a line is made of its clauses.

The parts are `readAll_ok` and `readAll_error` for the clauses one by one, `cut_clauses` and
`clauses_lineOf` for the way between a line and its clauses, and `ofClauses_eq` for the clauses that
do not count.
-/

namespace DocLoad.Query

/-! ## Clauses -/

/-- The text of a clause before its first `=`. -/
def keyOf (clause : List Char) : String :=
  String.ofList (clause.takeWhile (· ≠ '='))

/-- The text of a clause after its first `=`. -/
def valueOf (clause : List Char) : List Char :=
  (clause.dropWhile (· ≠ '=')).tail

/-- The key and the value that a clause stands for. -/
def entry (clause : List Char) : String × Literal :=
  (keyOf clause, Literal.ofChars (valueOf clause))

/-- The line with the given clauses. -/
def lineOf (clauses : List (List Char)) : String :=
  String.ofList ([',', ' '].intercalate clauses)

/-- A clause can be read if it has an `=` in it. -/
theorem readClause_eq (clause : List Char) :
    readClause clause =
      if '=' ∈ clause then .ok (entry clause) else .error (String.ofList clause) := by
  rw [readClause, Text.cutFirst_eq]
  by_cases h : '=' ∈ clause
  · rw [if_pos h, if_pos h]
    rfl
  · rw [if_neg h, if_neg h]

theorem ne_equals_of_not_mem {key : List Char} (hkey : '=' ∉ key) :
    ∀ c ∈ key, decide (c ≠ '=') = true := by
  intro c hc
  exact decide_eq_true fun h => hkey (h ▸ hc)

/-- The key of a clause ends at its first `=`. -/
theorem keyOf_append {key : List Char} (hkey : '=' ∉ key) (value : List Char) :
    keyOf (key ++ '=' :: value) = String.ofList key := by
  rw [keyOf, List.takeWhile_append_of_pos (ne_equals_of_not_mem hkey)]
  simp

/-- The value of a clause starts behind its first `=`, whatever else is in it. -/
theorem valueOf_append {key : List Char} (hkey : '=' ∉ key) (value : List Char) :
    valueOf (key ++ '=' :: value) = value := by
  rw [valueOf, List.dropWhile_append_of_pos (ne_equals_of_not_mem hkey)]
  simp

/-- A separator does not arise where a key and a value meet. -/
theorem not_infix_clause {key value : List Char} (hkey : ¬ [',', ' '] <:+: key)
    (hvalue : ¬ [',', ' '] <:+: value) : ¬ [',', ' '] <:+: key ++ '=' :: value := by
  induction key with
  | nil =>
    rw [List.nil_append, List.infix_cons_iff, not_or]
    exact ⟨by simp, hvalue⟩
  | cons c key ih =>
    rw [List.infix_cons_iff, not_or] at hkey
    rw [List.cons_append, List.infix_cons_iff, not_or]
    refine ⟨?_, ih hkey.2⟩
    rw [List.cons_prefix_cons]
    -- a separator that starts in the key ends in it, since an equals sign is no blank
    rintro ⟨rfl, hpre⟩
    apply hkey.1
    rw [List.cons_prefix_cons]
    refine ⟨rfl, ?_⟩
    cases key with
    | nil => simp at hpre
    | cons d key => simpa using hpre

/-! ## Clauses one by one -/

variable {cls before after : List (List Char)} {clause : List Char}

theorem readAll_ok (h : ∀ cl ∈ cls, '=' ∈ cl) : cls.mapM readClause = .ok (cls.map entry) := by
  induction cls with
  | nil => rfl
  | cons cl cls ih =>
    rw [List.forall_mem_cons] at h
    rw [List.mapM_cons, ih h.2, readClause_eq, if_pos h.1]
    rfl

/-- The first clause without `=` is handed back. -/
theorem readAll_error (hbefore : ∀ cl ∈ before, '=' ∈ cl) (hclause : '=' ∉ clause) :
    (before ++ clause :: after).mapM readClause = .error (String.ofList clause) := by
  induction before with
  | nil =>
    rw [List.nil_append, List.mapM_cons, readClause_eq, if_neg hclause]
    rfl
  | cons cl before ih =>
    rw [List.forall_mem_cons] at hbefore
    rw [List.cons_append, List.mapM_cons, ih hbefore.2, readClause_eq, if_pos hbefore.1]
    rfl

/-- Either every clause has a `=`, or there is a first one that has none. -/
theorem all_or_first (cls : List (List Char)) :
    (∀ cl ∈ cls, '=' ∈ cl) ∨
      ∃ before clause after, cls = before ++ clause :: after ∧ (∀ cl ∈ before, '=' ∈ cl) ∧
        '=' ∉ clause := by
  induction cls with
  | nil => exact .inl (by simp)
  | cons cl cls ih =>
    by_cases hcl : '=' ∈ cl
    · rcases ih with hall | ⟨before, clause, after, rfl, hbefore, hclause⟩
      · exact .inl (List.forall_mem_cons.mpr ⟨hcl, hall⟩)
      · exact .inr ⟨cl :: before, clause, after, rfl, List.forall_mem_cons.mpr ⟨hcl, hbefore⟩,
          hclause⟩
    · exact .inr ⟨[], cl, cls, rfl, by simp, hcl⟩

/-! ## Lines and their clauses -/

@[simp] theorem clauses_empty : clauses "" = [] := rfl

/-- A line that is not empty is cut at every comma with a blank behind it. -/
theorem clauses_of_ne_empty {line : String} (h : line ≠ "") :
    clauses line = Text.splitPair ',' ' ' line.toList := by
  have hempty : line.isEmpty = false := by
    rw [Bool.eq_false_iff, ne_eq, String.isEmpty_iff]
    exact h
  rw [clauses, hempty]
  rfl

/-- The clauses of a line are its pieces between the separators. -/
theorem cut_clauses {line : String} (h : line ≠ "") :
    Text.Cut [',', ' '] line.toList (clauses line) := by
  rw [clauses_of_ne_empty h]
  exact Text.cut_splitPair (by decide) _

/-- A line is made of its clauses. -/
theorem lineOf_clauses (line : String) : lineOf (clauses line) = line := by
  by_cases h : line = ""
  · subst h
    rfl
  · rw [lineOf, (cut_clauses h).intercalate, String.ofList_toList]

/-- No clause has a separator in it. -/
theorem not_infix_of_mem_clauses {line : String} :
    ∀ cl ∈ clauses line, ¬ [',', ' '] <:+: cl := by
  by_cases h : line = ""
  · subst h
    simp
  · exact (cut_clauses h).not_isInfix (List.cons_ne_nil _ _)

/-- Clauses with a `=` and without a separator are found again in their line. -/
theorem clauses_lineOf (heq : ∀ cl ∈ cls, '=' ∈ cl) (hsep : ∀ cl ∈ cls, ¬ [',', ' '] <:+: cl) :
    clauses (lineOf cls) = cls := by
  rcases cls with - | ⟨cl, cls⟩
  · rfl
  have hcut : Text.splitPair ',' ' ' ([',', ' '].intercalate (cl :: cls)) = cl :: cls :=
    Text.splitPair_intercalate (by decide) (List.cons_ne_nil _ _) hsep
  have hne : lineOf (cl :: cls) ≠ "" := by
    intro h
    -- an empty line would be cut into one empty clause, which has no `=`
    have hnil : [',', ' '].intercalate (cl :: cls) = [] := String.ofList_injective h
    rw [hnil] at hcut
    obtain ⟨rfl, -⟩ := List.cons.inj hcut
    have hmem := heq [] List.mem_cons_self
    cases hmem
  rw [clauses_of_ne_empty hne, lineOf, String.toList_ofList, hcut]

/-! ## The clauses that count -/

/-- A clause that no other clause with its key follows. -/
def IsLast (cls : List (List Char)) (clause : List Char) : Prop :=
  ∃ before after, cls = before ++ clause :: after ∧ ∀ cl ∈ after, keyOf cl ≠ keyOf clause

theorem IsLast.mem (h : IsLast cls clause) : clause ∈ cls := by
  obtain ⟨before, after, rfl, -⟩ := h
  simp

/-- The last clause of a key is the first one of a list if the key does not come again, or it is the
last one in the rest. -/
theorem isLast_cons {cl : List Char} :
    IsLast (clause :: cls) cl ↔
      (cl = clause ∧ ∀ cl' ∈ cls, keyOf cl' ≠ keyOf cl) ∨ IsLast cls cl := by
  constructor
  · rintro ⟨before, after, heq, hafter⟩
    rcases before with - | ⟨b, before⟩
    · obtain ⟨rfl, rfl⟩ := List.cons.inj heq
      exact .inl ⟨rfl, hafter⟩
    · obtain ⟨rfl, rfl⟩ := List.cons.inj heq
      exact .inr ⟨before, after, rfl, hafter⟩
  · rintro (⟨rfl, hafter⟩ | ⟨before, after, rfl, hafter⟩)
    · exact ⟨[], cls, rfl, hafter⟩
    · exact ⟨clause :: before, after, rfl, hafter⟩

/-- Every key has a last clause. -/
theorem exists_isLast {k : String} (h : ∃ cl ∈ cls, keyOf cl = k) :
    ∃ cl, IsLast cls cl ∧ keyOf cl = k := by
  induction cls with
  | nil => simp at h
  | cons cl cls ih =>
    by_cases hlater : ∃ cl' ∈ cls, keyOf cl' = k
    · obtain ⟨last, hlast, hkey⟩ := ih hlater
      exact ⟨last, isLast_cons.mpr (.inr hlast), hkey⟩
    · -- no later clause has the key, so it is the key of this one
      obtain ⟨cl', hmem, hkey⟩ := h
      rcases List.mem_cons.mp hmem with rfl | hmem
      · refine ⟨cl', isLast_cons.mpr (.inl ⟨rfl, fun later hin heq => ?_⟩), hkey⟩
        exact hlater ⟨later, hin, heq.trans hkey⟩
      · exact absurd ⟨cl', hmem, hkey⟩ hlater

/-- A key has only one last clause. -/
theorem IsLast.unique {clause' : List Char} (h : IsLast cls clause) (h' : IsLast cls clause')
    (hkey : keyOf clause = keyOf clause') : clause = clause' := by
  induction cls with
  | nil => cases h.mem
  | cons cl cls ih =>
    rcases isLast_cons.mp h with ⟨rfl, hlater⟩ | hrest
    · rcases isLast_cons.mp h' with ⟨rfl, -⟩ | hrest'
      · rfl
      · exact absurd hkey.symm (hlater clause' hrest'.mem)
    · rcases isLast_cons.mp h' with ⟨rfl, hlater'⟩ | hrest'
      · exact absurd hkey (hlater' clause hrest.mem)
      · exact ih hrest hrest'

/-- The last clause of each key. -/
def lastClauses : List (List Char) → List (List Char)
  | [] => []
  | cl :: cls =>
    if ∃ cl' ∈ cls, keyOf cl' = keyOf cl then lastClauses cls else cl :: lastClauses cls

/-- The list of last clauses has all of these and nothing else. -/
theorem mem_lastClauses : clause ∈ lastClauses cls ↔ IsLast cls clause := by
  induction cls with
  | nil => exact ⟨nofun, fun h => h.mem⟩
  | cons cl cls ih =>
    rw [lastClauses, isLast_cons]
    split
    · next hlater =>
      rw [ih]
      refine ⟨.inr, ?_⟩
      rintro (⟨rfl, hnone⟩ | hlast)
      · obtain ⟨cl', hmem, hkey⟩ := hlater
        exact absurd hkey (hnone cl' hmem)
      · exact hlast
    · next hlater =>
      rw [List.mem_cons, ih]
      refine or_congr_left ⟨?_, And.left⟩
      rintro rfl
      exact ⟨rfl, fun cl' hmem hkey => hlater ⟨cl', hmem, hkey⟩⟩

/-- No clause is the last one of its key twice. -/
theorem nodup_lastClauses (cls : List (List Char)) : (lastClauses cls).Nodup := by
  induction cls with
  | nil => exact List.nodup_nil
  | cons cl cls ih =>
    rw [lastClauses]
    split
    · exact ih
    · next hlater =>
      refine List.nodup_cons.mpr ⟨fun hmem => hlater ?_, ih⟩
      exact ⟨cl, (mem_lastClauses.mp hmem).mem, rfl⟩

/-- What stands under a key is the value of its last clause. -/
theorem get?_ofClauses (h : IsLast cls clause) :
    Fields.get? (keyOf clause) (ofClauses (cls.map entry)).fields =
      some (Literal.ofChars (valueOf clause)) := by
  obtain ⟨before, after, rfl, hafter⟩ := h
  rw [List.map_append, List.map_cons]
  apply get?_ofClauses_of_last
  simp only [List.map_map, List.mem_map]
  rintro ⟨cl, hcl, hkey⟩
  exact hafter cl hcl hkey

/-- The keys of a query are those of its clauses. -/
theorem mem_keys_iff {k : String} :
    k ∈ Fields.keys (ofClauses (cls.map entry)).fields ↔ ∃ cl ∈ cls, keyOf cl = k := by
  rw [mem_keys_ofClauses, List.map_map, List.mem_map]
  rfl

theorem get?_ofClauses_of_none {k : String} (h : ¬ ∃ cl ∈ cls, keyOf cl = k) :
    Fields.get? k (ofClauses (cls.map entry)).fields = none := by
  rwa [Fields.get?_eq_none_iff, mem_keys_iff]

section

variable {kept : List (List Char)} (hkept : kept.Perm (lastClauses cls))
include hkept

theorem mem_kept {cl : List Char} : cl ∈ kept ↔ IsLast cls cl := by
  rw [hkept.mem_iff, mem_lastClauses]

/-- Where only last clauses are kept, they stay the last ones in any order. -/
theorem IsLast.of_kept (h : IsLast cls clause) : IsLast kept clause := by
  obtain ⟨before, after, rfl⟩ := List.append_of_mem ((mem_kept hkept).mpr h)
  refine ⟨before, after, rfl, fun cl hcl hkey => ?_⟩
  have hlast : IsLast cls cl := (mem_kept hkept).mp (by simp [hcl])
  have hsame : cl = clause := hlast.unique h hkey
  have hnodup : (before ++ clause :: after).Nodup := hkept.nodup_iff.mpr (nodup_lastClauses cls)
  have htwice := (List.nodup_append.mp hnodup).2.1
  rw [List.nodup_cons] at htwice
  exact htwice.1 (hsame ▸ hcl)

/-- Clauses that are not the last ones with their keys do not count, and neither does the order of
the others. -/
theorem ofClauses_eq : ofClauses (kept.map entry) = ofClauses (cls.map entry) := by
  have hget : ∀ k, Fields.get? k (ofClauses (kept.map entry)).fields =
      Fields.get? k (ofClauses (cls.map entry)).fields := by
    intro k
    by_cases hk : ∃ cl ∈ cls, keyOf cl = k
    · obtain ⟨cl, hlast, rfl⟩ := exists_isLast hk
      rw [get?_ofClauses hlast, get?_ofClauses (hlast.of_kept hkept)]
    · have hk' : ¬ ∃ cl ∈ kept, keyOf cl = k := by
        rintro ⟨cl, hcl, hkey⟩
        exact hk ⟨cl, ((mem_kept hkept).mp hcl).mem, hkey⟩
      rw [get?_ofClauses_of_none hk, get?_ofClauses_of_none hk']
  have hfields := eq_of_get?_eq increasing_ofClauses increasing_ofClauses hget
  rw [← Query.mk.injEq] at hfields
  exact hfields

end

/-! ## The grammar -/

theorem keys_toDocument (q : Query) : Fields.keys q.toDocument = Fields.keys q.fields := by
  rw [toDocument, Fields.keys, List.map_map]
  rfl

theorem get?_toDocument (k : String) (q : Query) :
    Fields.get? k q.toDocument = (Fields.get? k q.fields).map Literal.toBson := by
  obtain ⟨fields⟩ := q
  simp only [toDocument]
  induction fields with
  | nil => rfl
  | cons f fields ih =>
    obtain ⟨j, v⟩ := f
    by_cases h : j = k
    · simp [Fields.get?, h]
    · simp [Fields.get?, h, ih]

/-- A line is read if all its clauses have an `=`. -/
theorem read_ok {line : String} (h : ∀ cl ∈ clauses line, '=' ∈ cl) :
    read line = .ok (ofClauses ((clauses line).map entry)) := by
  rw [read, readAll_ok h]
  rfl

/-- A line fails with its first clause that has no `=`. -/
theorem read_error {line : String} (hline : clauses line = before ++ clause :: after)
    (hbefore : ∀ cl ∈ before, '=' ∈ cl) (hclause : '=' ∉ clause) :
    read line = .error (String.ofList clause) := by
  rw [read, hline, readAll_error hbefore hclause]
  rfl

/-- What a query that was read is made of. -/
theorem eq_of_read_eq_ok {line : String} {q : Query} (h : read line = .ok q) :
    (∀ cl ∈ clauses line, '=' ∈ cl) ∧ q = ofClauses ((clauses line).map entry) := by
  rcases all_or_first (clauses line) with hall | ⟨before, clause, after, hline, hbefore, hclause⟩
  · rw [read_ok hall] at h
    cases h
    exact ⟨hall, rfl⟩
  · rw [read_error hline hbefore hclause] at h
    cases h

end DocLoad.Query

namespace DocLoad.Session

open Query

theorem readQuery_eq_ok {line : String} {q : Query} :
    readQuery line = .ok q ↔ Query.read line = .ok q := by
  rw [readQuery]
  cases Query.read line <;> simp

theorem readQuery_eq_error {line clause : String} :
    readQuery line = .error (.malformedQuery clause) ↔ Query.read line = .error clause := by
  rw [readQuery]
  cases Query.read line <;> simp

/-- A line is accepted exactly when all its clauses have a `=`. -/
theorem exists_readQuery_eq_ok {line : String} :
    (∃ q, readQuery line = .ok q) ↔ ∀ cl ∈ clauses line, '=' ∈ cl := by
  constructor
  · rintro ⟨q, hq⟩
    exact (eq_of_read_eq_ok (readQuery_eq_ok.mp hq)).1
  · intro hall
    exact ⟨_, readQuery_eq_ok.mpr (read_ok hall)⟩

/-- The error names the first clause without `=`. -/
theorem readQuery_eq_error_iff {line : String} {e : Error} :
    readQuery line = .error e ↔
      ∃ before clause after, clauses line = before ++ clause :: after ∧
        (∀ cl ∈ before, '=' ∈ cl) ∧ '=' ∉ clause ∧
        e = .malformedQuery (String.ofList clause) := by
  constructor
  · intro h
    rcases all_or_first (clauses line) with hall | ⟨before, clause, after, hline, hbefore, hclause⟩
    · rw [readQuery_eq_ok.mpr (read_ok hall)] at h
      cases h
    · rw [readQuery_eq_error.mpr (read_error hline hbefore hclause)] at h
      cases h
      exact ⟨before, clause, after, hline, hbefore, hclause, rfl⟩
  · rintro ⟨before, clause, after, hline, hbefore, hclause, rfl⟩
    exact readQuery_eq_error.mpr (read_error hline hbefore hclause)

section

variable {line : String} {q : Query} (h : readQuery line = .ok q)
include h

theorem mem_keys_of_readQuery {k : String} :
    k ∈ Fields.keys q.toDocument ↔ ∃ cl ∈ clauses line, keyOf cl = k := by
  obtain ⟨-, rfl⟩ := eq_of_read_eq_ok (readQuery_eq_ok.mp h)
  rw [keys_toDocument, mem_keys_iff]

/-- The keys of a query that was read increase. -/
theorem increasing_of_readQuery : Increasing q.toDocument := by
  obtain ⟨-, rfl⟩ := eq_of_read_eq_ok (readQuery_eq_ok.mp h)
  rw [Increasing, keys_toDocument]
  exact increasing_ofClauses

/-- A query that was read has the value of the last clause of each key. -/
theorem get?_of_readQuery {clause : List Char} (hlast : IsLast (clauses line) clause) :
    Fields.get? (keyOf clause) q.toDocument =
      some (Literal.ofChars (valueOf clause)).toBson := by
  obtain ⟨-, rfl⟩ := eq_of_read_eq_ok (readQuery_eq_ok.mp h)
  rw [get?_toDocument, get?_ofClauses hlast]
  rfl

/-- Each field of a query is what the last clause with its key says. -/
theorem exists_entry_of_mem {f : String × Literal} (hf : f ∈ q.fields) :
    ∃ cl, IsLast (clauses line) cl ∧ f = entry cl := by
  rcases eq_of_read_eq_ok (readQuery_eq_ok.mp h) with ⟨-, rfl⟩
  have hkey : ∃ cl ∈ clauses line, keyOf cl = f.1 := mem_keys_iff.mp (List.mem_map_of_mem hf)
  rcases exists_isLast hkey with ⟨cl, hlast, hcl⟩
  have hget := get?_ofClauses hlast
  rw [hcl, get?_of_mem increasing_ofClauses hf] at hget
  exact ⟨cl, hlast, Prod.ext hcl.symm (Option.some.inj hget)⟩

/-- The last clauses of a line mean what the line means. -/
theorem readQuery_lineOf_last {kept : List (List Char)}
    (hkept : kept.Perm (lastClauses (clauses line))) : readQuery (lineOf kept) = .ok q := by
  obtain ⟨hall, rfl⟩ := eq_of_read_eq_ok (readQuery_eq_ok.mp h)
  have hmem : ∀ cl ∈ kept, cl ∈ clauses line := fun cl hcl => ((mem_kept hkept).mp hcl).mem
  have hclauses : clauses (lineOf kept) = kept :=
    clauses_lineOf (fun cl hcl => hall cl (hmem cl hcl))
      fun cl hcl => not_infix_of_mem_clauses cl (hmem cl hcl)
  have hall' : ∀ cl ∈ clauses (lineOf kept), '=' ∈ cl := by
    rw [hclauses]
    exact fun cl hcl => hall cl (hmem cl hcl)
  rw [readQuery_eq_ok, read_ok hall', hclauses, ofClauses_eq hkept]

end

/-- A line made of keys and values falls into them again. -/
theorem clauses_lineOf_pairs {pairs : List (List Char × List Char)}
    (h : ∀ p ∈ pairs, '=' ∉ p.1 ∧ ¬ [',', ' '] <:+: p.1 ∧ ¬ [',', ' '] <:+: p.2) :
    clauses (lineOf (pairs.map fun p => p.1 ++ '=' :: p.2)) =
      pairs.map fun p => p.1 ++ '=' :: p.2 := by
  apply clauses_lineOf
  · rw [List.forall_mem_map]
    intro p hp
    simp
  · rw [List.forall_mem_map]
    intro p hp
    obtain ⟨-, hkey, hvalue⟩ := h p hp
    exact not_infix_clause hkey hvalue

/-- A line with one clause is the query of its key and value. -/
theorem readQuery_clause {key : String} (hkey : '=' ∉ key.toList ∧ ¬ [',', ' '] <:+: key.toList)
    {value : String} (hvalue : ¬ [',', ' '] <:+: value.toList) :
    readQuery (key ++ "=" ++ value) = .ok ⟨[(key, Literal.ofChars value.toList)]⟩ := by
  have hpair : ∀ p ∈ [(key.toList, value.toList)],
      '=' ∉ p.1 ∧ ¬ [',', ' '] <:+: p.1 ∧ ¬ [',', ' '] <:+: p.2 := by
    simpa using ⟨hkey.1, hkey.2, hvalue⟩
  have hclauses := clauses_lineOf_pairs hpair
  have hline : lineOf [key.toList ++ '=' :: value.toList] = key ++ "=" ++ value := by
    apply String.toList_injective
    simp [lineOf]
  rw [List.map_singleton, hline] at hclauses
  have hall : ∀ cl ∈ clauses (key ++ "=" ++ value), '=' ∈ cl := by
    rw [hclauses]
    simp
  rw [readQuery_eq_ok, read_ok hall, hclauses, List.map_singleton, entry, keyOf_append hkey.1,
    valueOf_append hkey.1, String.ofList_toList]
  rfl

/-- The grammar of query lines.

A non-empty line is cut at the separators, and is accepted exactly when every clause has a `=`; the
error names the first one that has none.  An accepted line gives each key the value of its last
clause, with the keys in increasing order; the line is made of its clauses, and the last clauses
alone, in any order, mean the same.  A line that is made of keys and values is accepted and falls
into them again, whatever commas, blanks and `=` stand in them otherwise. -/
theorem readQuery_grammar :
    readQuery "" = .ok .empty ∧
    (∀ line, line ≠ "" →
      Text.Cut [',', ' '] line.toList (clauses line) ∧
      ((∃ q, readQuery line = .ok q) ↔ ∀ cl ∈ clauses line, '=' ∈ cl) ∧
      ∀ e, readQuery line = .error e ↔
        ∃ before clause after, clauses line = before ++ clause :: after ∧
          (∀ cl ∈ before, '=' ∈ cl) ∧ '=' ∉ clause ∧
          e = .malformedQuery (String.ofList clause)) ∧
    (∀ line q, readQuery line = .ok q →
      (∀ k, k ∈ Fields.keys q.toDocument ↔ ∃ cl ∈ clauses line, keyOf cl = k) ∧
      (Fields.keys q.toDocument).Pairwise (fun k k' => utf8 k < utf8 k') ∧
      (∀ cl, IsLast (clauses line) cl →
        Fields.get? (keyOf cl) q.toDocument = some (Literal.ofChars (valueOf cl)).toBson) ∧
      lineOf (clauses line) = line ∧
      ∀ kept : List (List Char), kept.Perm (lastClauses (clauses line)) →
        readQuery (lineOf kept) = .ok q) ∧
    ∀ pairs : List (List Char × List Char), pairs ≠ [] →
      (∀ p ∈ pairs, '=' ∉ p.1 ∧ ¬ [',', ' '] <:+: p.1 ∧ ¬ [',', ' '] <:+: p.2) →
      let line := lineOf (pairs.map fun p => p.1 ++ '=' :: p.2)
      (∃ q, readQuery line = .ok q) ∧
        (clauses line).map (fun cl => (keyOf cl, valueOf cl)) =
          pairs.map fun p => (String.ofList p.1, p.2) := by
  refine ⟨rfl, ?_, ?_, ?_⟩
  · intro line hne
    exact ⟨cut_clauses hne, exists_readQuery_eq_ok, fun e => readQuery_eq_error_iff⟩
  · intro line q h
    exact ⟨fun k => mem_keys_of_readQuery h, increasing_of_readQuery h,
      fun cl => get?_of_readQuery h, lineOf_clauses line,
      fun kept hkept => readQuery_lineOf_last h hkept⟩
  · intro pairs _ hpairs line
    have hclauses := clauses_lineOf_pairs hpairs
    constructor
    · rw [exists_readQuery_eq_ok, hclauses, List.forall_mem_map]
      intro p _
      simp
    · rw [hclauses, List.map_map]
      apply List.map_congr_left
      intro p hp
      have hkey := (hpairs p hp).1
      exact Prod.ext (keyOf_append hkey p.2) (valueOf_append hkey p.2)

/-- Only a comma with a blank behind it separates, and the first `=` ends a key. -/
example : (clauses "a=1,,  b=x=y, a=2").map (fun cl => (keyOf cl, valueOf cl)) =
    [("a", "1,".toList), (" b", "x=y".toList), ("a", "2".toList)] := by
  decide +kernel

end DocLoad.Session
