import DocLoad.Bson.Basic

/-!
# DocLoad.Proofs.Bson.Equality — what equality of values means

`==` runs through the fields of both documents, and of several fields with one key the first
counts.  Here it is read as what it decides:

* `beq_document_iff` — two documents are equal exactly when every key has equal values, or none,
  in both;
* `beq_comm`, `beq_trans` — equality is symmetric and transitive, at every depth.  It is not
  reflexive: a value with a NaN in it differs from itself, but any other value equals itself
  (`beq_self_of_hasNaN`).

Values are nested in lists and in fields, so inductions on them go through `induct`.
-/

namespace DocLoad

theorem Double.numEq_comm (x y : Double) : x.numEq y = y.numEq x := by
  rw [Bool.eq_iff_iff]
  simp only [numEq, Bool.and_eq_true, Bool.or_eq_true, beq_iff_eq]
  grind

/-- Equality of numbers is transitive; zeros of both signs are equal. -/
theorem Double.numEq_trans {x y z : Double} (hxy : x.numEq y = true) (hyz : y.numEq z = true) :
    x.numEq z = true := by
  simp only [numEq, Bool.and_eq_true, Bool.or_eq_true, beq_iff_eq] at *
  grind

/-- Every number but a NaN equals itself. -/
theorem Double.numEq_self {x : Double} (h : x.isNaN = false) : x.numEq x = true := by
  simp [numEq, h]

namespace Bson

/-! ## Induction -/

/-- A value without values inside it. -/
def IsLeaf : Bson → Prop
  | .array _ | .document _ | .codeWithScope _ _ => False
  | _ => True

/-- Induction on values: a property of all values inside a value carries over to that value. -/
theorem induct {P : Bson → Prop} (leaf : ∀ v, v.IsLeaf → P v)
    (items : ∀ vs, (∀ v ∈ vs, P v) → P (.array vs))
    (fields : ∀ fs, (∀ f ∈ fs, P f.2) → P (.document fs))
    (scope : ∀ s fs, (∀ f ∈ fs, P f.2) → P (.codeWithScope s fs)) : ∀ v, P v
  | .array vs => items vs fun v _ => induct leaf items fields scope v
  | .document fs => fields fs fun f _ => induct leaf items fields scope f.2
  | .codeWithScope s fs => scope s fs fun f _ => induct leaf items fields scope f.2
  | .null | .undefined | .minKey | .maxKey | .boolean _ | .int32 _ | .int64 _ | .double _
  | .string _ | .symbol _ | .objectId _ | .dateTime _ | .binary _ _ | .regex _ _ | .code _
  | .timestamp _ _ | .decimal _ | .dbPointer _ _ => leaf _ trivial
termination_by v => sizeOf v
decreasing_by
  · have := List.sizeOf_lt_of_mem ‹_ ∈ _›
    simp only [Bson.array.sizeOf_spec]
    omega
  · obtain ⟨k, v⟩ := f
    have := List.sizeOf_lt_of_mem ‹_ ∈ _›
    simp only [Bson.document.sizeOf_spec, Prod.mk.sizeOf_spec] at this ⊢
    omega
  · obtain ⟨k, v⟩ := f
    have := List.sizeOf_lt_of_mem ‹_ ∈ _›
    simp only [Bson.codeWithScope.sizeOf_spec, Prod.mk.sizeOf_spec] at this ⊢
    omega

/-! ## Documents -/

/-- The first half of document equality: what the left side holds, the right side holds too. -/
theorem fieldsAgree_iff {seen : List String} {a b : List (String × Bson)} :
    fieldsAgree seen a b = true ↔
      ∀ k, k ∉ seen → ∀ v, Fields.get? k a = some v →
        ∃ w, Fields.get? k b = some w ∧ beq v w = true := by
  induction a generalizing seen with
  | nil => simp [fieldsAgree]
  | cons f rest ih =>
    obtain ⟨k, v⟩ := f
    rw [fieldsAgree, Bool.and_eq_true, ih]
    constructor
    · intro ⟨hk, hrest⟩ k' hk' v' hv'
      by_cases h : k = k'
      · -- the first field with the key decides
        subst h
        obtain rfl : v = v' := by simpa [Fields.get?] using hv'
        cases hb : Fields.get? k b <;> simp_all
      · have hv' : Fields.get? k' rest = some v' := by simpa [Fields.get?, h] using hv'
        exact hrest k' (by simp [Ne.symm h, hk']) v' hv'
    · intro h
      constructor
      · by_cases hk : k ∈ seen
        · simp [hk]
        · obtain ⟨w, hw, hvw⟩ := h k hk v (by simp [Fields.get?])
          simp [hw, hvw]
      · intro k' hk' v' hv'
        rw [List.mem_cons, not_or] at hk'
        exact h k' hk'.2 v' (by simpa [Fields.get?, Ne.symm hk'.1] using hv')

/-- The second half: the right side has no other keys. -/
theorem all_isSome_iff {a b : List (String × Bson)} :
    (b.all fun f => (Fields.get? f.1 a).isSome) = true ↔
      ∀ k, Fields.get? k a = none → Fields.get? k b = none := by
  simp only [List.all_eq_true, Option.isSome_iff_ne_none, ne_eq, Fields.get?_eq_none_iff]
  constructor
  · intro h k hk hb
    obtain ⟨f, hf, rfl⟩ := List.mem_map.mp hb
    exact h f hf hk
  · intro h f hf hk
    exact h f.1 hk (List.mem_map.mpr ⟨f, hf, rfl⟩)

/-- Two documents are equal when every key has equal values, or none, in both. -/
theorem beq_document_iff {a b : List (String × Bson)} :
    beq (.document a) (.document b) = true ↔
      ∀ k, Option.Rel (fun v w => beq v w = true) (Fields.get? k a) (Fields.get? k b) := by
  rw [beq, Bool.and_eq_true, fieldsAgree_iff, all_isSome_iff]
  constructor
  · intro ⟨ha, hb⟩ k
    cases hv : Fields.get? k a with
    | none =>
      rw [hb k hv]
      exact .none
    | some v =>
      obtain ⟨w, hw, hvw⟩ := ha k List.not_mem_nil v hv
      exact hw ▸ .some hvw
  · intro h
    constructor
    · intro k _ v hv
      have hk := hv ▸ h k
      cases hw : Fields.get? k b with
      | none => rw [hw] at hk; cases hk
      | some w =>
        rw [hw] at hk
        cases hk with
        | some hvw => exact ⟨w, rfl, hvw⟩
    · intro k hv
      have hk := hv ▸ h k
      cases hw : Fields.get? k b with
      | none => rfl
      | some w => rw [hw] at hk; cases hk

/-- Scopes are compared as documents. -/
theorem beq_codeWithScope (s t : String) (a b : List (String × Bson)) :
    beq (.codeWithScope s a) (.codeWithScope t b) =
      (s == t && beq (.document a) (.document b)) := by
  simp only [beq, Bool.and_assoc]

/-! ## Symmetry -/

/-- Lists can be compared either way round if their items can. -/
theorem itemsBeq_comm {as : List Bson} (h : ∀ v ∈ as, ∀ w, beq v w = beq w v) (bs : List Bson) :
    itemsBeq as bs = itemsBeq bs as := by
  induction as generalizing bs with
  | nil => cases bs <;> rfl
  | cons a as ih =>
    cases bs with
    | nil => rfl
    | cons b bs =>
      rw [List.forall_mem_cons] at h
      rw [itemsBeq, itemsBeq, h.1 b, ih h.2]

/-- Documents can be compared either way round if the values of their fields can. -/
theorem beq_document_comm {a : List (String × Bson)} (h : ∀ f ∈ a, ∀ w, beq f.2 w = beq w f.2)
    (b : List (String × Bson)) :
    beq (.document a) (.document b) = beq (.document b) (.document a) := by
  have hget : ∀ k v, Fields.get? k a = some v → ∀ w, beq v w = beq w v := by
    intro k v hv
    exact h (k, v) (Fields.mem_of_get? hv)
  rw [Bool.eq_iff_iff, beq_document_iff, beq_document_iff]
  apply forall_congr'
  intro k
  cases hv : Fields.get? k a with
  | none => cases Fields.get? k b <;> simp
  | some v => cases Fields.get? k b <;> simp [hget k v hv]

/-- Equality is symmetric. -/
theorem beq_comm (v w : Bson) : (v == w) = (w == v) := by
  change beq v w = beq w v
  induction v using induct generalizing w with
  | leaf v hv =>
    -- values of different types differ, and those of one type compare by their parts
    cases v <;> cases w <;>
      first
      | rfl
      | exact hv.elim
      | simp only [beq, Bool.beq_comm, Double.numEq_comm]
  | items vs ih =>
    cases w with
    | array ws => exact itemsBeq_comm ih ws
    | _ => rfl
  | fields fs ih =>
    cases w with
    | document gs => exact beq_document_comm ih gs
    | _ => rfl
  | scope s fs ih =>
    cases w with
    | codeWithScope t gs =>
      rw [beq_codeWithScope, beq_codeWithScope, beq_document_comm ih gs, Bool.beq_comm]
    | _ => rfl

/-! ## Transitivity -/

/-- Values without values inside them are equal when they are the same, or doubles that are equal
as numbers. -/
theorem beq_leaf {u v : Bson} (hv : v.IsLeaf) (h : beq u v = true) :
    u = v ∨ ∃ x y, u = .double x ∧ v = .double y ∧ x.numEq y = true := by
  cases v <;> cases u <;>
    first
    | exact hv.elim
    | exact absurd h Bool.false_ne_true
    | exact .inr ⟨_, _, rfl, rfl, h⟩
    | simp_all [beq]

/-- Equality of lists is transitive if that of their items is. -/
theorem itemsBeq_trans {as bs cs : List Bson}
    (h : ∀ v ∈ as, ∀ u w, beq u v = true → beq v w = true → beq u w = true)
    (hb : itemsBeq bs as = true) (hc : itemsBeq as cs = true) : itemsBeq bs cs = true := by
  induction as generalizing bs cs with
  | nil => cases bs <;> cases cs <;> simp_all [itemsBeq]
  | cons a as ih =>
    rcases bs with - | ⟨b, bs⟩
    · cases hb
    rcases cs with - | ⟨c, cs⟩
    · cases hc
    rw [itemsBeq, Bool.and_eq_true] at *
    rw [List.forall_mem_cons] at h
    exact ⟨h.1 b c hb.1 hc.1, ih h.2 hb.2 hc.2⟩

/-- Equality of documents is transitive if that of the values of their fields is. -/
theorem beq_document_trans {a b c : List (String × Bson)}
    (h : ∀ f ∈ a, ∀ u w, beq u f.2 = true → beq f.2 w = true → beq u w = true)
    (hb : beq (.document b) (.document a) = true) (hc : beq (.document a) (.document c) = true) :
    beq (.document b) (.document c) = true := by
  rw [beq_document_iff] at *
  intro k
  have hbk := hb k
  have hck := hc k
  cases hv : Fields.get? k a with
  | none =>
    rw [hv] at hbk hck
    cases hu : Fields.get? k b <;> cases hw : Fields.get? k c <;> simp_all
  | some v =>
    have hstep := h (k, v) (Fields.mem_of_get? hv)
    rw [hv] at hbk hck
    -- both other documents have the key as well
    generalize Fields.get? k b = bk at hbk ⊢
    generalize Fields.get? k c = ck at hck ⊢
    cases hbk with
    | @some u _ huv =>
      cases hck with
      | @some _ w hvw => exact .some (hstep u w huv hvw)

/-- Equality is transitive. -/
theorem beq_trans {u v w : Bson} (huv : (u == v) = true) (hvw : (v == w) = true) :
    (u == w) = true := by
  change beq u v = true at huv
  change beq v w = true at hvw
  change beq u w = true
  -- on the value in the middle, whose form the other two must have
  induction v using induct generalizing u w with
  | leaf v hv =>
    rcases beq_leaf hv huv with rfl | ⟨x, y, rfl, rfl, hxy⟩
    · exact hvw
    · cases w with
      | double z => exact Double.numEq_trans hxy hvw
      | _ => cases hvw
  | items vs ih =>
    cases u with
    | array us =>
      cases w with
      | array ws => exact itemsBeq_trans (fun v hv u w => ih v hv) huv hvw
      | _ => cases hvw
    | _ => cases huv
  | fields fs ih =>
    cases u with
    | document us =>
      cases w with
      | document ws => exact beq_document_trans (fun f hf u w => ih f hf) huv hvw
      | _ => cases hvw
    | _ => cases huv
  | scope s fs ih =>
    cases u with
    | codeWithScope t us =>
      cases w with
      | codeWithScope t' ws =>
        rw [beq_codeWithScope, Bool.and_eq_true, beq_iff_eq] at *
        exact ⟨huv.1.trans hvw.1, beq_document_trans (fun f hf u w => ih f hf) huv.2 hvw.2⟩
      | _ => cases hvw
    | _ => cases huv

/-! ## Reflexivity -/

mutual
/-- Whether there is a NaN in a value, at any depth. -/
def hasNaN : Bson → Bool
  | .double x => x.isNaN
  | .array items => itemsHaveNaN items
  | .document fields => fieldsHaveNaN fields
  | .codeWithScope _ scope => fieldsHaveNaN scope
  | _ => false
/-- Whether there is a NaN in one of the values of a list. -/
def itemsHaveNaN : List Bson → Bool
  | [] => false
  | v :: vs => hasNaN v || itemsHaveNaN vs
/-- Whether there is a NaN in the value of a field. -/
def fieldsHaveNaN : List (String × Bson) → Bool
  | [] => false
  | (_, v) :: rest => hasNaN v || fieldsHaveNaN rest
end

theorem itemsHaveNaN_eq_false {vs : List Bson} :
    itemsHaveNaN vs = false ↔ ∀ v ∈ vs, v.hasNaN = false := by
  induction vs with
  | nil => simp [itemsHaveNaN]
  | cons v vs ih => rw [itemsHaveNaN, Bool.or_eq_false_iff, ih, List.forall_mem_cons]

theorem fieldsHaveNaN_eq_false {fs : List (String × Bson)} :
    fieldsHaveNaN fs = false ↔ ∀ f ∈ fs, f.2.hasNaN = false := by
  induction fs with
  | nil => simp [fieldsHaveNaN]
  | cons f fs ih => rw [fieldsHaveNaN, Bool.or_eq_false_iff, ih, List.forall_mem_cons]

theorem itemsBeq_self {vs : List Bson} (h : ∀ v ∈ vs, beq v v = true) : itemsBeq vs vs = true := by
  induction vs with
  | nil => rfl
  | cons v vs ih =>
    rw [List.forall_mem_cons] at h
    rw [itemsBeq, h.1, ih h.2, Bool.and_self]

theorem beq_document_self {fs : List (String × Bson)} (h : ∀ f ∈ fs, beq f.2 f.2 = true) :
    beq (.document fs) (.document fs) = true := by
  rw [beq_document_iff]
  intro k
  cases hv : Fields.get? k fs with
  | none => exact .none
  | some v => exact .some (h (k, v) (Fields.mem_of_get? hv))

/-- A value without a NaN in it equals itself. -/
theorem beq_self_of_hasNaN {v : Bson} (h : v.hasNaN = false) : (v == v) = true := by
  change beq v v = true
  induction v using induct with
  | leaf v hv =>
    cases v with
    | double x => exact Double.numEq_self h
    | array vs => exact hv.elim
    | document fs => exact hv.elim
    | codeWithScope s fs => exact hv.elim
    | _ => simp [beq]
  | items vs ih =>
    rw [hasNaN, itemsHaveNaN_eq_false] at h
    exact itemsBeq_self fun v hv => ih v hv (h v hv)
  | fields fs ih =>
    rw [hasNaN, fieldsHaveNaN_eq_false] at h
    exact beq_document_self fun f hf => ih f hf (h f hf)
  | scope s fs ih =>
    rw [hasNaN, fieldsHaveNaN_eq_false] at h
    rw [beq_codeWithScope, beq_document_self fun f hf => ih f hf (h f hf), beq_self_eq_true,
      Bool.and_self]

end Bson
end DocLoad
