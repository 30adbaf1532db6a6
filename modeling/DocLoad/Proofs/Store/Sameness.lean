import DocLoad.Proofs.Store.Setting

/-!
# DocLoad.Proofs.Store.Sameness — updates of equal documents, and updates in another order

Equal documents may have their keys in another order, and so may the results of two writes that are
made in one order or in the other.  Nothing else depends on the order:

* `assignAt_same`, `updateField_same`, `update_same` — what succeeds on a document succeeds on an
  equal one, with an equal result;
* `assignAt_comm` — of two writes at paths that are apart, either one may come first.
  `updateField_comm` is the same for two fields, `updateField_update_comm` moves one field past an
  update, and `update_comm` one update past another.

In all of these the first document equals itself, as one without a NaN does.

`same_of_update_iff` tells when an update makes an equal document: when the old one held all fields
already.
-/

namespace DocLoad.Document

/-! ## Equal documents -/

theorem same_comm (d d' : Document) : d.same d' = d'.same d :=
  Bson.beq_comm _ _

theorem same_trans {d d' d'' : Document} (h : d.same d' = true) (h' : d'.same d'' = true) :
    d.same d'' = true :=
  Bson.beq_trans h h'

/-- A document that equals some document equals itself. -/
theorem same_self {d d' : Document} (h : d.same d' = true) : d.same d = true :=
  same_trans h (by rwa [same_comm])

/-- Documents are the same if they have equal values under the same keys, in any order of these. -/
theorem same_iff {d d' : Document} :
    d.same d' = true ↔
      ∀ k, Option.Rel (fun v w => (v == w) = true) (Fields.get? k d) (Fields.get? k d') :=
  Bson.beq_document_iff

variable {d d' d₁ d₂ e nested : Document} {v w : Bson} {key other next : String}
  {rest others : List String}

/-- Where the same values can be looked up, a document is equal to one that equals itself. -/
theorem same_of_get?_eq (hd : d.same d = true) (h : ∀ k, Fields.get? k d = Fields.get? k d') :
    d.same d' = true := by
  rw [same_iff] at hd ⊢
  intro k
  rw [← h k]
  exact hd k

/-- Setting equal values under one key keeps documents the same. -/
theorem same_set (h : d.same d' = true) (hvw : (v == w) = true) :
    same (Fields.set key v d) (Fields.set key w d') = true := by
  rw [same_iff] at h ⊢
  intro k
  by_cases hk : k = key
  · subst hk
    rw [Fields.get?_set_self, Fields.get?_set_self]
    exact .some hvw
  · rw [Fields.get?_set_of_ne hk, Fields.get?_set_of_ne hk]
    exact h k

/-- What can be looked up does not depend on the order in which two keys are set. -/
theorem get?_set_comm (hne : key ≠ other) (v w : Bson) (d : Document) (k : String) :
    Fields.get? k (Fields.set key v (Fields.set other w d)) =
      Fields.get? k (Fields.set other w (Fields.set key v d)) := by
  by_cases hk : k = key
  · subst hk
    rw [Fields.get?_set_self, Fields.get?_set_of_ne hne, Fields.get?_set_self]
  · rw [Fields.get?_set_of_ne hk]
    by_cases hother : k = other
    · subst hother
      rw [Fields.get?_set_self, Fields.get?_set_self]
    · rw [Fields.get?_set_of_ne hother, Fields.get?_set_of_ne hother, Fields.get?_set_of_ne hk]

/-- A write that enters a document below a key enters an equal one in an equal document. -/
theorem Enters.same (henters : d.Enters key nested) (h : d.same d' = true) :
    ∃ nested', d'.Enters key nested' ∧ nested.same nested' = true := by
  rcases henters with ⟨hnone, rfl⟩ | hsome
  · have hrel := same_iff.mp h key
    rw [hnone] at hrel
    cases hget : Fields.get? key d' with
    | none => exact ⟨[], .inl ⟨hget, rfl⟩, rfl⟩
    | some w =>
      rw [hget] at hrel
      cases hrel
  · obtain ⟨w, hw, hequal⟩ := get?_same h hsome
    cases w with
    | document nested' => exact ⟨nested', .inr hw, hequal⟩
    | _ => cases hequal

/-! ## Writes -/

/-- Writes of equal values at one path of equal documents have equal results. -/
theorem assignAt_same (h : d.same d' = true) (hvw : (v == w) = true)
    (hassign : assignAt v d key rest = .ok e) :
    ∃ e', assignAt w d' key rest = .ok e' ∧ e.same e' = true := by
  induction rest generalizing d d' e key with
  | nil =>
    cases hassign
    exact ⟨_, rfl, same_set h hvw⟩
  | cons next rest ih =>
    obtain ⟨nested, result, henters, hresult, rfl⟩ := assignAt_cons.mp hassign
    obtain ⟨nested', henters', hnested⟩ := henters.same h
    obtain ⟨result', hresult', hequal⟩ := ih hnested hresult
    exact ⟨_, assignAt_cons.mpr ⟨nested', result', henters', hresult', rfl⟩, same_set h hequal⟩

/-- A document that equals itself still does after a write of a value that does. -/
theorem same_self_of_assignAt (hd : d.same d = true) (hv : (v == v) = true)
    (h : assignAt v d key rest = .ok d') : d'.same d' = true := by
  obtain ⟨e, -, hequal⟩ := assignAt_same hd hv h
  exact same_self hequal

/-- Where the first segments differ, either write may come first. -/
theorem assignAt_comm_of_ne (hne : key ≠ other) (hd₂ : d₂.same d₂ = true)
    (h₁ : assignAt v d key rest = .ok d₁) (h₂ : assignAt w d₁ other others = .ok d₂) :
    ∃ d₃ d₄, assignAt w d other others = .ok d₃ ∧ assignAt v d₃ key rest = .ok d₄ ∧
      d₂.same d₄ = true := by
  have hother : Fields.get? other d = Fields.get? other d₁ :=
    (get?_assignAt_of_ne hne.symm h₁).symm
  obtain ⟨y, rfl, h₃⟩ := exists_set_of_assignAt hother h₂
  have hkey : Fields.get? key (Fields.set other y d) = Fields.get? key d :=
    Fields.get?_set_of_ne hne y d
  obtain ⟨x, rfl, h₄⟩ := exists_set_of_assignAt hkey h₁
  exact ⟨_, _, h₃, h₄, same_of_get?_eq hd₂ fun k => (get?_set_comm hne x y d k).symm⟩

/-- Of two writes at paths of which neither goes on after the other, either one may come first. -/
theorem assignAt_comm (hd : d.same d = true) (hv : (v == v) = true) (hw : (w == w) = true)
    (hbelow : ¬ key :: rest <+: other :: others) (habove : ¬ other :: others <+: key :: rest)
    (h₁ : assignAt v d key rest = .ok d₁) (h₂ : assignAt w d₁ other others = .ok d₂) :
    ∃ d₃ d₄, assignAt w d other others = .ok d₃ ∧ assignAt v d₃ key rest = .ok d₄ ∧
      d₂.same d₄ = true := by
  induction rest generalizing d d₁ d₂ key other others with
  | nil =>
    have hne : key ≠ other := by
      rintro rfl
      exact hbelow (by simp)
    exact assignAt_comm_of_ne hne
      (same_self_of_assignAt (same_self_of_assignAt hd hv h₁) hw h₂) h₁ h₂
  | cons next rest ih =>
    by_cases hkey : key = other
    · subst hkey
      cases others with
      | nil => exact absurd (by simp) habove
      | cons next' others =>
        -- both go on below the same key, and their results are put there
        rw [List.cons_prefix_cons, and_iff_right rfl] at hbelow habove
        obtain ⟨nested, n₁, henters, hn₁, rfl⟩ := assignAt_cons.mp h₁
        obtain ⟨nested₁, n₂, henters₁, hn₂, rfl⟩ := assignAt_cons.mp h₂
        obtain rfl : n₁ = nested₁ := by
          rcases henters₁ with ⟨hnone, -⟩ | hsome
          · rw [Fields.get?_set_self] at hnone
            cases hnone
          · rw [Fields.get?_set_self] at hsome
            cases hsome
            rfl
        have hnested : nested.same nested = true := by
          obtain ⟨nested', -, hequal⟩ := henters.same hd
          exact same_self hequal
        obtain ⟨n₃, n₄, hn₃, hn₄, hequal⟩ := ih hnested hbelow habove hn₁ hn₂
        refine ⟨_, _, assignAt_cons.mpr ⟨nested, n₃, henters, hn₃, rfl⟩,
          assignAt_cons.mpr ⟨n₃, n₄, enters_set, hn₄, rfl⟩, ?_⟩
        rw [Fields.set_set, Fields.set_set]
        exact same_set hd hequal
    · exact assignAt_comm_of_ne hkey
        (same_self_of_assignAt (same_self_of_assignAt hd hv h₁) hw h₂) h₁ h₂

/-! ## Fields -/

variable {f g : String × Bson} {fields fields' : Document}

/-- Documents that are the same hold the same fields. -/
theorem holds_same_iff (h : d.same d' = true) : d.Holds f ↔ d'.Holds f := by
  constructor
  · intro hd
    exact hd.same h
  · intro hd'
    rw [same_comm] at h
    exact hd'.same h

/-- Setting a field in equal documents has equal results. -/
theorem updateField_same (h : d.same d' = true) (hf : (f.2 == f.2) = true)
    (hset : d.updateField f = .ok e) : ∃ e', d'.updateField f = .ok e' ∧ e.same e' = true := by
  rcases updateField_eq_ok.mp hset with ⟨hid, rfl, hd⟩ | ⟨hid, hassign⟩
  · exact ⟨d', updateField_eq_ok.mpr (.inl ⟨hid, rfl, hd.same h⟩), h⟩
  · obtain ⟨e', hassign', hequal⟩ := assignAt_same h hf hassign
    exact ⟨e', updateField_eq_ok.mpr (.inr ⟨hid, hassign'⟩), hequal⟩

/-- A document that equals itself does so after a field was set. -/
theorem same_self_of_updateField (hd : d.same d = true) (hf : (f.2 == f.2) = true)
    (h : d.updateField f = .ok d') : d'.same d' = true := by
  obtain ⟨e, -, hequal⟩ := updateField_same hd hf h
  exact same_self hequal

/-- What a document holds does not depend on a field that is set at a path apart from it. -/
theorem holds_updateField_iff (hapart : (Path.ofString f.1).Apart (Path.ofString g.1))
    (h : d.updateField g = .ok d') : d'.Holds f ↔ d.Holds f := by
  rw [Holds, Holds, lookup?_updateField hapart h]

/-- Of two fields with paths apart, either one may be set first. -/
theorem updateField_comm (hd : d.same d = true) (hf : (f.2 == f.2) = true)
    (hg : (g.2 == g.2) = true) (hapart : (Path.ofString f.1).Apart (Path.ofString g.1))
    (h₁ : d.updateField f = .ok d₁) (h₂ : d₁.updateField g = .ok d₂) :
    ∃ d₃ d₄, d.updateField g = .ok d₃ ∧ d₃.updateField f = .ok d₄ ∧ d₂.same d₄ = true := by
  have hd₂ : d₂.same d₂ = true :=
    same_self_of_updateField (same_self_of_updateField hd hf h₁) hg h₂
  rcases updateField_eq_ok.mp h₁ with ⟨hidf, rfl, hheld⟩ | ⟨hidf, hassignf⟩
  · -- the first field was only compared, and the second one does not change that
    refine ⟨d₂, d₂, h₂, ?_, hd₂⟩
    exact updateField_eq_ok.mpr (.inl ⟨hidf, rfl, (holds_updateField_iff hapart h₂).mpr hheld⟩)
  · rcases updateField_eq_ok.mp h₂ with ⟨hidg, rfl, hheld⟩ | ⟨hidg, hassigng⟩
    · -- the second field was only compared, and could have been before
      refine ⟨d, d₂, ?_, h₁, hd₂⟩
      exact updateField_eq_ok.mpr
        (.inl ⟨hidg, rfl, (holds_updateField_iff hapart.symm h₁).mp hheld⟩)
    · obtain ⟨d₃, d₄, h₃, h₄, hequal⟩ :=
        assignAt_comm hd hf hg hapart.1 hapart.2 hassignf hassigng
      exact ⟨d₃, d₄, updateField_eq_ok.mpr (.inr ⟨hidg, h₃⟩),
        updateField_eq_ok.mpr (.inr ⟨hidf, h₄⟩), hequal⟩

/-! ## Updates -/

/-- An update of equal documents has equal results. -/
theorem update_same (hfields : ∀ f ∈ fields, (f.2 == f.2) = true) (h : d.same d' = true)
    (hupdate : update fields d = .ok e) :
    ∃ e', update fields d' = .ok e' ∧ e.same e' = true := by
  induction fields generalizing d d' with
  | nil =>
    cases hupdate
    exact ⟨d', rfl, h⟩
  | cons f fields ih =>
    rw [List.forall_mem_cons] at hfields
    obtain ⟨d₁, h₁, hrest⟩ := update_cons.mp hupdate
    obtain ⟨d₁', h₁', hequal⟩ := updateField_same h hfields.1 h₁
    obtain ⟨e', hrest', hresult⟩ := ih hfields.2 hequal hrest
    exact ⟨e', update_cons.mpr ⟨d₁', h₁', hrest'⟩, hresult⟩

/-- A document that equals itself does so after an update. -/
theorem same_self_of_update (hfields : ∀ f ∈ fields, (f.2 == f.2) = true) (hd : d.same d = true)
    (h : update fields d = .ok d') : d'.same d' = true := by
  obtain ⟨e, -, hequal⟩ := update_same hfields hd h
  exact same_self hequal

/-- A field may be set after an update instead of before it. -/
theorem updateField_update_comm (hf : (f.2 == f.2) = true)
    (hfields : ∀ g ∈ fields, (g.2 == g.2) = true) (hd : d.same d = true)
    (hapart : ∀ k ∈ Fields.keys fields, (Path.ofString f.1).Apart (Path.ofString k))
    (h₁ : d.updateField f = .ok d₁) (h₂ : update fields d₁ = .ok d₂) :
    ∃ d₃ d₄, update fields d = .ok d₃ ∧ d₃.updateField f = .ok d₄ ∧ d₂.same d₄ = true := by
  induction fields generalizing d d₁ d₂ with
  | nil =>
    cases h₂
    exact ⟨d, d₁, rfl, h₁, same_self_of_updateField hd hf h₁⟩
  | cons g fields ih =>
    rw [Fields.keys, List.map_cons, List.forall_mem_cons] at hapart
    rw [List.forall_mem_cons] at hfields
    obtain ⟨e, he, hrest⟩ := update_cons.mp h₂
    -- the field goes past `g` first, and from there past the other ones
    obtain ⟨d₃, d₄, h₃, h₄, hequal⟩ := updateField_comm hd hf hfields.1 hapart.1 h₁ he
    obtain ⟨r, hr, hresult⟩ := update_same hfields.2 hequal hrest
    have hd₃ : d₃.same d₃ = true := same_self_of_updateField hd hfields.1 h₃
    obtain ⟨d₅, d₆, h₅, h₆, hlast⟩ := ih hfields.2 hd₃ hapart.2 h₄ hr
    exact ⟨d₅, d₆, update_cons.mpr ⟨d₃, h₃, h₅⟩, h₆, same_trans hresult hlast⟩

/-- Of two updates at paths that are apart, either one may come first. -/
theorem update_comm (hfields : ∀ f ∈ fields, (f.2 == f.2) = true)
    (hfields' : ∀ g ∈ fields', (g.2 == g.2) = true) (hd : d.same d = true)
    (hapart : ∀ k ∈ Fields.keys fields, ∀ k' ∈ Fields.keys fields',
      (Path.ofString k).Apart (Path.ofString k'))
    (h₁ : update fields d = .ok d₁) (h₂ : update fields' d₁ = .ok d₂) :
    ∃ d₃ d₄, update fields' d = .ok d₃ ∧ update fields d₃ = .ok d₄ ∧ d₂.same d₄ = true := by
  induction fields generalizing d d₁ d₂ with
  | nil =>
    cases h₁
    exact ⟨d₂, d₂, h₂, rfl, same_self_of_update hfields' hd h₂⟩
  | cons f fields ih =>
    rw [Fields.keys, List.map_cons, List.forall_mem_cons] at hapart
    rw [List.forall_mem_cons] at hfields
    obtain ⟨e, he, hrest⟩ := update_cons.mp h₁
    have he' : e.same e = true := same_self_of_updateField hd hfields.1 he
    -- the other fields go past the second update, and then the first field does
    obtain ⟨d₃, d₄, h₃, h₄, hequal⟩ := ih hfields.2 he' hapart.2 hrest h₂
    obtain ⟨d₅, d₆, h₅, h₆, hfirst⟩ :=
      updateField_update_comm hfields.1 hfields' hd hapart.1 he h₃
    obtain ⟨r, hr, hresult⟩ := update_same hfields.2 hfirst h₄
    exact ⟨d₅, r, h₅, update_cons.mpr ⟨d₆, h₆, hr⟩, same_trans hequal hresult⟩

/-! ## Updates that make an equal document -/

/-- Setting a field that is held makes an equal document. -/
theorem same_of_updateField (hd : d.same d = true) (hheld : d.Holds f)
    (h : d.updateField f = .ok d') : d'.same d = true := by
  rcases updateField_eq_ok.mp h with ⟨-, rfl, -⟩ | ⟨-, hassign⟩
  · exact hd
  · -- writing the value that is there changes nothing, and `f` has an equal one
    obtain ⟨w, hw, hequal⟩ := hheld
    obtain ⟨e, he, hsame⟩ := assignAt_same hd hequal (assignAt_of_lookupAt? hw)
    have hassign' : assignAt f.2 d _ _ = .ok d' := hassign
    rw [hassign'] at he
    cases he
    rwa [same_comm]

/-- An update with fields that are held makes nothing that is not the same. -/
theorem same_of_update (hd : d.same d = true) (hheld : ∀ f ∈ fields, d.Holds f)
    (h : update fields d = .ok d') : d'.same d = true := by
  induction fields generalizing d with
  | nil =>
    cases h
    exact hd
  | cons f fields ih =>
    rw [List.forall_mem_cons] at hheld
    obtain ⟨d₁, h₁, hrest⟩ := update_cons.mp h
    have hsame : d₁.same d = true := same_of_updateField hd hheld.1 h₁
    have hd₁ : d₁.same d₁ = true := same_self hsame
    have hrest' : ∀ g ∈ fields, d₁.Holds g := by
      intro g hg
      exact (holds_same_iff hsame).mpr (hheld.2 g hg)
    exact same_trans (ih hd₁ hrest' hrest) hsame

/-- An update makes an equal document exactly when the old one held all fields. -/
theorem same_of_update_iff (hfields : ∀ f ∈ fields, (f.2 == f.2) = true)
    (hapart : PathsApart fields) (hd : d.same d = true) (h : update fields d = .ok d') :
    d'.same d = true ↔ ∀ f ∈ fields, d.Holds f := by
  constructor
  · intro hsame f hf
    have hheld : d'.Holds f := (settled_update hapart h f hf).holds (hfields f hf)
    exact (holds_same_iff hsame).mp hheld
  · intro hheld
    exact same_of_update hd hheld h

end DocLoad.Document
