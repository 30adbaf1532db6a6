import DocLoad.Proofs.Bson.Path
import DocLoad.Proofs.Store.Matching

/-!
# DocLoad.Proofs.Store.Setting — what setting fields does to one document

An update sets fields one after another: it writes at their paths, and at and below `_id` it only
compares.  A field is `Settled` in a document when setting it there changes nothing.

* `updateField_eq_ok` and `settled_iff` say what one field does and when it is settled.
* `settled_updateField` and `Settled.updateField_of_apart` are the step: a field that was set is
  settled, and a field with a path apart from its own stays settled.
* `Settled.update_of_apart`, `settled_update`, `lookup?_update` and `keys_isPrefix_update` are the
  run over all fields, by induction on them; `settled_update` is for fields of which no path goes
  on after another one (`PathsApart`).

`Rewritten` puts the three together, for the document that a collection keeps.
-/

namespace DocLoad.Document

variable {d d' : Document} {field other : String × Bson} {fields : Document} {p : Path}

/-! ## One field -/

/-- What setting a field does: at and below `_id` it asks for the value that is there, and anywhere
else it writes. -/
theorem updateField_eq_ok :
    d.updateField field = .ok d' ↔
      ((Path.ofString field.1).first = idKey ∧ d' = d ∧ d.Holds field) ∨
      ((Path.ofString field.1).first ≠ idKey ∧
        d.assign (Path.ofString field.1) field.2 = .ok d') := by
  simp only [updateField]
  by_cases hid : (Path.ofString field.1).first = idKey
  · simp only [hid, if_true, true_and, ne_eq, not_true, false_and, or_false]
    constructor
    · intro h
      split at h
      · next w hw =>
        split at h
        · next hequal =>
          cases h
          exact ⟨rfl, w, hw, hequal⟩
        · cases h
      · cases h
    · rintro ⟨rfl, w, hw, hequal⟩
      rw [hw]
      simp only [hequal, if_true]
  · simp only [hid, if_false, false_and, ne_eq, not_false_eq_true, true_and, false_or]
    cases d.assign (Path.ofString field.1) field.2 <;> simp

/-- A look-up at a path apart from that of the field gives what it gave before. -/
theorem lookup?_updateField (hp : p.Apart (Path.ofString field.1))
    (h : d.updateField field = .ok d') : d'.lookup? p = d.lookup? p := by
  rcases updateField_eq_ok.mp h with ⟨-, rfl, -⟩ | ⟨-, hassign⟩
  · -- the field was only compared
    rfl
  · exact lookup?_assign_of_apart hp.symm hassign

/-- Setting a field keeps the keys that are present, in order. -/
theorem keys_isPrefix_updateField (h : d.updateField field = .ok d') :
    Fields.keys d <+: Fields.keys d' := by
  rcases updateField_eq_ok.mp h with ⟨-, rfl, -⟩ | ⟨-, hassign⟩
  · exact List.prefix_refl _
  · exact keys_isPrefix_assignAt hassign

/-- Setting the field changes nothing. -/
def Settled (d : Document) (field : String × Bson) : Prop :=
  d.updateField field = .ok d

/-- A field is settled when its value, or at and below `_id` an equal one, is found at its path. -/
theorem settled_iff :
    d.Settled field ↔
      ((Path.ofString field.1).first = idKey ∧ d.Holds field) ∨
      ((Path.ofString field.1).first ≠ idKey ∧
        d.lookup? (Path.ofString field.1) = some field.2) := by
  rw [Settled, updateField_eq_ok]
  constructor
  · rintro (⟨hid, -, hd⟩ | ⟨hid, hassign⟩)
    · exact .inl ⟨hid, hd⟩
    · exact .inr ⟨hid, lookupAt?_assignAt_self hassign⟩
  · rintro (⟨hid, hd⟩ | ⟨hid, hlookup⟩)
    · exact .inl ⟨hid, rfl, hd⟩
    · exact .inr ⟨hid, assignAt_of_lookupAt? hlookup⟩

/-- Whether a field is settled depends only on what is found at its path. -/
theorem Settled.of_lookup?_eq (hd : d.Settled field)
    (h : d'.lookup? (Path.ofString field.1) = d.lookup? (Path.ofString field.1)) :
    d'.Settled field := by
  -- both ways of being settled are about the look-up
  rw [settled_iff, Holds, ← h] at hd
  rw [settled_iff, Holds]
  exact hd

/-- A field that was set is settled. -/
theorem settled_updateField (h : d.updateField field = .ok d') : d'.Settled field := by
  rcases updateField_eq_ok.mp h with ⟨hid, rfl, hd⟩ | ⟨hid, hassign⟩
  · exact settled_iff.mpr (.inl ⟨hid, hd⟩)
  · exact settled_iff.mpr (.inr ⟨hid, lookupAt?_assignAt_self hassign⟩)

/-- A field stays settled when another one is set at a path apart from its own. -/
theorem Settled.updateField_of_apart (hd : d.Settled other)
    (hapart : (Path.ofString other.1).Apart (Path.ofString field.1))
    (h : d.updateField field = .ok d') : d'.Settled other :=
  hd.of_lookup?_eq (lookup?_updateField hapart h)

/-- A settled field whose value equals itself is held. -/
theorem Settled.holds (hd : d.Settled field) (hself : (field.2 == field.2) = true) :
    d.Holds field := by
  rcases settled_iff.mp hd with ⟨-, hheld⟩ | ⟨-, hlookup⟩
  · exact hheld
  · exact ⟨field.2, hlookup, hself⟩

/-! ## All fields -/

/-- An update sets its first field and then the others. -/
theorem update_cons :
    update (field :: fields) d = .ok d' ↔
      ∃ d₁, d.updateField field = .ok d₁ ∧ update fields d₁ = .ok d' := by
  rw [update, List.foldlM_cons]
  exact Except.bind_eq_ok

/-- Fields of which none has a path that another one goes on after. -/
def PathsApart (fields : Document) : Prop :=
  (Fields.keys fields).Pairwise fun k k' => (Path.ofString k).Apart (Path.ofString k')

instance (fields : Document) : Decidable fields.PathsApart :=
  inferInstanceAs (Decidable (List.Pairwise _ _))

theorem pathsApart_cons :
    PathsApart (field :: fields) ↔
      (∀ k ∈ Fields.keys fields, (Path.ofString field.1).Apart (Path.ofString k)) ∧
        PathsApart fields :=
  List.pairwise_cons

/-- A look-up at a path apart from those of all fields gives what it gave before. -/
theorem lookup?_update (hp : ∀ k ∈ Fields.keys fields, p.Apart (Path.ofString k))
    (h : update fields d = .ok d') : d'.lookup? p = d.lookup? p := by
  induction fields generalizing d with
  | nil =>
    cases h
    rfl
  | cons field fields ih =>
    obtain ⟨d₁, h₁, hrest⟩ := update_cons.mp h
    rw [Fields.keys, List.map_cons, List.forall_mem_cons] at hp
    exact (ih hp.2 hrest).trans (lookup?_updateField hp.1 h₁)

/-- A field stays settled in an update that only sets fields at paths apart from its own. -/
theorem Settled.update_of_apart (hd : d.Settled other)
    (hapart : ∀ k ∈ Fields.keys fields, (Path.ofString other.1).Apart (Path.ofString k))
    (h : update fields d = .ok d') : d'.Settled other := by
  induction fields generalizing d with
  | nil =>
    cases h
    exact hd
  | cons field fields ih =>
    obtain ⟨d₁, h₁, hrest⟩ := update_cons.mp h
    rw [Fields.keys, List.map_cons, List.forall_mem_cons] at hapart
    exact ih (hd.updateField_of_apart hapart.1 h₁) hapart.2 hrest

/-- After an update all its fields are settled, if no path goes on after another one. -/
theorem settled_update (hapart : PathsApart fields) (h : update fields d = .ok d') :
    ∀ f ∈ fields, d'.Settled f := by
  induction fields generalizing d with
  | nil =>
    intro f hf
    cases hf
  | cons field fields ih =>
    obtain ⟨hfirst, hapart⟩ := pathsApart_cons.mp hapart
    obtain ⟨d₁, h₁, hrest⟩ := update_cons.mp h
    intro f hf
    rcases List.mem_cons.mp hf with rfl | hf
    · -- the fields after the first one do not meet its path
      exact (settled_updateField h₁).update_of_apart hfirst hrest
    · exact ih hapart hrest f hf

/-- An update of settled fields changes nothing. -/
theorem update_of_settled (h : ∀ f ∈ fields, d.Settled f) : update fields d = .ok d := by
  induction fields with
  | nil => rfl
  | cons field fields ih =>
    rw [List.forall_mem_cons] at h
    exact update_cons.mpr ⟨d, h.1, ih h.2⟩

/-- An update keeps the keys that are present, in order. -/
theorem keys_isPrefix_update (h : update fields d = .ok d') :
    Fields.keys d <+: Fields.keys d' := by
  induction fields generalizing d with
  | nil =>
    cases h
    exact List.prefix_refl _
  | cons field fields ih =>
    obtain ⟨d₁, h₁, hrest⟩ := update_cons.mp h
    exact (keys_isPrefix_updateField h₁).trans (ih hrest)

/-! ## What is kept of a document -/

/-- A document after fields were set: each value, or an equal one, is found at its path, what is
found at paths apart from all of these has not changed, and no key was moved or taken out. -/
structure Rewritten (fields d d' : Document) : Prop where
  written (f : String × Bson) (hf : f ∈ fields) :
    ∃ w, d'.lookup? (Path.ofString f.1) = some w ∧ (w = f.2 ∨ (w == f.2) = true)
  frame (p : Path) (hp : ∀ k ∈ Fields.keys fields, p.Apart (Path.ofString k)) :
    d'.lookup? p = d.lookup? p
  keys : Fields.keys d <+: Fields.keys d'

/-- The value of a settled field is found, or an equal one. -/
theorem Settled.exists_lookup? (hd : d.Settled field) :
    ∃ w, d.lookup? (Path.ofString field.1) = some w ∧ (w = field.2 ∨ (w == field.2) = true) := by
  rcases settled_iff.mp hd with ⟨-, w, hw, hequal⟩ | ⟨-, hlookup⟩
  · exact ⟨w, hw, .inr hequal⟩
  · exact ⟨field.2, hlookup, .inl rfl⟩

/-- The document that is kept after an update, the new one or an old one that is equal to it, is
rewritten. -/
theorem rewritten_of_update {new : Document} (hapart : PathsApart fields)
    (h : update fields d = .ok new) : Rewritten fields d (if new.same d then d else new) := by
  split
  · next hsame =>
    -- the old document is equal to the new one, so it has equal values at the paths
    refine ⟨?_, fun p _ => rfl, List.prefix_refl _⟩
    intro f hf
    obtain ⟨w, hw, hvalue⟩ := (settled_update hapart h f hf).exists_lookup?
    obtain ⟨w', hw', hequal⟩ := lookupAt?_same hsame hw
    rw [Bson.beq_comm] at hequal
    rcases hvalue with rfl | hvalue
    · exact ⟨w', hw', .inr hequal⟩
    · exact ⟨w', hw', .inr (Bson.beq_trans hequal hvalue)⟩
  · -- the new document is kept, and each part is a result about the run
    constructor
    · intro f hf
      exact (settled_update hapart h f hf).exists_lookup?
    · intro p hp
      exact lookup?_update hp h
    · exact keys_isPrefix_update h

end DocLoad.Document
