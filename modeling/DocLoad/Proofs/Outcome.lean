import DocLoad.Operation
import DocLoad.Proofs.Text.Digits
import Mathlib.Data.List.Nodup

/-!
# DocLoad.Proofs.Outcome — nothing of an outcome is lost when it is shown

The operator sees an outcome as a value.  Counts are shown as 64-bit integers, and the identifiers
of an insertion as fields under the texts of their positions.

* `ofList_of_nodup` — fields that are set one after another are all kept if no key comes twice;
  the texts of different positions are different, so this holds of the identifiers
  (`shownIds_eq`).
* `toBson_injective` goes through the variants: within each of them, different outcomes are shown
  as different values.

`toBson_lossless` says both.
-/

namespace DocLoad

/-! ## Fields without repeated keys -/

namespace Fields

variable {α : Type}

/-- Keys that differ from one another and from those before them are set behind these, in order. -/
theorem foldl_set_of_nodup {d fields : Fields α} (h : (keys (d ++ fields)).Nodup) :
    fields.foldl (fun d (k, v) => set k v d) d = d ++ fields := by
  induction fields generalizing d with
  | nil => rw [List.foldl_nil, List.append_nil]
  | cons field fields ih =>
    obtain ⟨k, v⟩ := field
    rw [List.append_cons] at h
    -- the next key is a new one, so it goes to the end
    have hk : k ∉ keys d := by
      rw [keys, List.map_append, List.map_append, List.append_assoc, List.nodup_append] at h
      exact fun hmem => h.2.2 k hmem k (by simp) rfl
    show fields.foldl _ (set k v d) = _
    rw [set_of_not_mem hk, ih h, ← List.append_cons]

/-- Fields that are set one after another are all kept, in order, if no key comes twice. -/
theorem ofList_of_nodup {fields : Fields α} (h : (keys fields).Nodup) : ofList fields = fields :=
  foldl_set_of_nodup h

end Fields

namespace Outcome

variable {index : Nat} {ids : List Bson}

/-! ## Identifiers by position -/

theorem numbered_eq_mapIdx (index : Nat) (ids : List Bson) :
    numbered index ids = ids.mapIdx fun i id => (Text.decimal (index + i), id) := by
  induction ids generalizing index with
  | nil => rfl
  | cons id ids ih =>
    rw [numbered, ih, List.mapIdx_cons]
    simp only [Nat.add_zero, Nat.add_assoc, Nat.add_comm 1]

theorem keys_numbered (index : Nat) (ids : List Bson) :
    Fields.keys (numbered index ids) = (List.range' index ids.length).map Text.decimal := by
  induction ids generalizing index with
  | nil => rfl
  | cons id ids ih =>
    rw [numbered, List.length_cons, List.range'_succ, List.map_cons, ← ih]
    rfl

/-- Different positions have different texts, so no key comes twice. -/
theorem nodup_keys_numbered (index : Nat) (ids : List Bson) :
    (Fields.keys (numbered index ids)).Nodup := by
  rw [keys_numbered]
  exact List.Nodup.map (fun _ _ => Text.decimal_injective) List.nodup_range'

/-- The values are the identifiers, in order. -/
theorem values_numbered (index : Nat) (ids : List Bson) :
    (numbered index ids).map (·.2) = ids := by
  induction ids generalizing index with
  | nil => rfl
  | cons id ids ih => rw [numbered, List.map_cons, ih]

/-- Under the text of a position stands the identifier at that position. -/
theorem get?_numbered (index i : Nat) (ids : List Bson) :
    Fields.get? (Text.decimal (index + i)) (numbered index ids) = ids[i]? := by
  induction ids generalizing index i with
  | nil => rfl
  | cons id ids ih =>
    rw [numbered, Fields.get?]
    cases i with
    | zero => rw [if_pos (congrArg Text.decimal (Nat.add_zero index).symm), List.getElem?_cons_zero]
    | succ i =>
      -- a later position is written in another way than the first one
      have hne : Text.decimal index ≠ Text.decimal (index + (i + 1)) := by
        intro h
        have := Text.decimal_injective h
        omega
      rw [if_neg hne, List.getElem?_cons_succ, ← ih (index + 1), Nat.add_assoc, Nat.add_comm 1]

/-- No identifier is put in the place of another one. -/
theorem shownIds_eq (ids : List Bson) : Fields.ofList (numbered 0 ids) = numbered 0 ids :=
  Fields.ofList_of_nodup (nodup_keys_numbered 0 ids)

/-! ## Counts -/

/-- Counts below 2^63 that are shown alike are equal. -/
theorem ofCount_inj {m n : Nat} (hm : m < Nat.pow 2 63) (hn : n < Nat.pow 2 63)
    (h : Bson.ofCount m = Bson.ofCount n) : m = n := by
  have hint := congrArg Int64.toInt (Bson.int64.inj h)
  rw [Int64.toInt_ofNat_of_lt hm, Int64.toInt_ofNat_of_lt hn] at hint
  exact Int.ofNat_inj.mp hint

/-! ## All variants -/

/-- Two outcomes are of one variant. -/
inductive SameVariant : Outcome → Outcome → Prop where
  | count (m n : Nat) : SameVariant (.count m) (.count n)
  | documents (ds es : List Document) : SameVariant (.documents ds) (.documents es)
  | document (d e : Option Document) : SameVariant (.document d) (.document e)
  | insertedOne (id id' : Bson) : SameVariant (.insertedOne id) (.insertedOne id')
  | insertedMany (ids ids' : List Bson) : SameVariant (.insertedMany ids) (.insertedMany ids')
  | updated (c c' : UpdateCounts) : SameVariant (.updated c) (.updated c')
  | deleted (m n : Nat) : SameVariant (.deleted m) (.deleted n)

/-- All counts and lengths of an outcome are below the first number that a 64-bit integer cannot
hold. -/
def InRange : Outcome → Prop
  | count n | deleted n => n < Nat.pow 2 63
  | documents ds => ds.length < Nat.pow 2 63
  | insertedMany ids => ids.length < Nat.pow 2 63
  | updated counts => counts.matched < Nat.pow 2 63 ∧ counts.modified < Nat.pow 2 63
  | document _ | insertedOne _ => True

/-- Different outcomes of one variant are shown as different values. -/
theorem toBson_injective {a b : Outcome} (hab : a.SameVariant b) (ha : a.InRange) (hb : b.InRange)
    (h : a.toBson = b.toBson) : a = b := by
  cases hab with
  | count m n =>
    obtain ⟨hcount, -⟩ := List.cons.inj (Bson.document.inj h)
    rw [ofCount_inj ha hb (Prod.mk.inj hcount).2]
  | documents ds es =>
    have hinj := List.map_injective_iff.mpr fun _ _ => Bson.document.inj
    rw [hinj (Bson.array.inj h)]
  | document d e => cases d <;> cases e <;> cases h <;> rfl
  | insertedOne id id' =>
    cases h
    rfl
  | insertedMany ids ids' =>
    simp only [toBson, shownIds_eq, Bson.document.injEq, List.cons.injEq, Prod.mk.injEq, true_and,
      and_true] at h
    -- the number of identifiers is not needed, since all of them are there
    rw [← values_numbered 0 ids, h.2, values_numbered]
  | updated c c' =>
    simp only [toBson, Bson.document.injEq, List.cons.injEq, Prod.mk.injEq, true_and, and_true] at h
    obtain ⟨matched, modified⟩ := c
    obtain ⟨matched', modified'⟩ := c'
    have hmatched : matched = matched' := ofCount_inj ha.1 hb.1 h.1
    have hmodified : modified = modified' := ofCount_inj ha.2 hb.2 h.2
    rw [hmatched, hmodified]
  | deleted m n =>
    simp only [toBson, Bson.document.injEq, List.cons.injEq, Prod.mk.injEq, true_and, and_true] at h
    rw [ofCount_inj ha hb h]

/-- Nothing of an outcome is lost when it is shown.  Two outcomes of one variant, with counts and
lengths that a 64-bit integer holds, are the same if they are shown as the same value.  Of a batch
that was inserted, the number of identifiers is shown, and as many fields in order, each with the
identifier that has the position which the key writes. -/
theorem toBson_lossless :
    (∀ a b : Outcome, a.SameVariant b → a.InRange → b.InRange → a.toBson = b.toBson → a = b) ∧
    ∀ ids : List Bson, ∃ (number : Int64) (shown : Document),
      (insertedMany ids).toBson = .document [("acknowledged", .boolean true),
        ("insertedCount", .int64 number), ("insertedIds", .document shown)] ∧
      (ids.length < Nat.pow 2 63 → number.toInt = ids.length) ∧
      shown.length = ids.length ∧
      shown = ids.mapIdx (fun i id => (Text.decimal i, id)) ∧
      (Fields.keys shown).Nodup ∧
      ∀ i, Fields.get? (Text.decimal i) shown = ids[i]? := by
  refine ⟨fun a b => toBson_injective, fun ids => ?_⟩
  refine ⟨Int64.ofNat ids.length, numbered 0 ids, ?_, fun h => Int64.toInt_ofNat_of_lt h, ?_, ?_,
    nodup_keys_numbered 0 ids, ?_⟩
  · rw [toBson, shownIds_eq]
    rfl
  · have hlength := congrArg List.length (values_numbered 0 ids)
    rwa [List.length_map] at hlength
  · rw [numbered_eq_mapIdx]
    simp only [Nat.zero_add]
  · intro i
    rw [← get?_numbered 0 i ids, Nat.zero_add]

/-- Two updates that differ in one document, out of as many as can be counted. -/
theorem toBson_ne_of_largest :
    let a := updated ⟨Nat.pow 2 63 - 1, 1⟩
    let b := updated ⟨Nat.pow 2 63 - 1, 0⟩
    a.SameVariant b ∧ a.InRange ∧ b.InRange ∧ a.toBson ≠ b.toBson := by
  intro a b
  have hvariant : a.SameVariant b := .updated _ _
  have ha : a.InRange := ⟨by decide, by decide⟩
  have hb : b.InRange := ⟨by decide, by decide⟩
  refine ⟨hvariant, ha, hb, fun h => ?_⟩
  have hsame : a = b := toBson_lossless.1 a b hvariant ha hb h
  exact absurd (congrArg UpdateCounts.modified (Outcome.updated.inj hsame)) (by decide)

/-- A count that a 64-bit integer cannot hold is shown as another one. -/
example : (count (Nat.pow 2 64)).toBson = (count 0).toBson := rfl

end Outcome
end DocLoad
