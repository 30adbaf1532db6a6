import DocLoad.Bson.Path
import DocLoad.Proofs.Except
import DocLoad.Proofs.Text.Split
import Mathlib.Data.List.Infix

/-!
# DocLoad.Proofs.Bson.Path — looking up what was written at a path

A write at a path goes down through nested documents, and makes those that are missing.
`assignAt_cons` is the step: it says what one segment does to a write, and each fact below follows
from it by induction on the segments.

* `lookupAt?_assignAt_self` — the value is found where it was written;
* `lookup?_assign_of_apart` — nothing changes at a path that does not meet the one written at;
* `nested_of_assignAt` — on the way to the place there were documents, or nothing;
* `assignAt_of_lookupAt?` — the value that is found at a path can be written there, and then the
  document stays as it is;
* `exists_set_of_assignAt` — a write sets the field of its first segment to a value that depends on
  the old value of this field only.

Paths are written with dots; `Path.ofString_injective` and `Path.isPrefix_of_segments` say what that
means for their texts.
-/

namespace DocLoad

/-! ## Texts of paths -/

namespace Path

/-- The segments of a text are what stands between its dots. -/
theorem segments_ofString (s : String) :
    (ofString s).segments = (Text.splitChar '.' s.toList).map String.ofList := by
  have hne : Text.splitChar '.' s.toList ≠ [] := (Text.cut_splitChar '.' s.toList).ne_nil
  obtain ⟨p, ps, hsplit⟩ := List.exists_cons_of_ne_nil hne
  simp only [ofString, hsplit, segments, List.map_cons]

/-- A text without dots is the only segment. -/
theorem ofString_of_not_mem {s : String} (h : '.' ∉ s.toList) : ofString s = ⟨s, []⟩ := by
  have hlast : Text.Cut ['.'] s.toList [s.toList] := .last (by rwa [List.singleton_infix_iff])
  have hsplit := (Text.cut_splitChar '.' s.toList).unique hlast
  simp only [ofString, hsplit, String.ofList_toList, List.map_nil]

/-- Different texts are different paths. -/
theorem ofString_injective {s t : String} (h : (ofString s).segments = (ofString t).segments) :
    s = t := by
  rw [segments_ofString, segments_ofString] at h
  have hsplit : Text.splitChar '.' s.toList = Text.splitChar '.' t.toList :=
    List.map_injective_iff.mpr (fun _ _ => String.ofList_injective) h
  apply String.ext
  rw [← (Text.cut_splitChar '.' s.toList).intercalate, hsplit,
    (Text.cut_splitChar '.' t.toList).intercalate]

/-- The text of the first pieces, with the separator between them, is the start of that of all. -/
theorem intercalate_isPrefix {sep : List Char} {ps qs : List (List Char)} (hne : ps ≠ [])
    (h : ps <+: qs) : sep.intercalate ps <+: sep.intercalate qs := by
  induction ps generalizing qs with
  | nil => exact absurd rfl hne
  | cons p ps ih =>
    obtain ⟨rest, rfl⟩ := h
    cases ps with
    | nil =>
      cases rest with
      | nil => exact List.prefix_refl _
      | cons r rest =>
        rw [List.singleton_append, List.intercalate_singleton, List.intercalate_cons_cons,
          List.append_assoc]
        exact List.prefix_append _ _
    | cons p' ps =>
      have htail := ih (List.cons_ne_nil _ _) (List.prefix_append (p' :: ps) rest)
      rw [List.cons_append, List.cons_append, List.intercalate_cons_cons,
        List.intercalate_cons_cons, List.prefix_append_right_inj]
      exact htail

/-- A path that goes on after another one has a text that does so as well. -/
theorem isPrefix_of_segments {s t : String}
    (h : (ofString s).segments <+: (ofString t).segments) : s.toList <+: t.toList := by
  rw [segments_ofString, segments_ofString, List.prefix_map_iff] at h
  obtain ⟨ps, hprefix, hps⟩ := h
  have hsplit : Text.splitChar '.' s.toList = ps :=
    List.map_injective_iff.mpr (fun _ _ => String.ofList_injective) hps
  have hcut := Text.cut_splitChar '.' s.toList
  rw [← hcut.intercalate, ← (Text.cut_splitChar '.' t.toList).intercalate]
  exact intercalate_isPrefix hcut.ne_nil (hsplit ▸ hprefix)

/-- Neither of two paths is the other one or goes on after it. -/
def Apart (p q : Path) : Prop :=
  ¬ p.segments <+: q.segments ∧ ¬ q.segments <+: p.segments

instance (p q : Path) : Decidable (p.Apart q) :=
  inferInstanceAs (Decidable (_ ∧ _))

theorem Apart.symm {p q : Path} (h : p.Apart q) : q.Apart p :=
  ⟨h.2, h.1⟩

end Path

namespace Document

/-! ## One segment -/

/-- A write that goes on below a key does so in the document there, or in a new one. -/
def Enters (d : Document) (key : String) (nested : Document) : Prop :=
  (Fields.get? key d = none ∧ nested = []) ∨ Fields.get? key d = some (.document nested)

variable {d d' nested : Document} {value : Bson} {key next : String} {rest : List String}

/-- What a write does at the first of several segments. -/
theorem assignAt_cons :
    assignAt value d key (next :: rest) = .ok d' ↔
      ∃ nested nested', d.Enters key nested ∧ assignAt value nested next rest = .ok nested' ∧
        d' = Fields.set key (.document nested') d := by
  rw [assignAt]
  constructor
  · intro h
    split at h
    · next hnone =>
      obtain ⟨nested', hnested, rfl⟩ := Except.map_eq_ok.mp h
      exact ⟨[], nested', .inl ⟨hnone, rfl⟩, hnested, rfl⟩
    · next nested hsome =>
      obtain ⟨nested', hnested, rfl⟩ := Except.map_eq_ok.mp h
      exact ⟨nested, nested', .inr hsome, hnested, rfl⟩
    · cases h
  · rintro ⟨nested, nested', ⟨hnone, rfl⟩ | hsome, hnested, rfl⟩
    · rw [hnone]
      exact Except.map_eq_ok.mpr ⟨nested', hnested, rfl⟩
    · rw [hsome]
      exact Except.map_eq_ok.mpr ⟨nested', hnested, rfl⟩

theorem lookupAt?_nil (key : String) (rest : List String) :
    lookupAt? [] key rest = none := by
  cases rest <;> rfl

/-- A look-up below a key goes on in the document there. -/
theorem lookupAt?_of_enters (h : d.Enters key nested) :
    d.lookupAt? key (next :: rest) = nested.lookupAt? next rest := by
  rw [lookupAt?]
  rcases h with ⟨hnone, rfl⟩ | hsome
  · rw [hnone, lookupAt?_nil]
  · rw [hsome]

theorem enters_set : Enters (Fields.set key (.document nested) d) key nested :=
  .inr (Fields.get?_set_self key _ d)

/-! ## Whole paths -/

/-- The value is found where it was written. -/
theorem lookupAt?_assignAt_self (h : assignAt value d key rest = .ok d') :
    d'.lookupAt? key rest = some value := by
  induction rest generalizing d d' key with
  | nil =>
    cases h
    exact Fields.get?_set_self key value d
  | cons next rest ih =>
    obtain ⟨nested, nested', -, hnested, rfl⟩ := assignAt_cons.mp h
    rw [lookupAt?_of_enters enters_set]
    exact ih hnested

/-- A write does not touch what other first segments lead to. -/
theorem get?_assignAt_of_ne {other : String} (hne : other ≠ key)
    (h : assignAt value d key rest = .ok d') : Fields.get? other d' = Fields.get? other d := by
  cases rest with
  | nil =>
    cases h
    exact Fields.get?_set_of_ne hne value d
  | cons next rest =>
    obtain ⟨nested, nested', -, -, rfl⟩ := assignAt_cons.mp h
    exact Fields.get?_set_of_ne hne _ d

/-- A look-up depends only on the value under its first key. -/
theorem lookupAt?_eq_of_get?_eq {other : String} (h : Fields.get? other d' = Fields.get? other d)
    (rest : List String) : d'.lookupAt? other rest = d.lookupAt? other rest := by
  cases rest with
  | nil => exact h
  | cons next rest => rw [lookupAt?, lookupAt?, h]

/-- Where neither path goes on after the other, a write at one is not seen at the other. -/
theorem lookupAt?_assignAt_of_apart {other : String} {others : List String}
    (hbelow : ¬ key :: rest <+: other :: others) (habove : ¬ other :: others <+: key :: rest)
    (h : assignAt value d key rest = .ok d') :
    d'.lookupAt? other others = d.lookupAt? other others := by
  induction rest generalizing d d' key other others with
  | nil =>
    have hne : other ≠ key := by
      rintro rfl
      exact hbelow (by simp)
    exact lookupAt?_eq_of_get?_eq (get?_assignAt_of_ne hne h) others
  | cons next rest ih =>
    by_cases hkey : other = key
    · subst hkey
      -- both go below the same key, and are apart there
      obtain ⟨nested, nested', henters, hnested, rfl⟩ := assignAt_cons.mp h
      cases others with
      | nil => exact absurd (by simp) habove
      | cons next' others =>
        rw [List.cons_prefix_cons, and_iff_right rfl] at hbelow habove
        rw [lookupAt?_of_enters enters_set, lookupAt?_of_enters henters]
        exact ih hbelow habove hnested
    · exact lookupAt?_eq_of_get?_eq (get?_assignAt_of_ne hkey h) others

/-- A write leaves what is found at a path apart from its own. -/
theorem lookup?_assign_of_apart {p q : Path} (hpq : p.Apart q) (h : d.assign p value = .ok d') :
    d'.lookup? q = d.lookup? q :=
  lookupAt?_assignAt_of_apart hpq.1 hpq.2 h

/-- The value that is found at a path can be written there, and changes nothing. -/
theorem assignAt_of_lookupAt? (h : d.lookupAt? key rest = some value) :
    assignAt value d key rest = .ok d := by
  induction rest generalizing d key with
  | nil => rw [assignAt, Fields.set_of_get? h]
  | cons next rest ih =>
    rw [lookupAt?] at h
    split at h
    · next nested hnested =>
      refine assignAt_cons.mpr ⟨nested, nested, .inr hnested, ih h, ?_⟩
      rw [Fields.set_of_get? hnested]
    · cases h

/-- A write sets the field of its first segment, to a value that depends on the old value of this
field only. -/
theorem exists_set_of_assignAt {e : Document} (he : Fields.get? key e = Fields.get? key d)
    (h : assignAt value d key rest = .ok d') :
    ∃ v, d' = Fields.set key v d ∧ assignAt value e key rest = .ok (Fields.set key v e) := by
  cases rest with
  | nil =>
    cases h
    exact ⟨value, rfl, rfl⟩
  | cons next rest =>
    obtain ⟨nested, nested', henters, hnested, rfl⟩ := assignAt_cons.mp h
    have henters' : e.Enters key nested := by
      rw [Enters, he]
      exact henters
    exact ⟨.document nested', rfl, assignAt_cons.mpr ⟨nested, nested', henters', hnested, rfl⟩⟩

/-- A write keeps the keys that are present, in order. -/
theorem keys_isPrefix_assignAt (h : assignAt value d key rest = .ok d') :
    Fields.keys d <+: Fields.keys d' := by
  obtain ⟨v, rfl, -⟩ := exists_set_of_assignAt rfl h
  exact Fields.keys_isPrefix_set key v d

/-- On the way to the place of a write there were documents, or nothing. -/
theorem nested_of_assignAt {other : String} {others : List String}
    (habove : other :: others <+: key :: rest) (hproper : other :: others ≠ key :: rest)
    (h : assignAt value d key rest = .ok d') {w : Bson} (hw : d.lookupAt? other others = some w) :
    ∃ nested, w = .document nested := by
  induction rest generalizing d d' key other others with
  | nil =>
    rw [List.prefix_cons_iff] at habove
    simp_all
  | cons next rest ih =>
    obtain ⟨rfl, htail⟩ := List.cons_prefix_cons.mp habove
    obtain ⟨nested, nested', henters, hnested, rfl⟩ := assignAt_cons.mp h
    cases others with
    | nil =>
      rcases henters with ⟨hnone, -⟩ | hsome
      · rw [lookupAt?, hnone] at hw
        cases hw
      · rw [lookupAt?, hsome] at hw
        cases hw
        exact ⟨nested, rfl⟩
    | cons next' others =>
      rw [lookupAt?_of_enters henters] at hw
      exact ih htail (fun heq => hproper (by rw [heq])) hnested hw

end Document
end DocLoad
