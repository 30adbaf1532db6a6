import DocLoad.Import
import DocLoad.Proofs.Except
import DocLoad.Proofs.Text.Digits
import Mathlib.Data.List.Forall2

/-!
# DocLoad.Proofs.Loading — a file gives all its documents or none

A file that holds a text gives documents when the text is a JSON array and each element
`StandsFor` a document; these are the documents, in the order of the elements.  An element may have
one of two faults, and the first element with a `Fault` decides the failure, whatever stands
behind it (`FirstFault`).

* `element_eq_ok` and `element_eq_error` are the step, one element, and `elements_eq_ok` and
  `elements_eq_error` the run over all of them, by induction on the elements.
* `documents_eq_ok` and `documents_eq_error` are about a whole text.
* `Fault.message_injective`: the message of a fault tells which one it is, and where, also when
  other text follows it.

`loads_all_or_none` says this of the bytes of a file, with the failure that names its path.
-/

namespace DocLoad.Import

/-- The documents of a file that holds a text. -/
theorem ofBytes_toUTF8 (text : String) : ofBytes (.ok text.toUTF8) = documents text := by
  have hread : String.fromUTF8? text.toUTF8 = some text := by
    simp only [String.fromUTF8?, String.toUTF8_eq_toByteArray, dif_pos text.isValidUTF8]
    rfl
  simp only [ofBytes, hread]

variable {index i : Nat} {j : Json} {js : List Json} {d : Document} {ds : List Document}
  {cause : FileError}

/-! ## One element -/

/-- An element stands for a document. -/
def StandsFor (j : Json) (d : Document) : Prop :=
  Bson.ofJson? j = some (.document d)

/-- Why the element at an index stands for no document: it stands for another value, or it has a
marker of extended JSON in a wrong shape. -/
inductive Fault (index : Nat) (j : Json) : FileError → Prop where
  | notDocument {v : Bson} (hv : Bson.ofJson? j = some v) (hother : ∀ d, v ≠ .document d) :
      Fault index j (.notDocument index)
  | notExtended (hnone : Bson.ofJson? j = none) : Fault index j (.notExtended index)

/-- An element that stands for a document gives that document, and no other element gives one. -/
theorem element_eq_ok : element index j = .ok d ↔ StandsFor j d := by
  rw [element, StandsFor]
  split
  · next d' hd =>
    rw [hd]
    constructor
    · rintro ⟨⟩
      rfl
    · rintro ⟨⟩
      rfl
  · next v hother hv =>
    rw [hv]
    constructor
    · rintro ⟨⟩
    · rintro ⟨⟩
      exact absurd rfl (hother d)
  · next hnone =>
    rw [hnone]
    exact ⟨nofun, nofun⟩

/-- An element fails with its fault, and only an element with a fault fails. -/
theorem element_eq_error : element index j = .error cause ↔ Fault index j cause := by
  rw [element]
  constructor
  · intro h
    split at h
    · cases h
    · next v hother hv =>
      cases h
      exact .notDocument hv fun d hd => hother d hd
    · next hnone =>
      cases h
      exact .notExtended hnone
  · rintro (⟨hv, hother⟩ | hnone)
    · rw [hv]
      split
      · next d hd => exact absurd (Option.some.inj hd) (hother d)
      · rfl
      · next hnone => cases hnone
    · rw [hnone]

/-! ## All elements -/

/-- The least index, counted from `index`, at which an element stands for no document, with its
fault. -/
def FirstFault (index : Nat) (js : List Json) (cause : FileError) : Prop :=
  ∃ i j, js[i]? = some j ∧ Fault (index + i) j cause ∧
    ∀ k < i, ∃ b d, js[k]? = some b ∧ StandsFor b d

/-- The first element with a fault is the head of the list, or the head stands for a document and
the first one is in the rest. -/
theorem firstFault_cons :
    FirstFault index (j :: js) cause ↔
      Fault index j cause ∨ (∃ d, StandsFor j d) ∧ FirstFault (index + 1) js cause := by
  constructor
  · rintro ⟨i, b, hb, hfault, hbefore⟩
    cases i with
    | zero =>
      rw [List.getElem?_cons_zero] at hb
      cases hb
      exact .inl hfault
    | succ i =>
      obtain ⟨b₀, d, hb₀, hd⟩ := hbefore 0 i.succ_pos
      rw [List.getElem?_cons_zero] at hb₀
      cases hb₀
      refine .inr ⟨⟨d, hd⟩, i, b, hb, ?_, fun k hk => hbefore (k + 1) (Nat.succ_lt_succ hk)⟩
      rwa [Nat.add_assoc, Nat.add_comm 1]
  · rintro (hfault | ⟨⟨d, hd⟩, i, b, hb, hfault, hbefore⟩)
    · exact ⟨0, j, rfl, hfault, nofun⟩
    · refine ⟨i + 1, b, hb, ?_, ?_⟩
      · rwa [Nat.add_comm i, ← Nat.add_assoc]
      · intro k hk
        cases k with
        | zero => exact ⟨j, d, rfl, hd⟩
        | succ k => exact hbefore k (Nat.lt_of_succ_lt_succ hk)

/-- The documents of the elements are one for each, in order. -/
theorem elements_eq_ok : elements index js = .ok ds ↔ List.Forall₂ StandsFor js ds := by
  induction js generalizing index ds with
  | nil =>
    rw [List.forall₂_nil_left_iff]
    constructor
    · rintro ⟨⟩
      rfl
    · rintro rfl
      rfl
  | cons j js ih =>
    rw [elements]
    constructor
    · intro h
      obtain ⟨d, hd, h⟩ := Except.bind_eq_ok.mp h
      obtain ⟨rest, hrest, h⟩ := Except.bind_eq_ok.mp h
      cases h
      exact .cons (element_eq_ok.mp hd) (ih.mp hrest)
    · rintro (_ | ⟨hd, hrest⟩)
      exact Except.bind_eq_ok.mpr ⟨_, element_eq_ok.mpr hd,
        Except.bind_eq_ok.mpr ⟨_, ih.mpr hrest, rfl⟩⟩

/-- The first fault of an element is the failure. -/
theorem elements_eq_error : elements index js = .error cause ↔ FirstFault index js cause := by
  induction js generalizing index with
  | nil =>
    refine ⟨nofun, ?_⟩
    rintro ⟨i, j, hj, -⟩
    cases hj
  | cons j js ih =>
    rw [elements, firstFault_cons]
    constructor
    · intro h
      rcases Except.bind_eq_error.mp h with hfault | ⟨d, hd, h⟩
      · exact .inl (element_eq_error.mp hfault)
      · rcases Except.bind_eq_error.mp h with hrest | ⟨_, _, h⟩
        · exact .inr ⟨⟨d, element_eq_ok.mp hd⟩, ih.mp hrest⟩
        · cases h
    · rintro (hfault | ⟨⟨d, hd⟩, hrest⟩)
      · exact Except.bind_eq_error.mpr (.inl (element_eq_error.mpr hfault))
      · exact Except.bind_eq_error.mpr (.inr ⟨d, element_eq_ok.mpr hd,
          Except.bind_eq_error.mpr (.inl (ih.mpr hrest))⟩)

/-- The second object stands for an identifier, and the third one for nothing at all. -/
example :
    elements 0 [.object [], .object [("$oid", .string "65f1c0ffee00000000000001")],
      .object [("$oid", .null)]] = .error (.notDocument 1) := rfl

/-! ## Messages -/

variable {words words' more more' : String}

/-- The words behind the index of an element start with a blank, so the index ends before them. -/
theorem element_words_inj {k : Nat} (hwords : words.toList.head? = some ' ')
    (hwords' : words'.toList.head? = some ' ')
    (h : "element " ++ Text.decimal i ++ words ++ more =
      "element " ++ Text.decimal k ++ words' ++ more') :
    i = k ∧ words.toList ++ more.toList = words'.toList ++ more'.toList := by
  have hblank : ∀ {w m : String}, w.toList.head? = some ' ' →
      ∀ c ∈ (w.toList ++ m.toList).head?, Text.isDigit c = false := by
    intro w m hw c hc
    rw [List.head?_append, hw] at hc
    cases hc
    decide
  have hchars := congrArg String.toList h
  simp only [String.toList_append, List.append_assoc, List.append_cancel_left_eq] at hchars
  exact Text.decimal_append_inj (hblank hwords) (hblank hwords') hchars

/-- One message goes on with `a document` where the other one has `valid`. -/
theorem message_notDocument_ne (i k : Nat) (more more' : String) :
    (FileError.notDocument i).message ++ more ≠ (FileError.notExtended k).message ++ more' := by
  intro h
  have hwords := (element_words_inj rfl rfl h).2
  have hninth := congrArg (fun cs => cs[8]?) hwords
  exact absurd (show some 'a' = some 'v' from hninth) (by decide)

/-- The message of a fault tells which one it is, and at which index, whatever text follows it. -/
theorem Fault.message_injective {i' : Nat} {j' : Json} {cause' : FileError}
    (hfault : Fault i j cause) (hfault' : Fault i' j' cause')
    (h : cause.message ++ more = cause'.message ++ more') : cause = cause' := by
  cases hfault <;> cases hfault'
  case notDocument.notDocument => rw [(element_words_inj rfl rfl h).1]
  case notDocument.notExtended => exact absurd h (message_notDocument_ne i i' more more')
  case notExtended.notDocument => exact absurd h.symm (message_notDocument_ne i' i more' more)
  case notExtended.notExtended => rw [(element_words_inj rfl rfl h).1]

/-! ## Whole texts -/

/-- Why a text gives no documents. -/
inductive Refused (text : String) : FileError → Prop where
  | notJson (hread : Json.read? depthLimit text = none) : Refused text .notJson
  | notArray {j : Json} (hread : Json.read? depthLimit text = some j)
      (hother : ∀ js, j ≠ .array js) : Refused text .notArray
  | element {js : List Json} {cause : FileError}
      (hread : Json.read? depthLimit text = some (.array js)) (hfault : FirstFault 0 js cause) :
      Refused text cause

variable {text : String}

/-- A text gives documents if it is an array whose elements stand for them, in order. -/
theorem documents_eq_ok :
    documents text = .ok ds ↔
      ∃ js, Json.read? depthLimit text = some (.array js) ∧ List.Forall₂ StandsFor js ds := by
  rw [documents]
  split
  · next hnone =>
    rw [hnone]
    exact ⟨nofun, nofun⟩
  · next js hjs =>
    rw [hjs, elements_eq_ok]
    constructor
    · intro h
      exact ⟨js, rfl, h⟩
    · rintro ⟨_, ⟨⟩, h⟩
      exact h
  · next j hother hj =>
    rw [hj]
    refine ⟨nofun, ?_⟩
    rintro ⟨js, ⟨⟩, -⟩
    exact absurd rfl (hother js)

/-- A text fails for the reasons of `Refused`, and for no others. -/
theorem documents_eq_error : documents text = .error cause ↔ Refused text cause := by
  rw [documents]
  constructor
  · intro h
    split at h
    · next hnone =>
      cases h
      exact .notJson hnone
    · next js hjs => exact .element hjs (elements_eq_error.mp h)
    · next j hother hj =>
      cases h
      exact .notArray hj fun js hjs => hother js hjs
  · rintro (hnone | ⟨hj, hother⟩ | ⟨hjs, hfault⟩)
    · rw [hnone]
    · rw [hj]
      split
      · next hnone => cases hnone
      · next js hjs => exact absurd (Option.some.inj hjs) (hother js)
      · rfl
    · rw [hjs]
      exact elements_eq_error.mpr hfault

/-- Elements that all stand for documents have a list of these. -/
theorem exists_forall₂_standsFor :
    (∃ ds, List.Forall₂ StandsFor js ds) ↔ ∀ j ∈ js, ∃ d, StandsFor j d := by
  induction js with
  | nil => simp
  | cons j js ih =>
    rw [List.forall_mem_cons, ← ih]
    constructor
    · rintro ⟨_, _ | ⟨hd, hds⟩⟩
      exact ⟨⟨_, hd⟩, _, hds⟩
    · rintro ⟨⟨d, hd⟩, ds, hds⟩
      exact ⟨d :: ds, .cons hd hds⟩

/-- Loading a file that holds a text gives all its documents or none.  It succeeds exactly if the
text is a JSON array whose elements all stand for documents, and then it gives these, one for each
element, in order.  Otherwise it fails with the path of the file and the reason: the text is no
JSON, or no array, or the first element with a fault has it, whatever the elements behind it are.
The message tells the index of that element and which of the two faults it has. -/
theorem loads_all_or_none (path text : String) :
    let loaded := (ofBytes (.ok text.toUTF8)).mapError (Error.file path)
    ((∃ ds, loaded = .ok ds) ↔
      ∃ js, Json.read? depthLimit text = some (.array js) ∧ ∀ j ∈ js, ∃ d, StandsFor j d) ∧
    (∀ ds, loaded = .ok ds ↔
      ∃ js, Json.read? depthLimit text = some (.array js) ∧ List.Forall₂ StandsFor js ds) ∧
    (∀ e, loaded = .error e ↔ ∃ cause, e = .file path cause ∧ Refused text cause) ∧
    (∀ i j cause i' j' cause', Fault i j cause → Fault i' j' cause' →
      (Error.file path cause).message = (Error.file path cause').message → cause = cause') := by
  intro loaded
  have hok : ∀ ds, loaded = .ok ds ↔
      ∃ js, Json.read? depthLimit text = some (.array js) ∧ List.Forall₂ StandsFor js ds := by
    intro ds
    rw [← documents_eq_ok, ← ofBytes_toUTF8]
    exact Except.mapError_eq_ok
  refine ⟨?_, hok, ?_, ?_⟩
  · simp only [hok]
    rw [exists_comm]
    simp only [exists_and_left, exists_forall₂_standsFor]
  · intro e
    simp only [← documents_eq_error, ← ofBytes_toUTF8]
    exact Except.mapError_eq_error
  · intro i j cause i' j' cause' hfault hfault' h
    have hmessage : cause.message = cause'.message := String.append_right_inj _ |>.mp h
    have hbare : cause.message ++ "" = cause'.message ++ "" := by rw [hmessage]
    exact hfault.message_injective hfault' hbare

end DocLoad.Import
