import DocLoad.Proofs.Loading
import DocLoad.Proofs.Session.Performing
import DocLoad.Proofs.Session.Routes
import DocLoad.Proofs.Store.Insertion
import DocLoad.Proofs.Store.Matching

/-!
# DocLoad.Proofs.Session.Importing — what an import leaves in a collection

A session with a collection in memory inserts the documents of its file and, when the operator
declines, shows what the collection holds then.  Both parts come from what the insertion does:
`hold_declined` if it goes through, `hold_duplicate` if it fails.  On an empty collection that
depends on the identifiers in the file (`hold_apart`, `hold_clash`).

`hold_imports` is the whole run on an empty collection, from the bytes of the file.  Every document
is stored, in file order, with its fields untouched; only a missing identifier is put in front.  A
file that brings two equal identifiers along is refused before any question is asked.
-/

namespace DocLoad.Session

open Dialogue Collection

variable {gen : Nat → ObjectId}

/-! ## The insertion -/

/-- The import of documents has the effect of inserting them, also when there are none. -/
theorem effect_importAll (gen : Nat → ObjectId) (ds : List Document) (c : Collection)
    (answers : List (Except Error String)) :
    ((importAll ds).play (Collection.answer gen) ⟨c, answers⟩).effect =
      match c.insertAll gen ds with
      | .ok (_, c') => (.ok (), importCalls ds, c')
      | .error e => (.error (.store e), importCalls ds, c) := by
  cases ds with
  | nil =>
    rw [insertAll_nil]
    rfl
  | cons d ds =>
    obtain ⟨logged, himport⟩ := importAll_cons d ds
    rw [himport]
    cases hinsert : c.insertAll gen (d :: ds) with
    | error e =>
      have hcall : Collection.answer gen (.insertMany (d :: ds)) c = (.error e, c) := by
        rw [answer_insertMany, Collection.insert, hinsert]
        rfl
      rw [play_call_of_error hcall]
      rfl
    | ok inserted =>
      obtain ⟨ids, c'⟩ := inserted
      have hcall : Collection.answer gen (.insertMany (d :: ds)) c = (.ok ids, c') := by
        rw [answer_insertMany, Collection.insert, hinsert]
        rfl
      rw [play_call_of_ok hcall]
      rfl

/-- What a mode shows of the documents of a collection when no operation is asked for. -/
def overview (mode : Mode) (ds : List Document) : Outcome :=
  match mode with
  | .count => .count ds.length
  | .find | .general => .documents ds

/-- The default operation of a mode, with the empty query, shows the overview of all documents. -/
theorem answered_default (mode : Mode) (c : Collection) :
    answered (Collection.answer gen) mode.default .empty c =
      (.ok (overview mode c.documents), c) := by
  have hselect : c.select [] = .ok c.documents :=
    select_eq_all (List.forall_mem_nil _) fun d _ => Document.satisfies_nil d
  cases mode with
  | count =>
    have hcount : c.count [] = .ok c.documents.length := by
      rw [Collection.count_eq_select, hselect]
      rfl
    have hcall : Collection.answer gen (.count []) c = (.ok c.documents.length, c) :=
      congrArg (·, c) hcount
    exact answered_of_ok hcall
  | find | general =>
    have hcall : Collection.answer gen (.find []) c = (.ok c.documents, c) :=
      congrArg (·, c) hselect
    exact answered_of_ok hcall

/-! ## The run -/

section

variable (mode : Mode) {ds : List Document} {c c' : Collection} {inserted : List Bson}
  {answer : String}

/-- When the documents are inserted and the operator declines, the session ends with an overview of
what is stored then. -/
theorem hold_declined (hinsert : c.insertAll gen ds = .ok (inserted, c'))
    (hno : isYes answer = false) (rest : List (Except Error String)) :
    let run := (importAll ds >>= fun _ => respond mode none).play (Collection.answer gen)
      ⟨c, .ok answer :: rest⟩
    run.result = .ok (overview mode c'.documents) ∧ run.store = c' := by
  intro run
  have himport := effect_importAll gen ds c (.ok answer :: rest)
  rw [hinsert] at himport
  obtain ⟨hresult, -, hstore⟩ := Prod.mk.inj himport |>.imp_right Prod.mk.inj
  have hremaining : ((importAll ds).play (Collection.answer gen)
      ⟨c, .ok answer :: rest⟩).remaining = .ok answer :: rest :=
    (silent_importAll ds).remaining_eq _
  have hrun : run.effect = _ :=
    (congrArg Played.effect (play_bind _ _ _)).trans (Played.effect_andThen_of_ok hresult)
  rw [hremaining, hstore, effect_respond_no hno] at hrun
  obtain ⟨hresult', -, hstore'⟩ := Prod.mk.inj hrun |>.imp_right Prod.mk.inj
  obtain ⟨hperform, -⟩ := played_perform (Collection.answer gen) mode.default .empty ⟨c', rest⟩
  rw [answered_default] at hperform
  obtain ⟨hoverview, hkept⟩ := Prod.mk.inj hperform
  exact ⟨hresult'.trans hoverview, hstore'.trans hkept⟩

/-- When the documents are not inserted, the session ends there. -/
theorem hold_duplicate {e : StoreError} (hinsert : c.insertAll gen ds = .error e)
    (answers : List (Except Error String)) :
    let run := (importAll ds >>= fun _ => respond mode none).play (Collection.answer gen)
      ⟨c, answers⟩
    run.result = .error (.store e) ∧ run.asked = [] ∧ run.store = c := by
  intro run
  have himport := effect_importAll gen ds c answers
  rw [hinsert] at himport
  obtain ⟨hresult, -, hstore⟩ := Prod.mk.inj himport |>.imp_right Prod.mk.inj
  have hrun : run = _ := play_bind_of_error hresult
  rw [hrun]
  exact ⟨rfl, (play_importAll _ _ ds).2.1, hstore⟩

end

/-! ## An empty collection -/

section

variable (mode : Mode) (name : String) {ds : List Document}

/-- Identifiers that are apart are stored with their documents. -/
theorem hold_apart (happart : SuppliedApart ds) (hfresh : FreshFor gen ds) {answer : String}
    (hno : isYes answer = false) (rest : List (Except Error String)) :
    let run := (importAll ds >>= fun _ => respond mode none).play (Collection.answer gen)
      ⟨.empty name, .ok answer :: rest⟩
    run.result = .ok (overview mode (identified gen 0 ds)) ∧
      run.store.documents = identified gen 0 ds := by
  intro run
  obtain ⟨inserted, c, hinsert⟩ :=
    exists_insertAll (c := .empty name) (uniqueIds_identified happart hfresh)
  have hdocuments : c.documents = identified gen 0 ds := documents_insertAll hinsert
  obtain ⟨hresult, hstore⟩ := hold_declined mode hinsert hno rest
  rw [← hdocuments]
  exact ⟨hresult, congrArg Collection.documents hstore⟩

/-- Identifiers that clash are noticed before anything is stored or asked. -/
theorem hold_clash (hclash : ¬ SuppliedApart ds) (answers : List (Except Error String)) :
    let run := (importAll ds >>= fun _ => respond mode none).play (Collection.answer gen)
      ⟨.empty name, answers⟩
    (∃ id, run.result = .error (.store (.duplicateId name id))) ∧
      run.asked = [] ∧ run.store.documents = [] := by
  intro run
  cases hinsert : (Collection.empty name).insertAll gen ds with
  | ok inserted =>
    -- a good insertion has compared the identifiers of the file
    obtain ⟨ids, c⟩ := inserted
    have hunique : UniqueIds c.ids := uniqueIds_insertAll (c := .empty name) .nil hinsert
    have hdocuments : c.documents = identified gen 0 ds := documents_insertAll hinsert
    rw [Collection.ids, hdocuments] at hunique
    exact absurd (suppliedApart_of_uniqueIds hunique) hclash
  | error e =>
    obtain ⟨id, rfl⟩ := insertAll_eq_error hinsert
    obtain ⟨hresult, hasked, hstore⟩ := hold_duplicate mode hinsert answers
    exact ⟨⟨id, hresult⟩, hasked, congrArg Collection.documents hstore⟩

end

/-- What a session with an empty collection makes of a file whose documents are `ds`, when the
operator declines.

If no two of the identifiers in the file are equal, and the generated ones are fresh, the collection
holds as many documents as the file: each one as it was, or with a generated identifier in front if
it had none.  The session ends with their number or with all of them.  If two identifiers in the
file are equal, the session fails before it asks anything, and the collection is empty. -/
theorem hold_imports (gen : Nat → ObjectId) (settings : Settings)
    (content : Except ReadFailure ByteArray) (ds : List Document) (name answer : String)
    (rest : List (Except Error String)) (hload : Import.ofBytes content = .ok ds)
    (hno : isYes answer = false) :
    let run := (hold { settings with request := none } (Import.ofBytes content)).play
      (Collection.answer gen) ⟨.empty name, .ok answer :: rest⟩
    let stored := run.store.documents
    (SuppliedApart ds → FreshFor gen ds →
      stored.length = ds.length ∧
      (∀ i (hi : i < ds.length) (hi' : i < stored.length),
        (∀ id, ds[i].id? = some id → stored[i] = ds[i]) ∧
        (ds[i].id? = none →
          stored[i] = (idKey, .objectId (gen (missingIds (ds.take i)))) :: ds[i])) ∧
      run.result = .ok (match settings.mode with
        | .count => .count ds.length
        | .find | .general => .documents stored)) ∧
    (¬ SuppliedApart ds →
      (∃ id, run.result = .error (.store (.duplicateId name id))) ∧
        run.asked = [] ∧ stored = []) := by
  intro run stored
  have hrun : run = (importAll ds >>= fun _ => respond settings.mode none).play
      (Collection.answer gen) ⟨.empty name, .ok answer :: rest⟩ := by
    simp only [run, hload]
    rfl
  constructor
  · intro happart hfresh
    obtain ⟨hresult, hdocuments⟩ := hold_apart settings.mode name happart hfresh hno rest
    rw [← hrun] at hresult hdocuments
    have hstored : stored = identified gen 0 ds := hdocuments
    have hlength : stored.length = ds.length := by rw [hstored, length_identified]
    refine ⟨hlength, fun i hi hi' => ?_, ?_⟩
    · -- the collection was empty, so the identifiers are drawn from the first one on
      have hat : stored[i] = (withId (gen (missingIds (ds.take i))) ds[i]).2 := by
        rw [List.getElem_of_eq hstored hi', getElem_identified hi, Nat.zero_add]
      constructor
      · intro id hid
        rw [hat, withId_of_some hid]
      · intro hnone
        rw [hat, withId_of_none hnone]
    · rw [hresult, ← hstored, ← hlength]
      cases settings.mode <;> rfl
  · intro hclash
    change (∃ id, run.result = .error (.store (.duplicateId name id))) ∧
      run.asked = [] ∧ run.store.documents = []
    rw [hrun]
    exact hold_clash settings.mode name hclash (.ok answer :: rest)

/-- A document that brings an identifier along, and two that do not. -/
def mixedDocuments : List Document :=
  [[("_id", .string "a"), ("n", .string "Ada")], [("n", .string "Bo")], [("n", .string "Cy")]]

def mixedFile : String :=
  "[\x7b\"_id\": \"a\", \"n\": \"Ada\"\x7d, \x7b\"n\": \"Bo\"\x7d, \x7b\"n\": \"Cy\"\x7d]"

theorem ofBytes_mixedFile : Import.ofBytes (.ok mixedFile.toUTF8) = .ok mixedDocuments := by
  have htokens : Json.tokens? mixedFile.toList =
      some [.leftBracket, .leftBrace, .string "_id", .colon, .string "a", .comma, .string "n",
        .colon, .string "Ada", .rightBrace, .comma, .leftBrace, .string "n", .colon, .string "Bo",
        .rightBrace, .comma, .leftBrace, .string "n", .colon, .string "Cy", .rightBrace,
        .rightBracket] := by
    decide +kernel
  rw [Import.ofBytes_toUTF8, Import.documents, Json.read?, htokens]
  rfl

/-- One identifier twice. -/
def clashingDocuments : List Document :=
  [[("n", .string "Ada")], [("_id", .string "a")], [("_id", .string "a")]]

def clashingFile : String :=
  "[\x7b\"n\": \"Ada\"\x7d, \x7b\"_id\": \"a\"\x7d, \x7b\"_id\": \"a\"\x7d]"

theorem ofBytes_clashingFile :
    Import.ofBytes (.ok clashingFile.toUTF8) = .ok clashingDocuments := by
  have htokens : Json.tokens? clashingFile.toList =
      some [.leftBracket, .leftBrace, .string "n", .colon, .string "Ada", .rightBrace, .comma,
        .leftBrace, .string "_id", .colon, .string "a", .rightBrace, .comma, .leftBrace,
        .string "_id", .colon, .string "a", .rightBrace, .rightBracket] := by
    decide +kernel
  rw [Import.ofBytes_toUTF8, Import.documents, Json.read?, htokens]
  rfl

/-- Declining in count mode after the import of each of the two files: the first one is counted, the
second one refused. -/
theorem hold_mixedFile_clashingFile :
    let gen : Nat → ObjectId := fun n => ⟨BitVec.ofNat 96 n⟩
    let settings : Settings := ⟨StoreUrl.default, "db", "people", "people.json", .count, none⟩
    let run (text : String) :=
      (hold { settings with request := none } (Import.ofBytes (.ok text.toUTF8))).play
        (Collection.answer gen) ⟨.empty "people", [.ok "no"]⟩
    Import.ofBytes (.ok mixedFile.toUTF8) = .ok mixedDocuments ∧
      Import.ofBytes (.ok clashingFile.toUTF8) = .ok clashingDocuments ∧
      isYes "no" = false ∧
      SuppliedApart mixedDocuments ∧ FreshFor gen mixedDocuments ∧
      (run mixedFile).store.documents.length = 3 ∧ (run mixedFile).result = .ok (.count 3) ∧
      ¬ SuppliedApart clashingDocuments ∧
      (∃ id, (run clashingFile).result = .error (.store (.duplicateId "people" id))) ∧
      (run clashingFile).store.documents = [] := by
  intro gen settings run
  have hno : isYes "no" = false := by decide +kernel
  have happart : SuppliedApart mixedDocuments := by
    unfold SuppliedApart
    decide
  have hfresh : FreshFor gen mixedDocuments := by
    constructor <;> decide
  have hmeet : ¬ SuppliedApart clashingDocuments := by
    unfold SuppliedApart
    decide
  obtain ⟨hmixed, -⟩ := hold_imports gen settings _ _ "people" "no" [] ofBytes_mixedFile hno
  obtain ⟨hlength, -, hresult⟩ := hmixed happart hfresh
  obtain ⟨-, hclashing⟩ := hold_imports gen settings _ _ "people" "no" [] ofBytes_clashingFile hno
  obtain ⟨hduplicate, -, hstored⟩ := hclashing hmeet
  simp only [run]
  exact ⟨ofBytes_mixedFile, ofBytes_clashingFile, hno, happart, hfresh, hlength, hresult, hmeet,
    hduplicate, hstored⟩

end DocLoad.Session
