import DocLoad.Proofs.Except
import DocLoad.Proofs.Playing
import DocLoad.Session

/-!
# DocLoad.Proofs.Session.Calls — the store calls of a session

A session inserts the documents of its file, if there are any, and makes at most one more call.
What that call is, and whether it is made, depends on the mode, on the request or the answers and
on whether the insertion went well; `Session.Chosen` says how, without a dialogue.

`calls_hold` compares the two for every backend, file and script of answers.  The parts of a
session have one lemma each: `play_importAll`, `play_choose`, `play_perform` and `play_respond`.
-/

namespace DocLoad

open Dialogue

/-! ## Operations by name -/

namespace Operation

/-- Which store call belongs to the name of an operation, for the document of a query. -/
def dispatchTable : Fields (Document → Call) :=
  [("count", fun _ => .count []),
    ("find", fun q => .find q),
    ("findOne", fun q => .findOne q),
    ("insertOne", fun q => .insertOne q),
    ("insertMany", fun q => .insertMany [q]),
    ("update", fun q => .updateOne [] [("$set", .document q)]),
    ("updateOne", fun q => .updateOne [] [("$set", .document q)]),
    ("updateMany", fun q => .updateMany [] [("$set", .document q)]),
    ("replaceOne", fun q => .replaceOne [] q),
    ("replaceMany", fun q => .replaceMany [] q),
    ("deleteOne", fun q => .deleteOne q),
    ("deleteMany", fun q => .deleteMany q)]

/-- The table gives every operation the call that it makes. -/
theorem get?_dispatchTable (op : Operation) :
    Fields.get? op.name dispatchTable = some op.call := by
  cases op <;> rfl

theorem name_injective {op op' : Operation} (h : op.name = op'.name) : op = op' := by
  revert h
  cases op <;> cases op' <;> decide

end Operation

namespace Mode

variable {m : Mode} {name : String} {op : Operation}

/-- The operation under a name is the one of that name that the mode allows. -/
theorem operation?_eq_some : m.operation? name = some op ↔ op ∈ m.allowed ∧ op.name = name := by
  constructor
  · intro h
    exact ⟨List.mem_of_find?_eq_some h, by simpa using List.find?_some h⟩
  · rintro ⟨hmem, rfl⟩
    cases h : m.operation? op.name with
    | none => simpa using List.find?_eq_none.mp h op hmem
    | some op' =>
      have hname : op'.name = op.name := by simpa using List.find?_some h
      rw [Operation.name_injective hname]

/-- There is no operation under a name that the mode does not allow. -/
theorem operation?_eq_none :
    m.operation? name = none ↔ name ∉ m.allowed.map Operation.name := by
  simp [operation?]

/-- The default operation is allowed. -/
theorem operation?_default : m.operation? m.default.name = some m.default := by
  cases m <;> rfl

end Mode

namespace Session

/-! ## What is chosen -/

/-- The name of an operation and the query line that two answers give. -/
def named? : List (Except Error String) → Option (String × String)
  | .ok name :: .ok line :: _ => some (Text.trim name, line)
  | _ => none

/-- The name of an operation and the query line of a session: those of the request, or those that
the operator answers after a yes, or the default ones after any other answer.  There are none if an
answer is missing. -/
def choice? (mode : Mode) :
    Option Request → List (Except Error String) → Option (String × String)
  | some request, _ => some (request.operation, request.query)
  | none, [] => none
  | none, .error _ :: _ => none
  | none, .ok answer :: rest =>
    if isYes answer then named? rest else some (mode.default.name, "")

/-- The call that the choice stands for: the name is allowed, the query line can be read, and the
call is the one under that name in the table. -/
def Chosen (mode : Mode) (request : Option Request) (answers : List (Except Error String))
    (call : Call) : Prop :=
  ∃ name line query makeCall,
    choice? mode request answers = some (name, line) ∧
    name ∈ mode.allowed.map Operation.name ∧
    Query.read line = .ok query ∧
    Fields.get? name Operation.dispatchTable = some makeCall ∧
    call = makeCall query.toDocument

/-- The question about the query is asked only if the operation that was answered is allowed. -/
def queryQuestions (mode : Mode) : List (Except Error String) → List String
  | .ok name :: _ =>
    if Text.trim name ∈ mode.allowed.map Operation.name then [queryQuestion] else []
  | _ => []

/-- The questions after an import without a request. -/
def questions (mode : Mode) : List (Except Error String) → List String
  | [] => [followUpQuestion]
  | .error _ :: _ => [followUpQuestion]
  | .ok answer :: rest =>
    if isYes answer then followUpQuestion :: operationQuestion :: queryQuestions mode rest
    else [followUpQuestion]

/-- The operation and the query that the choice stands for. -/
def decision? (mode : Mode) (request : Option Request) (answers : List (Except Error String)) :
    Option (Operation × Query) := do
  let (name, line) ← choice? mode request answers
  let op ← mode.operation? name
  let query ← (Query.read line).toOption
  return (op, query)

variable {σ : Type} {mode : Mode} {request : Option Request} {answers : List (Except Error String)}

/-- A choice is a decision if the name is allowed and the line can be read. -/
theorem decision?_of_choice? {name line : String}
    (h : choice? mode request answers = some (name, line)) :
    decision? mode request answers =
      (mode.operation? name).bind fun op => (Query.read line).toOption.map (op, ·) := by
  simp only [decision?, h, Option.bind_eq_bind, Option.bind_some]
  cases mode.operation? name <;> cases Query.read line <;> rfl

theorem decision?_of_missing (h : choice? mode request answers = none) :
    decision? mode request answers = none := by
  rw [decision?, h]
  rfl

/-- After a yes the name and the query line are those of the next two answers. -/
theorem choice?_of_yes {yes : String} (hyes : isYes yes = true) :
    choice? mode none (.ok yes :: answers) = named? answers := by
  simp only [choice?, hyes, if_true]

/-- A decision is a choice whose name is allowed and whose line can be read. -/
theorem decision?_eq_some {op : Operation} {query : Query} :
    decision? mode request answers = some (op, query) ↔
      ∃ name line, choice? mode request answers = some (name, line) ∧
        mode.operation? name = some op ∧ Query.read line = .ok query := by
  constructor
  · intro h
    cases hchoice : choice? mode request answers with
    | none =>
      rw [decision?_of_missing hchoice] at h
      cases h
    | some choice =>
      obtain ⟨name, line⟩ := choice
      rw [decision?_of_choice? hchoice] at h
      obtain ⟨op', hop, h⟩ := Option.bind_eq_some_iff.mp h
      cases hread : Query.read line with
      | error clause =>
        rw [hread] at h
        cases h
      | ok query' =>
        rw [hread] at h
        cases h
        exact ⟨name, line, rfl, hop, hread⟩
  · rintro ⟨name, line, hchoice, hop, hread⟩
    rw [decision?_of_choice? hchoice, hop, hread]
    rfl

/-- The call of the table for a choice is the call of the operation that was decided on. -/
theorem chosen_iff {call : Call} :
    Chosen mode request answers call ↔
      ∃ op query, decision? mode request answers = some (op, query) ∧
        call = op.call query.toDocument := by
  constructor
  · rintro ⟨name, line, query, makeCall, hchoice, hname, hread, hmake, rfl⟩
    obtain ⟨op, hop, rfl⟩ := List.mem_map.mp hname
    rw [Operation.get?_dispatchTable] at hmake
    cases hmake
    refine ⟨op, query, decision?_eq_some.mpr ⟨_, line, hchoice, ?_, hread⟩, rfl⟩
    exact Mode.operation?_eq_some.mpr ⟨hop, rfl⟩
  · rintro ⟨op, query, hdecision, rfl⟩
    obtain ⟨name, line, hchoice, hop, hread⟩ := decision?_eq_some.mp hdecision
    obtain ⟨hallowed, rfl⟩ := Mode.operation?_eq_some.mp hop
    exact ⟨op.name, line, query, op.call, hchoice, List.mem_map_of_mem hallowed, hread,
      op.get?_dispatchTable, rfl⟩

/-- The store call after an import: the one that was decided on, if any. -/
def lastCall? (mode : Mode) (request : Option Request) (answers : List (Except Error String)) :
    Option Call :=
  (decision? mode request answers).map fun (op, query) => op.call query.toDocument

/-- The call after an import is the one that was chosen. -/
theorem lastCall?_eq_some {call : Call} :
    lastCall? mode request answers = some call ↔ Chosen mode request answers call := by
  simp only [lastCall?, chosen_iff, Option.map_eq_some_iff, Prod.exists, eq_comm (a := call)]

/-- The store calls of an import. -/
def importCalls (ds : List Document) : List Call :=
  if ds.isEmpty then [] else [.insertMany ds]

/-- An import goes well if there is nothing to insert or the store inserts it. -/
def Imported (backend : Backend σ) (ds : List Document) (store : σ) : Prop :=
  ds = [] ∨ ∃ ids : List Bson, (backend (.insertMany ds) store).1 = .ok ids

/-! ## The parts of a session -/

section

variable (backend : Backend σ) (mode : Mode) (request : Option Request) (s : Scene σ)

/-- An operation is one store call, and asks nothing. -/
theorem play_perform (op : Operation) (query : Query) :
    ((perform op query).play backend s).calls = [op.call query.toDocument] ∧
      ((perform op query).play backend s).asked = [] := by
  unfold perform
  split
  · -- a count says first that it ignores its query
    simp only [record_bind, request_bind, play]
    split <;> exact ⟨rfl, rfl⟩
  · simp only [request_bind, play]
    split <;> exact ⟨rfl, rfl⟩

/-- The import of some documents is one call, followed by a log record. -/
theorem importAll_cons (d : Document) (ds : List Document) :
    ∃ logged : (Call.insertMany (d :: ds)).Reply → LogRecord,
      importAll (d :: ds) =
        call (.insertMany (d :: ds)) fun reply => log (logged reply) (done ()) :=
  ⟨fun (ids : List Bson) => ⟨.info, "Imported " ++ Text.decimal ids.length ++ " documents"⟩, rfl⟩

/-- An import is one call at most and asks nothing. -/
theorem play_importAll (ds : List Document) :
    ((importAll ds).play backend s).calls = importCalls ds ∧
      ((importAll ds).play backend s).asked = [] ∧
      ((importAll ds).play backend s).remaining = s.answers ∧
      (((importAll ds).play backend s).result = .ok () ↔ Imported backend ds s.store) := by
  cases ds with
  | nil => exact ⟨rfl, rfl, rfl, iff_of_true rfl (.inl rfl)⟩
  | cons d ds =>
    obtain ⟨logged, himport⟩ := importAll_cons d ds
    rw [himport]
    rcases h : backend (.insertMany (d :: ds)) s.store with ⟨e | ids, store⟩
    · rw [play_call_of_error h]
      refine ⟨rfl, rfl, rfl, iff_of_false nofun ?_⟩
      rintro (hnil | ⟨ids, hids⟩)
      · cases hnil
      · rw [h] at hids
        cases hids
    · rw [play_call_of_ok h]
      exact ⟨rfl, rfl, rfl, iff_of_true rfl (.inr ⟨ids, congrArg Prod.fst h⟩)⟩

/-- Choosing makes no call.  It ends with the decision, if there is one, and with an error
otherwise. -/
theorem play_choose :
    ((choose mode).play backend s).calls = [] ∧
      ((choose mode).play backend s).asked = questions mode s.answers ∧
      ((choose mode).play backend s).result.toOption = decision? mode none s.answers := by
  obtain ⟨store, answers⟩ := s
  simp only [choose, prompt_bind, play, questions]
  -- without an answer to the first question there is no decision
  rcases answers with - | ⟨e | answer, rest⟩
  · exact ⟨rfl, rfl, rfl⟩
  · exact ⟨rfl, rfl, rfl⟩
  dsimp only
  cases hyes : isYes answer with
  | false =>
    -- the default of the mode, with a query line that can always be read
    have hchoice : choice? mode none (.ok answer :: rest) = some (mode.default.name, "") := by
      simp only [choice?, hyes, Bool.false_eq_true, if_false]
    rw [decision?_of_choice? hchoice, Mode.operation?_default]
    exact ⟨rfl, rfl, rfl⟩
  | true =>
    simp only [if_true]
    have hmissing (rest : List (Except Error String)) (h : named? rest = none) :
        decision? mode none (.ok answer :: rest) = none :=
      decision?_of_missing ((choice?_of_yes hyes).trans h)
    rcases rest with - | ⟨e | name, rest⟩
    · exact ⟨rfl, rfl, (hmissing [] rfl).symm⟩
    · exact ⟨rfl, rfl, (hmissing (.error e :: rest) rfl).symm⟩
    have hchoice (line : String) (rest : List (Except Error String)) :
        choice? mode none (.ok answer :: .ok name :: .ok line :: rest) =
          some (Text.trim name, line) := choice?_of_yes hyes
    cases hop : mode.operation? (Text.trim name) with
    | none =>
      -- the name is refused before the query is asked for
      have hname := Mode.operation?_eq_none.mp hop
      simp only [queryQuestions, resolve, hop, if_neg hname, ofExcept_error_bind, play]
      refine ⟨rfl, rfl, ?_⟩
      rcases rest with - | ⟨e | line, rest⟩
      · exact (hmissing [.ok name] rfl).symm
      · exact (hmissing (.ok name :: .error e :: rest) rfl).symm
      · rw [decision?_of_choice? (hchoice line rest), hop]
        rfl
    | some op =>
      have hname : Text.trim name ∈ mode.allowed.map Operation.name := by
        obtain ⟨hmem, hname⟩ := Mode.operation?_eq_some.mp hop
        exact hname ▸ List.mem_map_of_mem hmem
      simp only [queryQuestions, resolve, hop, if_pos hname, ofExcept_ok_bind, play]
      rcases rest with - | ⟨e | line, rest⟩
      · exact ⟨rfl, rfl, (hmissing [.ok name] rfl).symm⟩
      · exact ⟨rfl, rfl, (hmissing (.ok name :: .error e :: rest) rfl).symm⟩
      rw [decision?_of_choice? (hchoice line rest), hop]
      cases hread : Query.read line with
      | error clause =>
        simp only [readQuery, hread, ofExcept_error_bind, play]
        exact ⟨rfl, rfl, rfl⟩
      | ok query =>
        simp only [readQuery, hread, ofExcept_ok_bind]
        exact ⟨rfl, rfl, rfl⟩

/-- What follows on an import is the chosen call, after the questions if there is no request. -/
theorem play_respond :
    ((respond mode request).play backend s).calls = (lastCall? mode request s.answers).toList ∧
      ((respond mode request).play backend s).asked =
        if request.isSome then [] else questions mode s.answers := by
  cases request with
  | some request =>
    simp only [respond, performNamed, resolve, lastCall?, decision?, choice?, readQuery]
    cases hread : Query.read request.query with
    | error clause =>
      refine ⟨?_, rfl⟩
      cases hop : mode.operation? request.operation <;> simp [hop, hread] <;> rfl
    | ok query =>
      simp only [ofExcept_ok_bind, record_bind, play]
      cases hop : mode.operation? request.operation with
      | none => exact ⟨by simp [hop]; rfl, rfl⟩
      | some op =>
        simp only [ofExcept_ok_bind]
        obtain ⟨hcalls, hasked⟩ := play_perform backend s op query
        exact ⟨hcalls.trans (by simp [hop, hread]; rfl), hasked⟩
  | none =>
    obtain ⟨hcalls, hasked, hresult⟩ := play_choose backend mode s
    unfold respond lastCall?
    -- what is performed is what `choose` has ended with
    rw [← hresult]
    cases h : ((choose mode).play backend s).result with
    | error e =>
      rw [play_bind_of_error h]
      exact ⟨hcalls, hasked⟩
    | ok chosen =>
      obtain ⟨op, query⟩ := chosen
      obtain ⟨hcalls', hasked'⟩ := play_perform backend
        ⟨((choose mode).play backend s).store, ((choose mode).play backend s).remaining⟩ op query
      rw [calls_bind_of_ok h, asked_bind_of_ok h, hcalls, hasked]
      simp only [record_bind, play]
      exact ⟨hcalls', (congrArg _ hasked').trans (List.append_nil _)⟩

/-- A session whose file holds documents: its calls and its questions after a good import, and
after a failed one. -/
theorem play_hold_ok (settings : Settings) (ds : List Document) :
    let run := (hold settings (.ok ds)).play backend s
    (Imported backend ds s.store →
      run.calls = importCalls ds ++
          (lastCall? settings.mode settings.request s.answers).toList ∧
        run.asked =
          if settings.request.isSome then [] else questions settings.mode s.answers) ∧
      (¬ Imported backend ds s.store → run.calls = importCalls ds ∧ run.asked = []) := by
  intro run
  obtain ⟨hcalls, hasked, hremaining, hresult⟩ := play_importAll backend s ds
  have hrun : run = (importAll ds >>= fun _ =>
      respond settings.mode settings.request).play backend s := rfl
  constructor
  · intro himported
    have hok := hresult.mpr himported
    obtain ⟨hcalls', hasked'⟩ := play_respond backend settings.mode settings.request
      ⟨((importAll ds).play backend s).store, ((importAll ds).play backend s).remaining⟩
    rw [hrun, calls_bind_of_ok hok, asked_bind_of_ok hok, hcalls, hasked, hcalls', hasked',
      hremaining]
    exact ⟨rfl, rfl⟩
  · intro hfailed
    cases h : ((importAll ds).play backend s).result with
    | ok u => exact absurd (hresult.mp h) hfailed
    | error e =>
      rw [hrun, play_bind_of_error h]
      exact ⟨hcalls, hasked⟩

end

/-- The calls and the questions of a session, for every backend, file and script of answers.

If the file does not load, nothing is called or asked.  Otherwise its documents are inserted first,
all in one call, if there are any.  If that goes well, the chosen call follows, and a session
without a request asks its questions; if it does not, nothing follows.  In any case no call comes
after a failed one. -/
theorem calls_hold (backend : Backend σ) (settings : Settings)
    (file : Except FileError (List Document)) (s : Scene σ) :
    let run := (hold settings file).play backend s
    (match file with
      | .error _ => run.calls = [] ∧ run.asked = []
      | .ok ds =>
        (∃ last : Option Call, run.calls = importCalls ds ++ last.toList ∧
          ∀ call, last = some call ↔
            Imported backend ds s.store ∧
              Chosen settings.mode settings.request s.answers call) ∧
        (Imported backend ds s.store → settings.request = none →
          run.asked = questions settings.mode s.answers) ∧
        (¬ Imported backend ds s.store ∨ settings.request ≠ none → run.asked = [])) ∧
      ∀ (before after : List Call) (call : Call) (e : StoreError),
        run.calls = before ++ call :: after →
          (backend call (backend.after s.store before)).1 = .error e → after = [] := by
  intro run
  refine ⟨?_, fun before after call e hcalls he => (play_stops _ s hcalls he).1⟩
  cases file with
  | error e => exact ⟨rfl, rfl⟩
  | ok ds =>
    obtain ⟨hgood, hbad⟩ := play_hold_ok backend s settings ds
    by_cases himported : Imported backend ds s.store
    · -- the session goes on
      obtain ⟨hcalls, hasked⟩ := hgood himported
      refine ⟨⟨_, hcalls, fun call => ?_⟩, ?_, ?_⟩
      · simp only [lastCall?_eq_some, himported, true_and]
      · intro _ hrequest
        rw [hasked, hrequest]
        rfl
      · rintro (h | hrequest)
        · exact absurd himported h
        · rw [hasked, if_pos (Option.isSome_iff_ne_none.mpr hrequest)]
    · -- the session has ended with the insertion
      obtain ⟨hcalls, hasked⟩ := hbad himported
      refine ⟨⟨none, ?_, fun call => ?_⟩, ?_, ?_⟩
      · rw [hcalls]
        exact (List.append_nil _).symm
      · simp [himported]
      · exact fun h => absurd h himported
      · exact fun _ => hasked

end Session
end DocLoad
