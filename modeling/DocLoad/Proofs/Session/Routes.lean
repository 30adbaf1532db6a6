import DocLoad.Proofs.Query.Grammar
import DocLoad.Proofs.Session.Calls
import DocLoad.Store.Collection

/-!
# DocLoad.Proofs.Session.Routes — the two ways to an operation

The operation of a session is named in advance, or the operator is asked for it.  The first way
reads the query line before it looks at the name, and the second one looks at the name before it
asks for the line.  `routes_agree` says that this is the only difference: with the same name and the
same line both have the same effect, and where both name and line are wrong each reports what it
sees first.  An operator who declines gets what naming the default operation would give.

`effect_respond_request`, `effect_respond_yes` and `effect_respond_no` are the effects after the
import, and `hold_reached` and `hold_not_reached` put the import in front of them.
-/

namespace DocLoad.Session

open Dialogue

variable {σ : Type} {backend : Backend σ} {mode : Mode}

/-! ## Parts that ask nothing -/

/-- An operation asks nothing. -/
theorem silent_perform (op : Operation) (q : Query) : Silent (perform op q) := by
  unfold perform
  split
  · exact .log (.call fun _ => .done _)
  · exact .call fun _ => .done _

theorem silent_importAll (ds : List Document) : Silent (importAll ds) := by
  unfold importAll
  split
  · exact .log (.done _)
  · exact .call fun _ => .log (.done _)

/-! ## After the import -/

/-- A request: the line is read first. -/
theorem effect_respond_request (request : Request) (s : Scene σ) :
    ((respond mode (some request)).play backend s).effect =
      match readQuery request.query with
      | .error e => (.error e, [], s.store)
      | .ok q =>
        match resolve request.operation mode with
        | .error e => (.error e, [], s.store)
        | .ok op => ((perform op q).play backend s).effect := by
  simp only [respond]
  cases readQuery request.query with
  | error e => rfl
  | ok q =>
    simp only [ofExcept_ok_bind, record_bind, play, Played.effect_addLog, performNamed]
    cases resolve request.operation mode <;> rfl

/-- A yes: the name is looked at first. -/
theorem effect_respond_yes {yes : String} (hyes : isYes yes = true) (name line : String)
    (rest : List (Except Error String)) (store : σ) :
    ((respond mode none).play backend ⟨store, .ok yes :: .ok name :: .ok line :: rest⟩).effect =
      match resolve (Text.trim name) mode with
      | .error e => (.error e, [], store)
      | .ok op =>
        match readQuery line with
        | .error e => (.error e, [], store)
        | .ok q => ((perform op q).play backend ⟨store, rest⟩).effect := by
  simp only [respond, choose, prompt_bind, ask_bind, play, hyes, if_true,
    Played.effect_addQuestion]
  cases resolve (Text.trim name) mode with
  | error e => rfl
  | ok op =>
    simp only [ofExcept_ok_bind, ask_bind, play, Played.effect_addQuestion]
    cases readQuery line <;> rfl

/-- Any other answer: the default operation, without a query. -/
theorem effect_respond_no {no : String} (hno : isYes no = false)
    (rest : List (Except Error String)) (store : σ) :
    ((respond mode none).play backend ⟨store, .ok no :: rest⟩).effect =
      ((perform mode.default .empty).play backend ⟨store, rest⟩).effect := by
  simp only [respond, choose, prompt_bind, ask_bind, play, hno, Bool.false_eq_true, if_false,
    Played.effect_addQuestion]
  rfl

/-- A name that the mode does not allow, together with a line that cannot be read. -/
structure BothWrong (mode : Mode) (name line clause : String) : Prop where
  name : name ∉ mode.allowed.map Operation.name
  line : Query.read line = .error clause

/-- After the import the two ways do the same, and end in the same way unless name and line are
both wrong. -/
theorem respond_agree (backend : Backend σ) (mode : Mode) {yes : String} (hyes : isYes yes = true)
    (name line : String) (answers rest : List (Except Error String)) (store : σ) :
    let flagged := (respond mode (some ⟨Text.trim name, line⟩)).play backend ⟨store, answers⟩
    let asked := (respond mode none).play backend
      ⟨store, .ok yes :: .ok name :: .ok line :: rest⟩
    (flagged.calls = asked.calls ∧ flagged.store = asked.store) ∧
      (∀ clause, BothWrong mode (Text.trim name) line clause →
        flagged.result = .error (.malformedQuery clause) ∧
          asked.result = .error (.invalidOperation (Text.trim name))) ∧
      ((¬ ∃ clause, BothWrong mode (Text.trim name) line clause) →
        flagged.result = asked.result) := by
  intro flagged asked
  have hflagged : flagged.effect = _ := effect_respond_request _ _
  have hasked : asked.effect = _ := effect_respond_yes hyes name line rest store
  simp only [resolve, readQuery] at hflagged hasked
  cases hop : mode.operation? (Text.trim name) with
  | none =>
    have hname := Mode.operation?_eq_none.mp hop
    rw [hop] at hflagged hasked
    cases hread : Query.read line with
    | error clause =>
      -- both are wrong
      rw [hread] at hflagged
      obtain ⟨hresult, hcalls, hstore⟩ := Prod.mk.inj hflagged |>.imp_right Prod.mk.inj
      obtain ⟨hresult', hcalls', hstore'⟩ := Prod.mk.inj hasked |>.imp_right Prod.mk.inj
      refine ⟨⟨hcalls.trans hcalls'.symm, hstore.trans hstore'.symm⟩, ?_, ?_⟩
      · rintro clause' ⟨-, hline⟩
        cases hread.symm.trans hline
        exact ⟨hresult, hresult'⟩
      · intro h
        exact absurd ⟨clause, hname, hread⟩ h
    | ok q =>
      rw [hread] at hflagged
      obtain ⟨hresult, hsame⟩ := Played.effect_inj (hflagged.trans hasked.symm)
      refine ⟨hsame, ?_, fun _ => hresult⟩
      rintro clause ⟨-, hline⟩
      cases hread.symm.trans hline
  | some op =>
    have heffect : flagged.effect = asked.effect := by
      rw [hflagged, hasked, hop]
      cases Query.read line with
      | error clause => rfl
      | ok q => exact (silent_perform op q).effect_eq store answers rest
    obtain ⟨hresult, hsame⟩ := Played.effect_inj heffect
    refine ⟨hsame, ?_, fun _ => hresult⟩
    rintro clause ⟨hname, -⟩
    rw [Mode.operation?_eq_none.mpr hname] at hop
    cases hop

/-- Declining has the effect of naming the default operation, with an empty line. -/
theorem respond_default (backend : Backend σ) (mode : Mode) {yes no : String}
    (hyes : isYes yes = true) (hno : isYes no = false) (rest rest' : List (Except Error String))
    (store : σ) :
    ((respond mode none).play backend ⟨store, .ok no :: rest⟩).effect =
      ((respond mode none).play backend
        ⟨store, .ok yes :: .ok mode.default.name :: .ok "" :: rest'⟩).effect := by
  have hname : Text.trim mode.default.name = mode.default.name := by
    cases mode <;> decide
  have hresolve : resolve (Text.trim mode.default.name) mode = .ok mode.default := by
    simp only [hname, resolve, Mode.operation?_default]
  have hline : readQuery "" = .ok .empty := rfl
  rw [effect_respond_no hno, effect_respond_yes hyes, hresolve, hline]
  exact (silent_perform mode.default .empty).effect_eq store rest rest'

/-! ## Whole sessions -/

/-- A session gets to its operation: the file gives documents, and they are imported. -/
def Reached (backend : Backend σ) (file : Except FileError (List Document)) (store : σ) : Prop :=
  ∃ ds, file = .ok ds ∧ Imported backend ds store

section

variable (settings : Settings) {file : Except FileError (List Document)} {store : σ}

/-- The import does not depend on what follows, and what follows starts in the store that it
leaves. -/
theorem hold_reached (h : Reached backend file store) :
    ∃ calls store', ∀ request answers,
      let run := (hold { settings with request } file).play backend ⟨store, answers⟩
      let after := (respond settings.mode request).play backend ⟨store', answers⟩
      run.result = after.result ∧ run.calls = calls ++ after.calls ∧ run.store = after.store := by
  obtain ⟨ds, rfl, himported⟩ := h
  let first := (importAll ds).play backend ⟨store, []⟩
  refine ⟨first.calls, first.store, fun request answers => ?_⟩
  have hresult := (play_importAll backend ⟨store, answers⟩ ds).2.2.2.mpr himported
  have heffect : ((importAll ds).play backend ⟨store, answers⟩).effect = first.effect :=
    (silent_importAll ds).effect_eq store answers []
  have hremaining : ((importAll ds).play backend ⟨store, answers⟩).remaining = answers :=
    (silent_importAll ds).remaining_eq ⟨store, answers⟩
  obtain ⟨-, hcalls, hstore⟩ := Played.effect_inj heffect
  have hrun : (hold { settings with request } (.ok ds)).play backend ⟨store, answers⟩ =
      (importAll ds >>= fun _ => respond settings.mode request).play backend ⟨store, answers⟩ := rfl
  rw [hrun, play_bind, Played.andThen_of_ok hresult, hremaining, hcalls, hstore]
  exact ⟨rfl, rfl, rfl⟩

/-- A session that does not get to its operation ends in the same way, whatever was to follow. -/
theorem hold_not_reached (h : ¬ Reached backend file store) :
    ∃ effect, ∀ request answers,
      ((hold { settings with request } file).play backend ⟨store, answers⟩).effect = effect := by
  cases file with
  | error e => exact ⟨(.error (.file settings.file e), [], store), fun _ _ => rfl⟩
  | ok ds =>
    let first := (importAll ds).play backend ⟨store, []⟩
    cases hfirst : first.result with
    | ok u =>
      have himported := (play_importAll backend ⟨store, []⟩ ds).2.2.2.mp hfirst
      exact absurd ⟨ds, rfl, himported⟩ h
    | error e =>
      refine ⟨(.error e, first.calls, first.store), fun request answers => ?_⟩
      have heffect : ((importAll ds).play backend ⟨store, answers⟩).effect = first.effect :=
        (silent_importAll ds).effect_eq store answers []
      obtain ⟨hresult, hcalls, hstore⟩ := Played.effect_inj heffect
      have hrun : (hold { settings with request } (.ok ds)).play backend ⟨store, answers⟩ =
          (importAll ds >>= fun _ => respond settings.mode request).play backend
            ⟨store, answers⟩ := rfl
      rw [hrun, play_bind, Played.effect_andThen_of_error (hresult.trans hfirst), hcalls, hstore]

end

/-- The two ways to an operation agree, for every backend, file and store.

With a name and a line as flags, or as answers after a yes, a session makes the same calls and
leaves the same store.  It also ends in the same way, unless it gets to its operation and both the
name and the line are wrong: then the flags report the line and the answers report the name.

Declining ends in the same way as answering with the name of the default operation and an empty
line, with the same calls and the same store. -/
theorem routes_agree (backend : Backend σ) (settings : Settings)
    (file : Except FileError (List Document)) (store : σ) (flags : Flags)
    (yes no name line : String) (answers rest rest' : List (Except Error String))
    (hyes : isYes yes = true) (hno : isYes no = false) :
    let run (request : Option Request) (answers : List (Except Error String)) :=
      (hold { settings with request } file).play backend ⟨store, answers⟩
    let flagged :=
      run (Settings.requestOf { flags with operation := some name, query := some line }) answers
    let asked := run none (.ok yes :: .ok name :: .ok line :: rest)
    let declined := run none (.ok no :: rest)
    let named := run none (.ok yes :: .ok settings.mode.default.name :: .ok "" :: rest')
    (flagged.calls = asked.calls ∧ flagged.store = asked.store) ∧
      (∀ clause, Reached backend file store →
        BothWrong settings.mode (Text.trim name) line clause →
          flagged.result = .error (.malformedQuery clause) ∧
            asked.result = .error (.invalidOperation (Text.trim name))) ∧
      (¬ (Reached backend file store ∧
          ∃ clause, BothWrong settings.mode (Text.trim name) line clause) →
        flagged.result = asked.result) ∧
      (declined.calls = named.calls ∧ declined.store = named.store ∧
        declined.result = named.result) := by
  intro run flagged asked declined named
  by_cases hreached : Reached backend file store
  · -- the four runs are the import and then what `respond` does in the store that it left
    obtain ⟨calls, store', hrun⟩ := hold_reached settings hreached
    obtain ⟨hresult₁, hcalls₁, hstore₁⟩ := hrun (some ⟨Text.trim name, line⟩) answers
    obtain ⟨hresult₂, hcalls₂, hstore₂⟩ := hrun none (.ok yes :: .ok name :: .ok line :: rest)
    obtain ⟨hresult₃, hcalls₃, hstore₃⟩ := hrun none (.ok no :: rest)
    obtain ⟨hresult₄, hcalls₄, hstore₄⟩ :=
      hrun none (.ok yes :: .ok settings.mode.default.name :: .ok "" :: rest')
    obtain ⟨⟨hcalls, hstore⟩, hwrong, hagree⟩ :=
      respond_agree backend settings.mode hyes name line answers rest store'
    obtain ⟨hresult', hcalls', hstore'⟩ := Played.effect_inj <|
      respond_default backend settings.mode hyes hno rest rest' store'
    refine ⟨⟨?_, ?_⟩, ?_, ?_, ?_, ?_, ?_⟩
    · exact hcalls₁.trans ((congrArg _ hcalls).trans hcalls₂.symm)
    · exact hstore₁.trans (hstore.trans hstore₂.symm)
    · intro clause _ hboth
      obtain ⟨hflagged, hasked⟩ := hwrong clause hboth
      exact ⟨hresult₁.trans hflagged, hresult₂.trans hasked⟩
    · intro h
      have hsame := hagree fun hboth => h ⟨hreached, hboth⟩
      exact hresult₁.trans (hsame.trans hresult₂.symm)
    · exact hcalls₃.trans ((congrArg _ hcalls').trans hcalls₄.symm)
    · exact hstore₃.trans (hstore'.trans hstore₄.symm)
    · exact hresult₃.trans (hresult'.trans hresult₄.symm)
  · -- the two ways part only after the import
    obtain ⟨effect, hrun⟩ := hold_not_reached settings hreached
    have hsame : flagged.effect = asked.effect := (hrun _ _).trans (hrun _ _).symm
    have hdefault : declined.effect = named.effect := (hrun _ _).trans (hrun _ _).symm
    obtain ⟨hresult, hcalls, hstore⟩ := Played.effect_inj hsame
    obtain ⟨hresult', hcalls', hstore'⟩ := Played.effect_inj hdefault
    refine ⟨⟨hcalls, hstore⟩, fun clause h => absurd h hreached, fun _ => hresult, ?_⟩
    exact ⟨hcalls', hstore', hresult'⟩

/-- A name that no mode allows and a line without `=`, after the import of one document: the two
ways report different faults, and have inserted the document. -/
theorem routes_differ_of_bothWrong :
    let backend := Collection.answer fun n => ⟨BitVec.ofNat 96 n⟩
    let settings : Settings := ⟨StoreUrl.default, "db", "people", "people.json", .general, none⟩
    let file : Except FileError (List Document) := .ok [[("name", .string "Ada")]]
    let flags : Flags := { Flags.none with operation := some " drop ", query := some "name" }
    let store := Collection.empty "people"
    let flagged := (hold { settings with request := Settings.requestOf flags } file).play backend
      ⟨store, []⟩
    let asked := (hold settings file).play backend ⟨store, [.ok " Yes", .ok " drop ", .ok "name"]⟩
    isYes " Yes" = true ∧ isYes "no" = false ∧
      (flagged.calls = asked.calls ∧ flagged.store = asked.store) ∧
      flagged.result = .error (.malformedQuery "name") ∧
      asked.result = .error (.invalidOperation "drop") := by
  intro backend settings file flags store flagged asked
  have hyes : isYes " Yes" = true := by decide +kernel
  have hno : isYes "no" = false := by decide +kernel
  have htrim : Text.trim " drop " = "drop" := by decide +kernel
  have hreached : Reached backend file store := ⟨_, rfl, .inr ⟨_, rfl⟩⟩
  have hboth : BothWrong .general (Text.trim " drop ") "name" "name" := by
    rw [htrim]
    exact ⟨by decide, by decide +kernel⟩
  obtain ⟨hsame, hwrong, -⟩ :=
    routes_agree backend settings file store Flags.none " Yes" "no" " drop " "name" [] [] []
      hyes hno
  obtain ⟨hflagged, hasked⟩ := hwrong "name" hreached hboth
  rw [htrim] at hasked
  exact ⟨hyes, hno, hsame, hflagged, hasked⟩

end DocLoad.Session
