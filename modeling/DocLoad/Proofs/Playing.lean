import DocLoad.Dialogue

/-!
# DocLoad.Proofs.Playing — what can be seen of a played dialogue

A dialogue that goes on after another one is played by playing the first and then the second from
where the first has left the store and the answers (`play_bind`).  So the calls, the questions and
the log records of a long dialogue are those of its parts, one after another.

Two facts hold of every dialogue and every backend: the store is the one that the calls lead to
(`store_play`), and a failed call is the last one (`play_stops`).

What a run did, apart from its questions and log records, is its `Played.effect`; a dialogue that
asks nothing (`Silent`) has the same effect whatever the operator would answer (`Silent.effect_eq`).
-/

namespace DocLoad

/-- The state after calls in order, each answered in the state that the one before it has left. -/
def Backend.after {σ : Type} (backend : Backend σ) (s : σ) (calls : List Call) : σ :=
  calls.foldl (fun s c => (backend c s).2) s

namespace Dialogue

variable {σ α β : Type} {backend : Backend σ}

/-! ## First steps -/

@[simp] theorem done_bind (a : α) (f : α → Dialogue β) : done a >>= f = f a := rfl

@[simp] theorem pure_bind (a : α) (f : α → Dialogue β) : (pure a : Dialogue α) >>= f = f a := rfl

@[simp] theorem prompt_bind (question : String) (f : String → Dialogue β) :
    prompt question >>= f = ask question f := rfl

@[simp] theorem ask_bind (question : String) (next : String → Dialogue α) (f : α → Dialogue β) :
    ask question next >>= f = ask question fun answer => next answer >>= f := rfl

@[simp] theorem request_bind (c : Call) (f : c.Reply → Dialogue β) :
    request c >>= f = call c f := rfl

@[simp] theorem record_bind (level : LogLevel) (text : String) (f : Unit → Dialogue β) :
    record level text >>= f = log ⟨level, text⟩ (f ()) := rfl

@[simp] theorem ofExcept_ok_bind (a : α) (f : α → Dialogue β) :
    ofExcept (.ok a) >>= f = f a := rfl

@[simp] theorem ofExcept_error_bind (e : Error) (f : α → Dialogue β) :
    ofExcept (.error e : Except Error α) >>= f = fail e := rfl

/-- How the parts of a dialogue are put together makes no difference. -/
theorem bind_assoc {γ : Type} (d : Dialogue α) (f : α → Dialogue β) (g : β → Dialogue γ) :
    d >>= f >>= g = d >>= fun a => f a >>= g := by
  show (d.bind f).bind g = d.bind fun a => (f a).bind g
  induction d with
  | done a => rfl
  | fail e => rfl
  | ask question next ih => exact congrArg (ask question) (funext ih)
  | call c next ih => exact congrArg (call c) (funext ih)
  | log record next ih => exact congrArg (log record) ih

variable {s : Scene σ}

theorem play_ofExcept (x : Except Error α) : (ofExcept x).play backend s = .ended x s := by
  cases x <;> rfl

/-- A call that succeeds is recorded, and the run goes on with its reply in the new store. -/
theorem play_call_of_ok {c : Call} {next : c.Reply → Dialogue α} {reply : c.Reply} {store : σ}
    (h : backend c s.store = (.ok reply, store)) :
    (call c next).play backend s =
      ((next reply).play backend { s with store }).addCall c := by
  simp only [play, h]

/-- A call that fails is recorded, and ends the run with the failure of the store. -/
theorem play_call_of_error {c : Call} {next : c.Reply → Dialogue α} {e : StoreError} {store : σ}
    (h : backend c s.store = (.error e, store)) :
    (call c next).play backend s =
      (Played.ended (.error (.store e)) { s with store }).addCall c := by
  simp only [play, h]

/-! ## One dialogue after another -/

namespace Played

/-- Goes on with a run that has ended with a value, where it has left the scene. -/
def andThen (p : Played σ α) (next : α → Scene σ → Played σ β) : Played σ β :=
  match p.result with
  | .error e => { p with result := .error e }
  | .ok a =>
    let q := next a ⟨p.store, p.remaining⟩
    { q with
      asked := p.asked ++ q.asked
      calls := p.calls ++ q.calls
      logs := p.logs ++ q.logs }

variable {p : Played σ α} {next : α → Scene σ → Played σ β}

/-- Going on after a value puts what happens behind what has happened. -/
theorem andThen_of_ok {a : α} (h : p.result = .ok a) :
    p.andThen next =
      { next a ⟨p.store, p.remaining⟩ with
        asked := p.asked ++ (next a ⟨p.store, p.remaining⟩).asked
        calls := p.calls ++ (next a ⟨p.store, p.remaining⟩).calls
        logs := p.logs ++ (next a ⟨p.store, p.remaining⟩).logs } := by
  simp only [andThen, h]

theorem andThen_of_error {e : Error} (h : p.result = .error e) :
    p.andThen next = { p with result := .error e } := by
  simp only [andThen, h]

/-- A question that was asked first comes first in the whole run. -/
theorem andThen_addQuestion (question : String) :
    (p.addQuestion question).andThen next = (p.andThen next).addQuestion question := by
  cases h : p.result <;> simp [andThen, addQuestion, h]

theorem andThen_addCall (c : Call) :
    (p.addCall c).andThen next = (p.andThen next).addCall c := by
  cases h : p.result <;> simp [andThen, addCall, h]

theorem andThen_addLog (record : LogRecord) :
    (p.addLog record).andThen next = (p.andThen next).addLog record := by
  cases h : p.result <;> simp [andThen, addLog, h]

end Played

/-- A dialogue in two parts is played one part after the other. -/
theorem play_bind (d : Dialogue α) (f : α → Dialogue β) (s : Scene σ) :
    (d >>= f).play backend s = (d.play backend s).andThen fun a s => (f a).play backend s := by
  change (d.bind f).play backend s = _
  -- by the steps of the first part: each is visible in both runs, and the induction does the rest
  induction d generalizing s with
  | done a => simp [Dialogue.bind, play, Played.ended, Played.andThen]
  | fail e => rfl
  | log record next ih =>
    simp only [Dialogue.bind, play, Played.andThen_addLog]
    rw [ih]
  | ask question next ih =>
    simp only [Dialogue.bind, play, Played.andThen_addQuestion]
    congr 1
    split
    · rfl
    · rfl
    · exact ih _ _
  | call c next ih =>
    simp only [Dialogue.bind, play, Played.andThen_addCall]
    congr 1
    split
    · exact ih _ _
    · rfl

section

variable {d : Dialogue α} {f : α → Dialogue β} {s : Scene σ}

/-- When the first part of a dialogue fails, its run is the whole run. -/
theorem play_bind_of_error {e : Error} (h : (d.play backend s).result = .error e) :
    (d >>= f).play backend s = { d.play backend s with result := .error e } := by
  rw [play_bind, Played.andThen_of_error h]

variable {a : α} (h : (d.play backend s).result = .ok a)
include h

/-- The calls of a dialogue are those of its first part and then those of its second. -/
theorem calls_bind_of_ok :
    ((d >>= f).play backend s).calls = (d.play backend s).calls ++
      ((f a).play backend ⟨(d.play backend s).store, (d.play backend s).remaining⟩).calls := by
  rw [play_bind, Played.andThen_of_ok h]

theorem asked_bind_of_ok :
    ((d >>= f).play backend s).asked = (d.play backend s).asked ++
      ((f a).play backend ⟨(d.play backend s).store, (d.play backend s).remaining⟩).asked := by
  rw [play_bind, Played.andThen_of_ok h]

end

/-- A last step that only computes changes the value only. -/
theorem play_map (d : Dialogue α) (f : α → β) (s : Scene σ) :
    (d >>= fun a => pure (f a)).play backend s =
      { d.play backend s with result := (d.play backend s).result.map f } := by
  rw [play_bind]
  cases h : (d.play backend s).result with
  | error e =>
    rw [Played.andThen_of_error h]
    rfl
  | ok a =>
    rw [Played.andThen_of_ok h]
    simp [pure, play, Played.ended, Except.map]

/-! ## The store and the calls -/

/-- The store of a played dialogue is the one that its calls lead to. -/
theorem store_play (d : Dialogue α) (s : Scene σ) :
    (d.play backend s).store = backend.after s.store (d.play backend s).calls := by
  induction d generalizing s with
  | done a => rfl
  | fail e => rfl
  | log record next ih => exact ih s
  | ask question next ih =>
    simp only [play, Played.addQuestion]
    split
    · rfl
    · rfl
    · exact ih _ _
  | call c next ih =>
    simp only [play, Played.addCall, Backend.after, List.foldl_cons]
    split
    · next reply store h =>
      rw [h]
      exact ih reply _
    · next e store h =>
      rw [h]
      rfl

/-- A failed call is the last one, and the run fails with it. -/
theorem play_stops (d : Dialogue α) (s : Scene σ) {before after : List Call} {c : Call}
    {e : StoreError} (hcalls : (d.play backend s).calls = before ++ c :: after)
    (he : (backend c (backend.after s.store before)).1 = .error e) :
    after = [] ∧ (d.play backend s).result = .error (.store e) := by
  induction d generalizing s before with
  | done a => simp [play, Played.ended] at hcalls
  | fail e => simp [play, Played.ended] at hcalls
  | log record next ih => exact ih s hcalls he
  | ask question next ih =>
    simp only [play, Played.addQuestion] at hcalls ⊢
    split at hcalls
    · simp [Played.ended] at hcalls
    · simp [Played.ended] at hcalls
    · exact ih _ _ hcalls he
  | call c' next ih =>
    simp only [play, Played.addCall] at hcalls ⊢
    rcases before with - | ⟨b, before⟩
    · -- the failed call is the first one
      obtain ⟨rfl, hafter⟩ := List.cons.inj hcalls
      replace he : (backend c' s.store).1 = .error e := he
      split at hafter <;> rename_i h
      · rw [h] at he
        cases he
      · rw [h] at he
        cases he
        exact ⟨hafter.symm, rfl⟩
    · -- it comes later, so the first one was answered
      obtain ⟨rfl, hrest⟩ := List.cons.inj hcalls
      replace he : (backend c (backend.after (backend c' s.store).2 before)).1 = .error e := he
      split at hrest <;> rename_i h
      · rw [h] at he
        exact ih _ _ hrest he
      · cases before <;> cases hrest

/-! ## Effects -/

namespace Played

/-- How a run ended, which calls it made and which store it left. -/
def effect (p : Played σ α) : Except Error α × List Call × σ :=
  (p.result, p.calls, p.store)

/-- Runs with one effect have the same result, calls and store. -/
theorem effect_inj {p q : Played σ α} (h : p.effect = q.effect) :
    p.result = q.result ∧ p.calls = q.calls ∧ p.store = q.store := by
  obtain ⟨hresult, hrest⟩ := Prod.mk.inj h
  exact ⟨hresult, Prod.mk.inj hrest⟩

@[simp] theorem effect_ended (result : Except Error α) (s : Scene σ) :
    (ended result s).effect = (result, [], s.store) := rfl

@[simp] theorem effect_addQuestion (question : String) (p : Played σ α) :
    (p.addQuestion question).effect = p.effect := rfl

@[simp] theorem effect_addLog (record : LogRecord) (p : Played σ α) :
    (p.addLog record).effect = p.effect := rfl

theorem effect_addCall (c : Call) (p : Played σ α) :
    (p.addCall c).effect = (p.effect.1, c :: p.effect.2.1, p.effect.2.2) := rfl

/-- The effect of two runs, one after the other, when the first ends with a value. -/
theorem effect_andThen_of_ok {p : Played σ α} {next : α → Scene σ → Played σ β} {a : α}
    (h : p.result = .ok a) :
    (p.andThen next).effect =
      ((next a ⟨p.store, p.remaining⟩).effect.1,
        p.calls ++ (next a ⟨p.store, p.remaining⟩).effect.2.1,
        (next a ⟨p.store, p.remaining⟩).effect.2.2) := by
  rw [andThen_of_ok h]
  rfl

/-- A run that fails has its own effect only, whatever would come next. -/
theorem effect_andThen_of_error {p : Played σ α} {next : α → Scene σ → Played σ β} {e : Error}
    (h : p.result = .error e) : (p.andThen next).effect = (.error e, p.calls, p.store) := by
  rw [andThen_of_error h]
  rfl

end Played

/-- A dialogue that asks nothing. -/
inductive Silent : Dialogue α → Prop where
  | done (a : α) : Silent (.done a)
  | fail (e : Error) : Silent (.fail e)
  | call {c : Call} {next : c.Reply → Dialogue α} (h : ∀ reply, Silent (next reply)) :
      Silent (.call c next)
  | log {record : LogRecord} {next : Dialogue α} (h : Silent next) : Silent (.log record next)

/-- Such a dialogue leaves the answers alone. -/
theorem Silent.remaining_eq {d : Dialogue α} (h : Silent d) (s : Scene σ) :
    (d.play backend s).remaining = s.answers := by
  induction h generalizing s with
  | done a => rfl
  | fail e => rfl
  | log _ ih => exact ih s
  | @call c next _ ih =>
    rcases hcall : backend c s.store with ⟨e | reply, store⟩
    · rw [play_call_of_error hcall]
      rfl
    · rw [play_call_of_ok hcall]
      exact ih reply ⟨store, s.answers⟩

/-- Such a dialogue has the same effect for all answers. -/
theorem Silent.effect_eq {d : Dialogue α} (h : Silent d) (store : σ)
    (answers answers' : List (Except Error String)) :
    (d.play backend ⟨store, answers⟩).effect = (d.play backend ⟨store, answers'⟩).effect := by
  induction h generalizing store with
  | done a => rfl
  | fail e => rfl
  | log _ ih => exact ih store
  | @call c next _ ih =>
    rcases hcall : backend c store with ⟨e | reply, store'⟩
    · rw [play_call_of_error hcall, play_call_of_error hcall]
      rfl
    · rw [play_call_of_ok hcall, play_call_of_ok hcall, Played.effect_addCall,
        Played.effect_addCall, ih reply store']

end Dialogue
end DocLoad
