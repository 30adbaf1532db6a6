import DocLoad.Error
import DocLoad.Log

/-!
# DocLoad.Dialogue — runs as sequences of visible steps

A `Dialogue α` is a run that ends with a value of type `α` or with an `Error`.  On the way it asks
the operator questions, calls the store and writes log records; what happens next may depend on the
answers.  `Dialogue.play` runs it against a backend and a script of answers and records everything
that could be seen.
-/

namespace DocLoad

/-- A run with visible steps. -/
inductive Dialogue (α : Type) where
  | done (a : α)
  | fail (e : Error)
  | ask (question : String) (next : String → Dialogue α)
  | call (c : Call) (next : c.Reply → Dialogue α)
  | log (record : LogRecord) (next : Dialogue α)

namespace Dialogue

variable {α β : Type}

/-- Goes on with the value in which a run ends. -/
def bind : Dialogue α → (α → Dialogue β) → Dialogue β
  | done a, f => f a
  | fail e, _ => fail e
  | ask question next, f => ask question fun answer => bind (next answer) f
  | call c next, f => call c fun reply => bind (next reply) f
  | log record next, f => log record (bind next f)

instance : Monad Dialogue where
  pure := done
  bind := bind

/-- Asks the operator. -/
def prompt (question : String) : Dialogue String :=
  ask question done

/-- Calls the store. -/
def request (c : Call) : Dialogue c.Reply :=
  call c done

/-- Writes a log record. -/
def record (level : LogLevel) (text : String) : Dialogue Unit :=
  log ⟨level, text⟩ (done ())

/-- A value, or the end of the run. -/
def ofExcept : Except Error α → Dialogue α
  | .ok a => done a
  | .error e => fail e

/-! ## Playing -/

/-- What a run finds: the state of the store, and the operator's answers in order.  An answer may
be a failure to answer. -/
structure Scene (σ : Type) where
  store : σ
  answers : List (Except Error String)

/-- What could be seen of a run, and what it left. -/
structure Played (σ α : Type) where
  result : Except Error α
  store : σ
  remaining : List (Except Error String)
  asked : List String
  calls : List Call
  logs : List LogRecord

variable {σ : Type}

namespace Played

/-- A run that ends at once. -/
def ended (result : Except Error α) (s : Scene σ) : Played σ α :=
  ⟨result, s.store, s.answers, [], [], []⟩

def addQuestion (question : String) (p : Played σ α) : Played σ α :=
  { p with asked := question :: p.asked }

def addCall (c : Call) (p : Played σ α) : Played σ α :=
  { p with calls := c :: p.calls }

def addLog (record : LogRecord) (p : Played σ α) : Played σ α :=
  { p with logs := record :: p.logs }

end Played

/-- Runs a dialogue.  A question without an answer ends it, and so does a failed call. -/
def play (backend : Backend σ) : Dialogue α → Scene σ → Played σ α
  | done a, s => .ended (.ok a) s
  | fail e, s => .ended (.error e) s
  | ask question next, s =>
    .addQuestion question <|
      match s.answers with
      | [] => .ended (.error .endOfInput) s
      | .error e :: answers => .ended (.error e) { s with answers }
      | .ok answer :: answers => play backend (next answer) { s with answers }
  | call c next, s =>
    .addCall c <|
      match backend c s.store with
      | (.ok reply, store) => play backend (next reply) { s with store }
      | (.error e, store) => .ended (.error (.store e)) { s with store }
  | log record next, s => .addLog record (play backend next s)

end Dialogue
end DocLoad
