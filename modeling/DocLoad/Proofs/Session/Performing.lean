import DocLoad.Proofs.Playing
import DocLoad.Session
import DocLoad.Store.Collection

/-!
# DocLoad.Proofs.Session.Performing — what an operation gives

An operation is one store call, so its outcome is the store's reply in another form, and the store
that it leaves is the one that the call leaves: `answered` is both, and `played_perform` says that a
performed operation gives them.  `Collection.execute` is an operation given by its name and a query
line, on a collection in memory.
-/

namespace DocLoad

open Dialogue

namespace Session

variable {σ : Type}

/-- The outcome of an operation and the store that it leaves, for a backend and a store. -/
def answered (backend : Backend σ) (op : Operation) (q : Query) (store : σ) :
    Except Error Outcome × σ :=
  match backend (op.call q.toDocument) store with
  | (.ok reply, store) => (.ok (op.outcome q.toDocument reply), store)
  | (.error e, store) => (.error (.store e), store)

variable {backend : Backend σ} {op : Operation} {q : Query} {store store' : σ}

/-- An operation succeeds if its call does, with the outcome that the reply gives. -/
theorem answered_eq_ok {outcome : Outcome} :
    answered backend op q store = (.ok outcome, store') ↔
      ∃ reply, backend (op.call q.toDocument) store = (.ok reply, store') ∧
        op.outcome q.toDocument reply = outcome := by
  rw [answered]
  constructor
  · intro h
    split at h
    · next reply store₁ hcall =>
      cases h
      exact ⟨reply, hcall, rfl⟩
    · cases h
  · rintro ⟨reply, hcall, rfl⟩
    rw [hcall]

theorem answered_of_ok {reply : (op.call q.toDocument).Reply}
    (h : backend (op.call q.toDocument) store = (.ok reply, store')) :
    answered backend op q store = (.ok (op.outcome q.toDocument reply), store') :=
  answered_eq_ok.mpr ⟨reply, h, rfl⟩

section

variable (backend : Backend σ) (op : Operation) (q : Query) (s : Scene σ)

/-- An operation ends with its outcome, and leaves the answers alone. -/
theorem played_perform :
    (((perform op q).play backend s).result, ((perform op q).play backend s).store) =
        answered backend op q s.store ∧
      ((perform op q).play backend s).remaining = s.answers := by
  unfold perform answered
  rcases hcall : backend (op.call q.toDocument) s.store with ⟨e | reply, store⟩
  -- a count says first that it ignores its query, which changes nothing of this
  · split <;> simp only [record_bind, request_bind, play, hcall] <;> exact ⟨rfl, rfl⟩
  · split <;> simp only [record_bind, request_bind, play, hcall] <;> exact ⟨rfl, rfl⟩

end

end Session

/-! ## Operations on a collection -/

namespace Collection

/-- Runs the operation with a name and a query line, if the mode allows it, on a collection; `gen`
is the sequence of new identifiers. -/
def execute (gen : Nat → ObjectId) (mode : Mode) (name line : String) (c : Collection) :
    Except Error Outcome × Collection :=
  let run : Dialogue Outcome := do
    let q ← .ofExcept (Session.readQuery line)
    Session.performNamed name q mode
  let played := run.play (answer gen) ⟨c, []⟩
  (played.result, played.store)

variable {gen : Nat → ObjectId} {mode : Mode} {name line : String} {q : Query}

/-- An allowed operation with a query line that can be read is performed. -/
theorem execute_eq (op : Operation) (hread : Session.readQuery line = .ok q)
    (hop : mode.operation? name = some op) (c : Collection) :
    c.execute gen mode name line = Session.answered (answer gen) op q c := by
  simp only [execute, hread, ofExcept_ok_bind, Session.performNamed, Session.resolve, hop]
  exact (Session.played_perform (answer gen) op q ⟨c, []⟩).1

end Collection
end DocLoad
