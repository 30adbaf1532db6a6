import DocLoad.Proofs.Playing

/-!
# DocLoad.Proofs.Answering — what a dialogue makes of the answers

A played dialogue takes one answer for each question that it asks, in order (`remaining_play`).

Two kinds of statements are about all answers at once.  `EndsIn` says which values a dialogue can
end in (`EndsIn.of_result`).  `Indifferent` says which answers to a question make no difference:
for those the dialogue goes on in the same way.  Then nothing that can be seen of a run depends on
which of them was given (`Indifferent.play_eq`); in particular a run depends only on the answers
to the questions that it asks (`play_of_take`).
-/

namespace DocLoad

namespace Dialogue

variable {σ α β : Type} {backend : Backend σ}

/-! ## How many answers -/

/-- Each question takes one answer, as long as there are any. -/
theorem remaining_play (d : Dialogue α) (s : Scene σ) :
    (d.play backend s).remaining = s.answers.drop (d.play backend s).asked.length := by
  induction d generalizing s with
  | done a => rfl
  | fail e => rfl
  | log record next ih => exact ih s
  | ask question next ih =>
    simp only [play, Played.addQuestion]
    split
    · next h =>
      rw [h]
      exact h
    · next e answers h =>
      rw [h]
      rfl
    · next answer answers h =>
      rw [h, List.length_cons, List.drop_succ_cons]
      exact ih answer _
  | call c next ih =>
    simp only [play, Played.addCall]
    split
    · exact ih _ _
    · rfl

/-- A question whose answer is read at once. -/
theorem play_ask_ofExcept (question : String) (f : String → Except Error α) (s : Scene σ) :
    (ask question fun text => ofExcept (f text)).play backend s =
      ⟨s.answers.head?.getD (.error .endOfInput) >>= f, s.store, s.answers.tail, [question], [],
        []⟩ := by
  rcases s with ⟨store, - | ⟨e | text, answers⟩⟩
  · rfl
  · rfl
  · show Played.addQuestion question _ = _
    rw [play_ofExcept]
    rfl

/-! ## The values in which a dialogue can end -/

/-- Whether all values in which a dialogue can end have a property. -/
inductive EndsIn (P : α → Prop) : Dialogue α → Prop where
  | done {a : α} (h : P a) : EndsIn P (.done a)
  | fail (e : Error) : EndsIn P (.fail e)
  | ask {question : String} {next : String → Dialogue α} (h : ∀ answer, EndsIn P (next answer)) :
    EndsIn P (.ask question next)
  | call {c : Call} {next : c.Reply → Dialogue α} (h : ∀ reply, EndsIn P (next reply)) :
    EndsIn P (.call c next)
  | log {record : LogRecord} {next : Dialogue α} (h : EndsIn P next) : EndsIn P (.log record next)

theorem endsIn_true (d : Dialogue α) : d.EndsIn fun _ => True := by
  induction d with
  | done a => exact .done trivial
  | fail e => exact .fail e
  | ask question next ih => exact .ask ih
  | call c next ih => exact .call ih
  | log record next ih => exact .log ih

theorem endsIn_ofExcept {P : α → Prop} {x : Except Error α} (h : ∀ a, x = .ok a → P a) :
    (ofExcept x).EndsIn P := by
  cases x with
  | ok a => exact .done (h a rfl)
  | error e => exact .fail e

/-- If a dialogue ends in values with one property, and going on from those ends in values with
another, the whole ends in the latter. -/
theorem EndsIn.bind {P : α → Prop} {Q : β → Prop} {d : Dialogue α} {f : α → Dialogue β}
    (hd : d.EndsIn P) (hf : ∀ a, P a → (f a).EndsIn Q) : (d >>= f).EndsIn Q := by
  change (d.bind f).EndsIn Q
  induction hd with
  | done h => exact hf _ h
  | fail e => exact .fail e
  | ask _ ih => exact .ask ih
  | call _ ih => exact .call ih
  | log _ ih => exact .log ih

/-- A run that ends with a value ends in one of them. -/
theorem EndsIn.of_result {P : α → Prop} {d : Dialogue α} (h : d.EndsIn P) {s : Scene σ} {a : α}
    (hresult : (d.play backend s).result = .ok a) : P a := by
  induction h generalizing s with
  | done h =>
    cases hresult
    exact h
  | fail e => cases hresult
  | log _ ih => exact ih hresult
  | ask _ ih =>
    simp only [play, Played.addQuestion] at hresult
    split at hresult
    · cases hresult
    · cases hresult
    · exact ih _ hresult
  | call _ ih =>
    simp only [play, Played.addCall] at hresult
    split at hresult
    · exact ih _ hresult
    · cases hresult

/-! ## Answers that make no difference -/

/-- The same failure, or two texts in a relation. -/
inductive SameAnswer (r : String → String → Prop) : Except Error String → Except Error String → Prop
  where
  | error (e : Error) : SameAnswer r (.error e) (.error e)
  | ok {t t' : String} (h : r t t') : SameAnswer r (.ok t) (.ok t')

/-- A dialogue that goes on in the same way after two answers to a question in the relation `R` for
that question. -/
inductive Indifferent (R : String → String → String → Prop) : Dialogue α → Prop where
  | done (a : α) : Indifferent R (.done a)
  | fail (e : Error) : Indifferent R (.fail e)
  | ask {question : String} {next : String → Dialogue α}
    (hsame : ∀ t t', R question t t' → next t = next t') (h : ∀ t, Indifferent R (next t)) :
    Indifferent R (.ask question next)
  | call {c : Call} {next : c.Reply → Dialogue α} (h : ∀ reply, Indifferent R (next reply)) :
    Indifferent R (.call c next)
  | log {record : LogRecord} {next : Dialogue α} (h : Indifferent R next) :
    Indifferent R (.log record next)

section

variable {R : String → String → String → Prop}

/-- Every dialogue goes on in the same way after one and the same answer. -/
theorem indifferent_eq (d : Dialogue α) : d.Indifferent fun _ t t' => t = t' := by
  induction d with
  | done a => exact .done a
  | fail e => exact .fail e
  | ask question next ih => exact .ask (fun t t' h => by rw [h]) ih
  | call c next ih => exact .call ih
  | log record next ih => exact .log ih

theorem indifferent_ofExcept (x : Except Error α) : (ofExcept x).Indifferent R := by
  cases x with
  | ok a => exact .done a
  | error e => exact .fail e

/-- A dialogue that does not tell related answers apart is indifferent for a finer relation too. -/
theorem Indifferent.mono {R' : String → String → String → Prop} {d : Dialogue α}
    (h : d.Indifferent R) (hR : ∀ question t t', R' question t t' → R question t t') :
    d.Indifferent R' := by
  induction h with
  | done a => exact .done a
  | fail e => exact .fail e
  | ask hsame _ ih => exact .ask (fun t t' ht => hsame t t' (hR _ t t' ht)) ih
  | call _ ih => exact .call ih
  | log _ ih => exact .log ih

/-- A dialogue is indifferent if its first part is and every way to go on is. -/
theorem Indifferent.bind {d : Dialogue α} {f : α → Dialogue β} (hd : d.Indifferent R)
    (hf : ∀ a, (f a).Indifferent R) : (d >>= f).Indifferent R := by
  change (d.bind f).Indifferent R
  induction hd with
  | done a => exact hf a
  | fail e => exact .fail e
  | @ask question next hsame _ ih =>
    refine .ask ?_ ih
    intro t t' h
    show (next t).bind f = (next t').bind f
    rw [hsame t t' h]
  | call _ ih => exact .call ih
  | log _ ih => exact .log ih

/-- A dialogue that asks nothing cannot tell answers apart. -/
theorem Silent.indifferent {d : Dialogue α} (h : Silent d) : d.Indifferent R := by
  induction h with
  | done a => exact .done a
  | fail e => exact .fail e
  | call _ ih => exact .call ih
  | log _ ih => exact .log ih

/-- Two scripts whose answers to the questions of a run make no difference. -/
def Alike (R : String → String → String → Prop) (asked : List String)
    (answers answers' : List (Except Error String)) : Prop :=
  ∀ (i : Nat) (question : String), asked[i]? = some question →
    Option.Rel (SameAnswer (R question)) answers[i]? answers'[i]?

theorem Alike.tail {question : String} {asked : List String} {a a' : Except Error String}
    {answers answers' : List (Except Error String)}
    (h : Alike R (question :: asked) (a :: answers) (a' :: answers')) :
    Alike R asked answers answers' :=
  fun i q hq => h (i + 1) q hq

/-- With such scripts the same can be seen of a run. -/
theorem Indifferent.play_eq {d : Dialogue α} (h : d.Indifferent R) {store : σ}
    {answers answers' : List (Except Error String)}
    (halike : Alike R (d.play backend ⟨store, answers⟩).asked answers answers') :
    (d.play backend ⟨store, answers'⟩).effect = (d.play backend ⟨store, answers⟩).effect ∧
    (d.play backend ⟨store, answers'⟩).asked = (d.play backend ⟨store, answers⟩).asked ∧
    (d.play backend ⟨store, answers'⟩).logs = (d.play backend ⟨store, answers⟩).logs := by
  induction h generalizing store answers answers' with
  | done a => exact ⟨rfl, rfl, rfl⟩
  | fail e => exact ⟨rfl, rfl, rfl⟩
  | @log record next _ ih =>
    rcases ih halike with ⟨heffect, hasked, hlogs⟩
    exact ⟨heffect, hasked, congrArg (record :: ·) hlogs⟩
  | @ask question next hsame _ ih =>
    have hfirst := halike 0 question (by simp [play, Played.addQuestion])
    -- the answers to this question make no difference, those to the later ones by induction
    rcases answers with - | ⟨a, answers⟩ <;> rcases answers' with - | ⟨a', answers'⟩
    · exact ⟨rfl, rfl, rfl⟩
    · cases hfirst
    · cases hfirst
    · rcases hfirst with ⟨e | ⟨htexts⟩⟩
      · exact ⟨rfl, rfl, rfl⟩
      · next t t' =>
        have hrest := ih t halike.tail
        rw [hsame t t' htexts] at hrest
        have hfirstRun : (Dialogue.ask question next).play backend ⟨store, .ok t :: answers⟩ =
            ((next t').play backend ⟨store, answers⟩).addQuestion question := by
          rw [← hsame t t' htexts]
          rfl
        rw [hfirstRun]
        exact ⟨hrest.1, congrArg (question :: ·) hrest.2.1, hrest.2.2⟩
  | @call c next _ ih =>
    -- the store replies alike in both runs
    rcases hcall : backend c store with ⟨e | reply, store'⟩
    · rw [play_call_of_error hcall, play_call_of_error hcall]
      exact ⟨rfl, rfl, rfl⟩
    · rw [play_call_of_ok hcall] at halike
      rw [play_call_of_ok hcall, play_call_of_ok hcall]
      rcases ih reply halike with ⟨heffect, hasked, hlogs⟩
      rw [Played.effect_addCall, Played.effect_addCall, heffect]
      exact ⟨rfl, hasked, hlogs⟩

end

/-- Answers beyond the questions of a run make no difference. -/
theorem play_of_take {d : Dialogue α} {store : σ} {answers answers' : List (Except Error String)}
    (h : answers.take (d.play backend ⟨store, answers⟩).asked.length =
      answers'.take (d.play backend ⟨store, answers⟩).asked.length) :
    (d.play backend ⟨store, answers'⟩).effect = (d.play backend ⟨store, answers⟩).effect ∧
    (d.play backend ⟨store, answers'⟩).asked = (d.play backend ⟨store, answers⟩).asked ∧
    (d.play backend ⟨store, answers'⟩).logs = (d.play backend ⟨store, answers⟩).logs := by
  apply (indifferent_eq d).play_eq
  intro i question hi
  have hlt : i < (d.play backend ⟨store, answers⟩).asked.length :=
    (List.getElem?_eq_some_iff.mp hi).1
  have hsame : answers[i]? = answers'[i]? := by
    rw [← List.getElem?_take_of_lt hlt, h, List.getElem?_take_of_lt hlt]
  rw [← hsame]
  cases answers[i]? with
  | none => exact .none
  | some a =>
    refine .some ?_
    cases a with
    | error e => exact .error e
    | ok t => exact .ok rfl

end Dialogue
end DocLoad
