import DocLoad.Proofs.Query.Grammar
import DocLoad.Proofs.Session.Routes
import DocLoad.Proofs.Settings.Precedence

/-!
# DocLoad.Proofs.Session.Blanks — blank texts and empty texts

Most texts that a run takes are trimmed before they are used, so a blank text does what the empty
one does: in the flags for the URL, the database, the collection and the operation, in the URL from
the environment, and in all answers but one.  The exceptions are taken as they are written: a
file's name in its flag, and query lines.

* `Settings.resolve_of_emptied` and `Settings.indifferent_resolve` — settings are resolved in the
  same way;
* `Session.indifferent_hold` — a session goes on in the same way;
* `Session.readQuery_of_blank`, `Settings.resolveFile_of_blank` — what becomes of the exceptions;
* `Run.blank_as_empty` — all of it.
-/

namespace DocLoad

open Text (Blank Emptied)

/-- Flags in which blank texts may have been replaced by empty ones, but for the file and the
query. -/
structure Flags.Emptied (flags flags' : Flags) : Prop where
  url : Option.Rel Text.Emptied flags.url flags'.url
  database : Option.Rel Text.Emptied flags.database flags'.database
  collection : Option.Rel Text.Emptied flags.collection flags'.collection
  operation : Option.Rel Text.Emptied flags.operation flags'.operation
  file : flags'.file = flags.file
  query : flags'.query = flags.query
  mode : flags'.mode = flags.mode

namespace Setting

variable {flags flags' : Flags} {envUrl envUrl' : Option String} {s : Setting} {given : Bool}
  {t t' : String}

/-- An emptied text is read in the same way, unless it was given for the file. -/
theorem read_of_emptied (h : Emptied t t') (hfile : s = .file → given = false) :
    s.read given t' = s.read given t := by
  cases hs : s.required? with
  | some field =>
    rw [read_of_required hs hfile, read_of_required hs hfile, Settings.notBlank,
      Settings.notBlank, h.trim_eq]
  | none =>
    cases s with
    | url => rw [read_url, read_url, Settings.resolveUrl, Settings.resolveUrl, h.trim_eq]
    | _ => cases hs

/-- What was given for a setting other than the file is as it was, or a blank that is now empty. -/
theorem given?_of_emptied (hflags : flags.Emptied flags')
    (henv : Option.Rel Text.Emptied envUrl envUrl') (hs : s ≠ .file) :
    Option.Rel Text.Emptied (s.given? flags envUrl) (s.given? flags' envUrl') := by
  cases s with
  | url =>
    show Option.Rel Text.Emptied (flags.url <|> envUrl) (flags'.url <|> envUrl')
    have hurl := hflags.url
    generalize flags.url = url at hurl ⊢
    generalize flags'.url = url' at hurl ⊢
    cases hurl with
    | none => exact henv
    | some h => exact .some h
  | database => exact hflags.database
  | collection => exact hflags.collection
  | file => exact absurd rfl hs

/-- Resolving one setting does not tell blank flags from empty ones. -/
theorem stage_of_emptied (hflags : flags.Emptied flags')
    (henv : Option.Rel Text.Emptied envUrl envUrl') :
    stage flags' envUrl' s = stage flags envUrl s := by
  by_cases hs : s = .file
  · -- the flag of the file is the same
    rw [hs, stage_file, stage_file, hflags.file]
  · have hgiven := given?_of_emptied hflags henv hs
    unfold stage
    generalize s.given? flags envUrl = text at hgiven ⊢
    generalize s.given? flags' envUrl' = text' at hgiven ⊢
    cases hgiven with
    | none => rfl
    | some h =>
      rw [orAsk_some_bind, orAsk_some_bind]
      exact congrArg Dialogue.ofExcept (read_of_emptied h fun hfile => absurd hfile hs)

theorem collect_of_emptied (hflags : flags.Emptied flags')
    (henv : Option.Rel Text.Emptied envUrl envUrl') (settings : List Setting) :
    collect flags' envUrl' settings = collect flags envUrl settings := by
  induction settings with
  | nil => rfl
  | cons s rest ih =>
    unfold collect
    rw [stage_of_emptied hflags henv, ih]

/-- After an answer, the setting is the same for an emptied one. -/
theorem indifferent_stage (flags : Flags) (envUrl : Option String) (s : Setting) :
    (stage flags envUrl s).Indifferent fun _ => Emptied := by
  unfold stage
  cases s.given? flags envUrl with
  | some text =>
    rw [orAsk_some_bind]
    exact Dialogue.indifferent_ofExcept _
  | none =>
    rw [orAsk_none_bind]
    refine .ask ?_ fun t => Dialogue.indifferent_ofExcept _
    intro t t' h
    exact congrArg Dialogue.ofExcept (read_of_emptied h fun _ => rfl).symm

theorem indifferent_collect (flags : Flags) (envUrl : Option String) (settings : List Setting) :
    (collect flags envUrl settings).Indifferent fun _ => Emptied := by
  induction settings with
  | nil => exact .done _
  | cons s rest ih =>
    unfold collect
    apply (indifferent_stage flags envUrl s).bind
    intro value
    apply ih.bind
    intro values
    exact .done _

end Setting

namespace Settings

variable {flags flags' : Flags} {envUrl envUrl' : Option String}

/-- Emptying blank flags, the query apart, leaves the request as it is. -/
theorem requestOf_of_emptied (h : flags.Emptied flags') : requestOf flags' = requestOf flags := by
  have hoperation := h.operation
  unfold requestOf
  rw [h.query]
  generalize flags.operation = operation at hoperation ⊢
  generalize flags'.operation = operation' at hoperation ⊢
  cases hoperation with
  | none => rfl
  | some h =>
    rw [Option.map_some, Option.map_some, h.trim_eq]

/-- With emptied texts, settings are resolved in the same way. -/
theorem resolve_of_emptied (hflags : flags.Emptied flags')
    (henv : Option.Rel Text.Emptied envUrl envUrl') :
    resolve flags' envUrl' = resolve flags envUrl := by
  rw [Setting.resolve_eq, Setting.resolve_eq, Setting.collect_of_emptied hflags henv, hflags.mode,
    requestOf_of_emptied hflags]

/-- Resolving all settings does not tell blank answers from empty ones. -/
theorem indifferent_resolve (flags : Flags) (envUrl : Option String) :
    (resolve flags envUrl).Indifferent fun _ => Emptied := by
  rw [Setting.resolve_eq]
  apply (Setting.indifferent_collect flags envUrl Setting.all).bind
  intro values
  exact .done _

/-- The name of a file in a flag is not trimmed. -/
theorem resolveFile_of_ne_empty {path : String} (h : path ≠ "") :
    resolveFile (some path) = .done path := by
  unfold resolveFile
  exact if_neg h

end Settings

namespace Session

/-- Two answers of which the second may be an emptied one, but not as a query line. -/
def BlankAlike (question t t' : String) : Prop :=
  Emptied t t' ∧ (question = queryQuestion → t' = t)

variable {t t' : String}

/-- Emptying a blank answer makes no yes of it, as it was none. -/
theorem isYes_of_emptied (h : Emptied t t') : isYes t' = isYes t := by
  unfold isYes
  rw [h.trim_eq]

/-- Choosing an operation does not tell blank answers from empty ones, the query line apart. -/
theorem indifferent_choose (mode : Mode) : (choose mode).Indifferent BlankAlike := by
  simp only [choose, Dialogue.prompt_bind]
  refine .ask ?_ ?_
  · intro t t' h
    rw [isYes_of_emptied h.1]
  intro answer
  split
  · refine .ask ?_ ?_
    · intro t t' h
      rw [h.1.trim_eq]
    intro name
    apply (Dialogue.indifferent_ofExcept _).bind
    intro op
    refine .ask ?_ ?_
    · intro t t' h
      rw [h.2 rfl]
    intro line
    apply (Dialogue.indifferent_ofExcept _).bind
    intro q
    exact .done _
  · exact .done _

/-- What follows on an import does not tell such answers apart either. -/
theorem indifferent_respond (mode : Mode) (request : Option Request) :
    (respond mode request).Indifferent BlankAlike := by
  cases request with
  | some request =>
    -- nothing is asked
    apply (Dialogue.indifferent_ofExcept _).bind
    intro q
    apply Dialogue.Indifferent.log
    apply (Dialogue.indifferent_ofExcept _).bind
    intro op
    exact (silent_perform op q).indifferent
  | none =>
    apply (indifferent_choose mode).bind
    rintro ⟨op, q⟩
    apply Dialogue.Indifferent.log
    exact (silent_perform op q).indifferent

/-- A session goes on in the same way after emptied answers. -/
theorem indifferent_hold (settings : Settings) (file : Except FileError (List Document)) :
    (hold settings file).Indifferent BlankAlike := by
  apply (Dialogue.indifferent_ofExcept _).bind
  intro ds
  apply (silent_importAll ds).indifferent.bind
  intro _
  exact indifferent_respond settings.mode settings.request

/-- A blank query line is one clause, and that has no `=`. -/
theorem readQuery_of_blank {line : String} (h : Blank line) (hne : line ≠ "") :
    readQuery line = .error (.malformedQuery line) := by
  have hnot (c : Char) (hc : Text.isBlank c = false) : c ∉ line.toList := by
    intro hmem
    rw [h c hmem] at hc
    cases hc
  have hcut : Text.Cut [',', ' '] line.toList [line.toList] := by
    apply Text.Cut.last
    intro hin
    exact hnot ',' (by decide) (hin.subset List.mem_cons_self)
  have hclauses : Query.clauses line = [] ++ line.toList :: [] :=
    (Query.cut_clauses hne).unique hcut
  have hread := Query.read_error hclauses (fun _ hcl => absurd hcl List.not_mem_nil)
    (hnot '=' (by decide))
  rw [String.ofList_toList] at hread
  exact readQuery_eq_error.mpr hread

end Session

namespace Run

/-- The settings, and then a session with them. -/
def settledSession (flags : Flags) (envUrl : Option String)
    (file : Settings → Except FileError (List Document)) : Dialogue Outcome := do
  let settings ← Settings.resolve flags envUrl
  Session.hold settings (file settings)

/-- A whole run does not tell such answers apart, by its two parts. -/
theorem indifferent_settledSession (flags : Flags) (envUrl : Option String)
    (file : Settings → Except FileError (List Document)) :
    (settledSession flags envUrl file).Indifferent Session.BlankAlike := by
  apply ((Settings.indifferent_resolve flags envUrl).mono fun _ _ _ h => h.1).bind
  intro settings
  exact Session.indifferent_hold settings (file settings)

/-- A blank text does what the empty one does, in the flags, in the environment and in the answers
to all questions that are asked, but not as the name of a file in its flag and not as a query: the
settings, the questions, and all that a session with any store does and ends in are the same.
A blank name of a file is that name and only the empty one is missing, and a blank query line is
malformed and only the empty one is the empty query. -/
theorem blank_as_empty {flags flags' : Flags} {envUrl envUrl' : Option String}
    (hflags : flags.Emptied flags') (henv : Option.Rel Text.Emptied envUrl envUrl') :
    (∀ answers answers' : List (Except Error String),
      Dialogue.Alike (fun _ => Emptied) (settle flags envUrl answers).asked answers answers' →
      (settle flags' envUrl' answers').result = (settle flags envUrl answers).result ∧
      (settle flags' envUrl' answers').asked = (settle flags envUrl answers).asked) ∧
    (∀ {σ : Type} (backend : Backend σ) (store : σ)
      (file : Settings → Except FileError (List Document))
      (answers answers' : List (Except Error String)),
      let p := (settledSession flags envUrl file).play backend ⟨store, answers⟩
      let p' := (settledSession flags' envUrl' file).play backend ⟨store, answers'⟩
      Dialogue.Alike Session.BlankAlike p.asked answers answers' →
      p'.effect = p.effect ∧ p'.asked = p.asked ∧ p'.logs = p.logs) ∧
    (∀ path, Blank path → path ≠ "" → Settings.resolveFile (some path) = .done path) ∧
    Settings.resolveFile (some "") = .fail (.missingField RequiredField.file.name) ∧
    (∀ line, Blank line → line ≠ "" → Session.readQuery line = .error (.malformedQuery line)) ∧
    Session.readQuery "" = .ok .empty := by
  have hresolve := Settings.resolve_of_emptied hflags henv
  refine ⟨?_, ?_, ?_, rfl, ?_, rfl⟩
  · intro answers answers' halike
    rcases (Settings.indifferent_resolve flags envUrl).play_eq halike with ⟨heffect, hasked, -⟩
    unfold settle
    rw [hresolve]
    exact ⟨(Dialogue.Played.effect_inj heffect).1, hasked⟩
  · intro σ backend store file answers answers' p p' halike
    have hsame : settledSession flags' envUrl' file = settledSession flags envUrl file := by
      unfold settledSession
      rw [hresolve]
    have hp' : p' = (settledSession flags envUrl file).play backend ⟨store, answers'⟩ :=
      congrArg (fun d => d.play backend ⟨store, answers'⟩) hsame
    rw [hp']
    exact (indifferent_settledSession flags envUrl file).play_eq halike
  · intro path _ hpath
    exact Settings.resolveFile_of_ne_empty hpath
  · intro line hline hne
    exact Session.readQuery_of_blank hline hne

/-- Flags with a blank URL, and without the file. -/
def blankFlags (url : String) : Flags :=
  { Flags.none with url := some url, database := some "d", collection := some "c" }

theorem emptied_blankFlags : (blankFlags " ").Emptied (blankFlags "") :=
  ⟨.some (.inr ⟨by decide, rfl⟩), .some (.refl "d"), .some (.refl "c"), .none, rfl, rfl, rfl⟩

/-- With a blank URL and a blank answer in a run with the store in memory. -/
theorem blank_as_empty_flags :
    let file : Settings → Except FileError (List Document) := fun _ => .ok []
    let play (flags : Flags) (answers : List (Except Error String)) :=
      (settledSession flags none file).play (Collection.answer fun _ => ⟨0⟩) ⟨.empty "c", answers⟩
    (blankFlags " ").Emptied (blankFlags "") ∧
    Dialogue.Alike Session.BlankAlike (play (blankFlags " ") [.ok "f", .ok " "]).asked
      [.ok "f", .ok " "] [.ok "f", .ok ""] ∧
    (play (blankFlags "") [.ok "f", .ok ""]).effect =
      (play (blankFlags " ") [.ok "f", .ok " "]).effect := by
  intro file play
  have hasked : (play (blankFlags " ") [.ok "f", .ok " "]).asked =
      [Settings.fileQuestion, Session.followUpQuestion] := by rfl
  have halike : Dialogue.Alike Session.BlankAlike (play (blankFlags " ") [.ok "f", .ok " "]).asked
      [.ok "f", .ok " "] [.ok "f", .ok ""] := by
    rw [hasked]
    rintro (- | - | i) question hquestion
    · cases hquestion
      exact .some (.ok ⟨.refl "f", fun _ => rfl⟩)
    · cases hquestion
      exact .some (.ok ⟨.inr ⟨by decide, rfl⟩, by decide⟩)
    · cases hquestion
  refine ⟨emptied_blankFlags, halike, ?_⟩
  exact ((blank_as_empty emptied_blankFlags .none).2.1 _ _ file _ _ halike).1

/-- Flags with all settings. -/
def fileFlags (file query : String) : Flags :=
  ⟨some "memory://", some "d", some "c", some file, .count, some "count", some query⟩

/-- With a blank file or a blank query that is not so: the empty file is missing while the blank
one is taken, and the blank query is malformed while the empty one is none. -/
theorem not_blank_as_empty :
    let play (query : String) :=
      (Session.hold ⟨"memory://", "d", "c", "f", .count, some ⟨"count", query⟩⟩ (.ok [])).play
        (Collection.answer fun _ => ⟨0⟩) ⟨.empty "c", []⟩
    (Blank " " ∧
      (settle (fileFlags " " "") none []).result =
        .ok ⟨"memory://", "d", "c", " ", .count, some ⟨"count", ""⟩⟩ ∧
      (settle (fileFlags "" "") none []).result = .error (.missingField "file name")) ∧
    (play " ").result = .error (.malformedQuery " ") ∧ (play "").result = .ok (.count 0) := by
  intro play
  exact ⟨⟨by decide, by rfl, by rfl⟩, by rfl, by rfl⟩

end Run
end DocLoad
