import DocLoad.Proofs.Answering
import DocLoad.Proofs.Text.Blank
import DocLoad.Run

/-!
# DocLoad.Proofs.Settings.Precedence — where each setting comes from

Four settings are resolved one after another.  The text of each is the one that was given, or else
the next answer (`Setting.chosen`), and what becomes of a text depends on the setting and, for the
file, on whether it was given (`Setting.Reads`).  The first setting that fails ends it all.

* `Setting.play_stage` — the step: resolving one setting takes an answer exactly if nothing was
  given for it;
* `Setting.play_collect` — the run over the settings in order, up to the first one that fails;
* `Run.settle_precedence` — so which questions are asked, which settings come out and which
  failures there are, for all flags, URLs in the environment and answers.
-/

namespace DocLoad

/-- The settings for which there are questions. -/
inductive Setting where
  | url
  | database
  | collection
  | file
deriving DecidableEq, Repr

namespace Setting

/-- The settings in the order in which they are resolved. -/
def all : List Setting := [.url, .database, .collection, .file]

/-- The settings that are resolved before one. -/
def before (s : Setting) : List Setting :=
  all.takeWhile (· ≠ s)

/-- The question for a setting. -/
def question : Setting → String
  | url => Settings.urlQuestion
  | database => Settings.databaseQuestion
  | collection => Settings.collectionQuestion
  | file => Settings.fileQuestion

/-- The setting as one that may not be blank. -/
def required? : Setting → Option RequiredField
  | url => none
  | database => some .database
  | collection => some .collection
  | file => some .file

theorem nodup_all : all.Nodup := by decide

/-- What stands in front of a setting in the order. -/
theorem before_eq {done rest : List Setting} {s : Setting} (h : done ++ s :: rest = all) :
    s.before = done := by
  have hnodup := nodup_all
  rw [← h, List.nodup_append] at hnodup
  unfold before
  rw [← h, List.takeWhile_append_of_pos]
  · rw [List.takeWhile_cons_of_neg (by simp), List.append_nil]
  · intro s' hs'
    exact decide_eq_true (hnodup.2.2 s' hs' s List.mem_cons_self)

/-! ## What becomes of a text -/

/-- How the text of a setting is read; `given` tells whether it was given and not answered. -/
inductive Reads : (given : Bool) → Setting → String → Except Error String → Prop where
  /-- A blank text means the default URL. -/
  | defaultUrl {given : Bool} {t : String} (h : Text.Blank t) :
    Reads given .url t (.ok StoreUrl.default)
  | url {given : Bool} {t u : String} (h : ¬ Text.Blank t)
    (hu : StoreUrl.normalize? (Text.trim t) = some u) : Reads given .url t (.ok u)
  | unknownScheme {given : Bool} {t : String} (h : ¬ Text.Blank t)
    (hu : StoreUrl.normalize? (Text.trim t) = none) :
    Reads given .url t (.error (Run.unknownScheme (Text.trim t)))
  /-- Names are trimmed, and so is an answer that names the file. -/
  | name {given : Bool} {s : Setting} {field : RequiredField} {t : String}
    (hs : s.required? = some field) (hgiven : s = .file → given = false) (h : ¬ Text.Blank t) :
    Reads given s t (.ok (Text.trim t))
  | blank {given : Bool} {s : Setting} {field : RequiredField} {t : String}
    (hs : s.required? = some field) (hgiven : s = .file → given = false) (h : Text.Blank t) :
    Reads given s t (.error (.missingField field.name))
  /-- A file that was given is taken as it is. -/
  | path {t : String} (h : t ≠ "") : Reads true .file t (.ok t)
  | emptyPath : Reads true .file "" (.error (.missingField RequiredField.file.name))

/-- The function that reads a text. -/
def read (given : Bool) : Setting → String → Except Error String
  | url, t => Settings.resolveUrl t
  | database, t => Settings.notBlank .database t
  | collection, t => Settings.notBlank .collection t
  | file, t =>
    if given then
      if t = "" then .error (.missingField RequiredField.file.name) else .ok t
    else Settings.notBlank .file t

variable {given : Bool} {s : Setting} {t : String} {r : Except Error String}

/-- A required setting may not be blank, and is trimmed. -/
theorem notBlank_eq (field : RequiredField) (t : String) :
    Settings.notBlank field t =
      if Text.Blank t then .error (.missingField field.name) else .ok (Text.trim t) := by
  unfold Settings.notBlank
  simp only [Text.trim_eq_empty_iff]

@[simp] theorem read_url : url.read given t = Settings.resolveUrl t := by
  rw [read]

@[simp] theorem read_database : database.read given t = Settings.notBlank .database t := by
  rw [read]

@[simp] theorem read_collection : collection.read given t = Settings.notBlank .collection t := by
  rw [read]

@[simp] theorem read_file_answer : file.read false t = Settings.notBlank .file t := by
  rw [read, if_neg Bool.false_ne_true]

@[simp] theorem read_file_given :
    file.read true t =
      if t = "" then .error (.missingField RequiredField.file.name) else .ok t := by
  rw [read, if_pos rfl]

/-- All required settings are read in one way, but for a file that was given. -/
theorem read_of_required {field : RequiredField} (hs : s.required? = some field)
    (hgiven : s = .file → given = false) : s.read given t = Settings.notBlank field t := by
  cases s with
  | url => cases hs
  | database =>
    cases hs
    rw [read_database]
  | collection =>
    cases hs
    rw [read_collection]
  | file =>
    cases hs
    rw [hgiven rfl, read_file_answer]

/-- The function reads a text in one of the ways of `Reads`. -/
theorem reads_read (given : Bool) (s : Setting) (t : String) :
    Reads given s t (s.read given t) := by
  -- a database, a collection and a file that is answered are read alike
  have hname (field : RequiredField) (hs : s.required? = some field)
      (hgiven : s = .file → given = false) : Reads given s t (s.read given t) := by
    rw [read_of_required hs hgiven, notBlank_eq]
    split
    · next h => exact .blank hs hgiven h
    · next h => exact .name hs hgiven h
  cases s with
  | url =>
    rw [read_url, Settings.resolveUrl]
    simp only [Text.trim_eq_empty_iff]
    split
    · next h => exact .defaultUrl h
    · next h =>
      split
      · next u hu => exact .url h hu
      · next hu => exact .unknownScheme h hu
  | database => exact hname .database rfl nofun
  | collection => exact hname .collection rfl nofun
  | file =>
    cases given with
    | false => exact hname .file rfl fun _ => rfl
    | true =>
      rw [read_file_given]
      split
      · next h =>
        rw [h]
        exact .emptyPath
      · next h => exact .path h

/-- A text is read in one way only. -/
theorem Reads.eq_read (h : Reads given s t r) : s.read given t = r := by
  cases h with
  | defaultUrl h => simp only [read_url, Settings.resolveUrl, Text.trim_eq_empty_iff, if_pos h]
  | url h hu => simp only [read_url, Settings.resolveUrl, Text.trim_eq_empty_iff, if_neg h, hu]
  | unknownScheme h hu =>
    simp only [read_url, Settings.resolveUrl, Text.trim_eq_empty_iff, if_neg h, hu,
      Run.unknownScheme]
  | name hs hgiven h => rw [read_of_required hs hgiven, notBlank_eq, if_neg h]
  | blank hs hgiven h => rw [read_of_required hs hgiven, notBlank_eq, if_pos h]
  | path h => rw [read_file_given, if_neg h]
  | emptyPath => rw [read_file_given, if_pos rfl]

/-- The ways to read a text are those of the function, and no others. -/
theorem reads_iff : Reads given s t r ↔ s.read given t = r := by
  constructor
  · exact Reads.eq_read
  · rintro rfl
    exact reads_read given s t

/-! ## Where a text comes from -/

section

variable (flags : Flags) (envUrl : Option String) (answers : List (Except Error String))

/-- What was given for a setting: by its flag, or for the URL in the environment. -/
def given? : Setting → Option String
  | url => flags.url <|> envUrl
  | database => flags.database
  | collection => flags.collection
  | file => flags.file

/-- The settings for which nothing was given. -/
def absent (settings : List Setting) : List Setting :=
  settings.filter fun s => (s.given? flags envUrl).isNone

theorem absent_append (ss ss' : List Setting) :
    absent flags envUrl (ss ++ ss') = absent flags envUrl ss ++ absent flags envUrl ss' :=
  List.filter_append ss ss'

/-- The questions for some settings, one for each that was not given. -/
def questions (settings : List Setting) : List String :=
  (absent flags envUrl settings).map question

theorem questions_append (ss ss' : List Setting) :
    questions flags envUrl (ss ++ ss') =
      questions flags envUrl ss ++ questions flags envUrl ss' := by
  unfold questions
  rw [absent_append, List.map_append]

/-- The answers that are left when some settings have taken theirs. -/
def left (settings : List Setting) : List (Except Error String) :=
  answers.drop (absent flags envUrl settings).length

/-- The text of a setting.  If nothing was given, it is the first of the answers that the settings
before it leave. -/
def chosen (s : Setting) : Except Error String :=
  match s.given? flags envUrl with
  | some text => .ok text
  | none => (left flags envUrl answers s.before).head?.getD (.error .endOfInput)

/-- What becomes of a setting: the failure to answer, or what its text is read as. -/
inductive Settles (s : Setting) : Except Error String → Prop where
  | unanswered {e : Error} (h : chosen flags envUrl answers s = .error e) : Settles s (.error e)
  | read {t : String} {r : Except Error String} (h : chosen flags envUrl answers s = .ok t)
    (hr : Reads (s.given? flags envUrl).isSome s t r) : Settles s r

/-- The function that computes it. -/
def settled (s : Setting) : Except Error String :=
  chosen flags envUrl answers s >>= s.read (s.given? flags envUrl).isSome

/-- What becomes of a setting is what the function computes. -/
theorem settles_iff {flags envUrl answers} {s : Setting} {r : Except Error String} :
    Settles flags envUrl answers s r ↔ settled flags envUrl answers s = r := by
  unfold settled
  constructor
  · rintro (h | ⟨h, hr⟩)
    · rw [h]
      rfl
    · rw [h]
      exact hr.eq_read
  · intro h
    cases hchosen : chosen flags envUrl answers s with
    | error e =>
      rw [hchosen] at h
      cases h
      exact .unanswered hchosen
    | ok t =>
      rw [hchosen] at h
      exact .read hchosen (reads_iff.mpr h)

/-- A setting is the first one that fails. -/
def FailsAt (s : Setting) (e : Error) : Prop :=
  Settles flags envUrl answers s (.error e) ∧
    ∀ s' ∈ s.before, ∃ v, Settles flags envUrl answers s' (.ok v)

/-! ## Resolving one setting -/

theorem orAsk_some_bind {α : Type} (text question : String) (f : String → Dialogue α) :
    Settings.orAsk (some text) question >>= f = f text := rfl

theorem orAsk_none_bind {α : Type} (question : String) (f : String → Dialogue α) :
    Settings.orAsk none question >>= f = .ask question f := rfl

/-- Resolves one setting. -/
def stage (s : Setting) : Dialogue String := do
  let text ← Settings.orAsk (s.given? flags envUrl) s.question
  .ofExcept (s.read (s.given? flags envUrl).isSome text)

variable {σ : Type} (backend : Backend σ) (store : σ)

/-- Resolving one setting, after those before it have taken their answers. -/
theorem play_stage (s : Setting) :
    (stage flags envUrl s).play backend ⟨store, left flags envUrl answers s.before⟩ =
      ⟨settled flags envUrl answers s, store, left flags envUrl answers (s.before ++ [s]),
        questions flags envUrl [s], [], []⟩ := by
  unfold stage settled chosen questions
  cases hgiven : s.given? flags envUrl with
  | some text =>
    have habsent : absent flags envUrl [s] = [] := by simp [absent, hgiven]
    have hleft : left flags envUrl answers (s.before ++ [s]) =
        left flags envUrl answers s.before := by
      rw [left, left, absent_append, habsent, List.append_nil]
    rw [habsent, hleft, orAsk_some_bind, Dialogue.play_ofExcept]
    rfl
  | none =>
    have habsent : absent flags envUrl [s] = [s] := by simp [absent, hgiven]
    have hleft : left flags envUrl answers (s.before ++ [s]) =
        (left flags envUrl answers s.before).tail := by
      rw [left, left, absent_append, habsent, List.length_append, List.length_singleton,
        List.tail_drop]
    rw [habsent, hleft, orAsk_none_bind, Dialogue.play_ask_ofExcept]
    rfl

/-! ## Resolving all settings -/

/-- Resolves some settings in order. -/
def collect : List Setting → Dialogue (Setting → String)
  | [] => .done fun _ => ""
  | s :: rest => do
    let value ← stage flags envUrl s
    let values ← collect rest
    return Function.update values s value

theorem stage_file : stage flags envUrl .file = Settings.resolveFile flags.file := by
  have hgiven : Setting.file.given? flags envUrl = flags.file := rfl
  unfold stage Settings.resolveFile
  rw [hgiven]
  cases flags.file with
  | none =>
    simp only [orAsk_none_bind, Option.isSome_none, read_file_answer]
    rfl
  | some path =>
    simp only [orAsk_some_bind, Option.isSome_some, read_file_given]
    split <;> rfl

/-- The settings are resolved in order. -/
theorem resolve_eq :
    Settings.resolve flags envUrl = do
      let values ← collect flags envUrl all
      return ⟨values .url, values .database, values .collection, values .file, flags.mode,
        Settings.requestOf flags⟩ := by
  unfold Settings.resolve all
  rw [← stage_file flags envUrl]
  simp only [collect, stage, Dialogue.bind_assoc, Dialogue.done_bind, Dialogue.pure_bind, read_url,
    read_database, read_collection, given?, question, Function.update_apply, if_true, if_false,
    reduceCtorEq]

/-- The settings in order, from one of them on: all of them have a value, or one fails and those
in front of it have a value.  Nothing is asked after the one that fails. -/
theorem play_collect (done rest : List Setting) (h : done ++ rest = all) :
    (∃ values, (∀ s ∈ rest, settled flags envUrl answers s = .ok (values s)) ∧
      (collect flags envUrl rest).play backend ⟨store, left flags envUrl answers done⟩ =
        ⟨.ok values, store, left flags envUrl answers (done ++ rest), questions flags envUrl rest,
          [], []⟩) ∨
    ∃ front s back e, rest = front ++ s :: back ∧
      (∀ s' ∈ front, ∃ v, settled flags envUrl answers s' = .ok v) ∧
      settled flags envUrl answers s = .error e ∧
      (collect flags envUrl rest).play backend ⟨store, left flags envUrl answers done⟩ =
        ⟨.error e, store, left flags envUrl answers (done ++ (front ++ [s])),
          questions flags envUrl (front ++ [s]), [], []⟩ := by
  -- on the settings that are left; those that are done tell which answer is the next one
  induction rest generalizing done with
  | nil =>
    refine .inl ⟨fun _ => "", fun _ hs => absurd hs List.not_mem_nil, ?_⟩
    rw [List.append_nil]
    rfl
  | cons s rest ih =>
    have hbefore : s.before = done := before_eq h
    have hstage := play_stage flags envUrl answers backend store s
    rw [hbefore] at hstage
    have happend (ss : List Setting) : done ++ [s] ++ ss = done ++ s :: ss := by
      rw [List.append_assoc, List.singleton_append]
    have hasked (ss : List Setting) :
        questions flags envUrl [s] ++ questions flags envUrl ss =
          questions flags envUrl (s :: ss) := by
      rw [← questions_append, List.singleton_append]
    unfold collect
    rw [Dialogue.play_bind, hstage]
    cases hs : settled flags envUrl answers s with
    | error e =>
      -- the rest is not reached
      exact .inr ⟨[], s, rest, e, rfl, fun _ hs' => absurd hs' List.not_mem_nil, hs, rfl⟩
    | ok v =>
      rw [Dialogue.Played.andThen_of_ok rfl]
      dsimp only
      rw [Dialogue.play_map]
      rcases ih (done ++ [s]) ((happend rest).trans h) with
        ⟨values, hvalues, hplay⟩ | ⟨front, s', back, e, hsplit, hfront, hs', hplay⟩
      · refine .inl ⟨Function.update values s v, ?_, ?_⟩
        · intro s' hs'
          have hnodup := nodup_all
          rw [← h, List.nodup_append, List.nodup_cons] at hnodup
          rcases List.mem_cons.mp hs' with rfl | hmem
          · rw [Function.update_self]
            exact hs
          · rw [Function.update_of_ne (ne_of_mem_of_not_mem hmem hnodup.2.1.1)]
            exact hvalues s' hmem
        · rw [hplay, happend, ← hasked rest]
          rfl
      · refine .inr ⟨s :: front, s', back, e, by rw [hsplit, List.cons_append], ?_, hs', ?_⟩
        · intro s'' hs''
          rcases List.mem_cons.mp hs'' with rfl | hmem
          · exact ⟨v, hs⟩
          · exact hfront s'' hmem
        · rw [hplay, happend, List.cons_append, ← hasked (front ++ [s'])]
          rfl

end

/-! ## Settings and failures -/

section

variable {flags : Flags} {envUrl : Option String} {answers : List (Except Error String)}
  {s s' : Setting} {e e' : Error}

/-- A setting is settled in one way only. -/
theorem Settles.unique {r r' : Except Error String} (h : Settles flags envUrl answers s r)
    (h' : Settles flags envUrl answers s r') : r = r' := by
  rw [settles_iff] at h h'
  exact h.symm.trans h'

/-- Only one setting is the first one that fails. -/
theorem FailsAt.unique (h : FailsAt flags envUrl answers s e)
    (h' : FailsAt flags envUrl answers s' e') : s = s' ∧ e = e' := by
  have hnot {a b : Setting} {e e' : Error} (ha : FailsAt flags envUrl answers a e)
      (hb : FailsAt flags envUrl answers b e') : a ∉ b.before := by
    intro hmem
    rcases hb.2 a hmem with ⟨v, hv⟩
    cases ha.1.unique hv
  -- of two different settings one comes first, and that one has a value for the other
  have horder : ∀ a b : Setting, a = b ∨ a ∈ b.before ∨ b ∈ a.before := by
    intro a b
    cases a <;> cases b <;> decide
  rcases horder s s' with rfl | hbefore | hbefore
  · exact ⟨rfl, Except.error.inj (h.1.unique h'.1)⟩
  · exact absurd hbefore (hnot h h')
  · exact absurd hbefore (hnot h' h)

end

end Setting

namespace Settings

/-- The settings that flags, the URL in the environment and the answers amount to. -/
structure Assembled (flags : Flags) (envUrl : Option String)
    (answers : List (Except Error String)) (settings : Settings) : Prop where
  url : Setting.Settles flags envUrl answers .url (.ok settings.url)
  database : Setting.Settles flags envUrl answers .database (.ok settings.database)
  collection : Setting.Settles flags envUrl answers .collection (.ok settings.collection)
  file : Setting.Settles flags envUrl answers .file (.ok settings.file)
  mode : settings.mode = flags.mode
  request : settings.request =
    flags.operation.map fun operation => ⟨Text.trim operation, flags.query.getD ""⟩

variable {flags : Flags} {envUrl : Option String} {answers : List (Except Error String)}
  {settings settings' : Settings}

/-- Flags, environment and answers amount to one record of settings at most. -/
theorem Assembled.unique (h : Assembled flags envUrl answers settings)
    (h' : Assembled flags envUrl answers settings') : settings = settings' := by
  rcases settings with ⟨url, database, collection, file, mode, request⟩
  rcases settings' with ⟨url', database', collection', file', mode', request'⟩
  have hurl : url = url' := Except.ok.inj (h.url.unique h'.url)
  have hdatabase : database = database' := Except.ok.inj (h.database.unique h'.database)
  have hcollection : collection = collection' := Except.ok.inj (h.collection.unique h'.collection)
  have hfile : file = file' := Except.ok.inj (h.file.unique h'.file)
  have hmode : mode = mode' := h.mode.trans h'.mode.symm
  have hrequest : request = request' := h.request.trans h'.request.symm
  rw [hurl, hdatabase, hcollection, hfile, hmode, hrequest]

/-- With all settings there is none that fails. -/
theorem Assembled.not_failsAt (h : Assembled flags envUrl answers settings) (s : Setting)
    (e : Error) : ¬ Setting.FailsAt flags envUrl answers s e := by
  rintro ⟨hfails, -⟩
  cases s with
  | url => cases hfails.unique h.url
  | database => cases hfails.unique h.database
  | collection => cases hfails.unique h.collection
  | file => cases hfails.unique h.file

end Settings

namespace Run

open Setting

/-- Settling the settings ends with all of them, or with the first one that fails. -/
theorem settle_cases (flags : Flags) (envUrl : Option String)
    (answers : List (Except Error String)) :
    (∃ settings, Settings.Assembled flags envUrl answers settings ∧
      settle flags envUrl answers =
        ⟨.ok settings, (), left flags envUrl answers all, questions flags envUrl all, [], []⟩) ∨
    ∃ s e, FailsAt flags envUrl answers s e ∧
      settle flags envUrl answers =
        ⟨.error e, (), left flags envUrl answers (s.before ++ [s]),
          questions flags envUrl (s.before ++ [s]), [], []⟩ := by
  have hstart : left flags envUrl answers [] = answers := rfl
  have hcollect := play_collect flags envUrl answers .closed () [] all rfl
  rw [hstart] at hcollect
  unfold settle
  rw [resolve_eq, Dialogue.play_map]
  rcases hcollect with ⟨values, hvalues, hplay⟩ | ⟨front, s, back, e, hsplit, hfront, hs, hplay⟩
  · rw [hplay]
    have hsettles (s : Setting) (hs : s ∈ all) :
        Settles flags envUrl answers s (.ok (values s)) :=
      settles_iff.mpr (hvalues s hs)
    refine .inl ⟨_, ⟨hsettles .url (by decide), hsettles .database (by decide),
      hsettles .collection (by decide), hsettles .file (by decide), rfl, rfl⟩, rfl⟩
  · -- the settings in front of the one that fails are those before it
    have hbefore : s.before = front := before_eq hsplit.symm
    rw [hplay]
    refine .inr ⟨s, e, ⟨settles_iff.mpr hs, ?_⟩, ?_⟩
    · intro s' hs'
      rw [hbefore] at hs'
      rcases hfront s' hs' with ⟨v, hv⟩
      exact ⟨v, settles_iff.mpr hv⟩
    · rw [hbefore]
      rfl

/-- With a URL flag the URL in the environment is not looked at. -/
theorem settle_eq_of_url {flags : Flags} {url : String} (h : flags.url = some url)
    (envUrl envUrl' : Option String) (answers : List (Except Error String)) :
    settle flags envUrl' answers = settle flags envUrl answers := by
  unfold settle Settings.resolve
  rw [h]
  rfl

/-- For all flags, URLs in the environment and answers: the settings are those that the flags and
answers amount to, unless a setting fails, and the first one that does is the failure.  Asked are
the questions for the settings that were not given, in order, up to the one that fails, and each
takes one answer; nothing is called or logged.  The URL in the environment counts only without a
URL flag, and answers to questions that are not asked never count. -/
theorem settle_precedence (flags : Flags) (envUrl : Option String)
    (answers : List (Except Error String)) :
    let p := settle flags envUrl answers
    (∀ settings, p.result = .ok settings ↔
      Settings.Assembled flags envUrl answers settings) ∧
    (∀ e, p.result = .error e ↔ ∃ s, FailsAt flags envUrl answers s e) ∧
    (∀ settings, p.result = .ok settings → p.asked = questions flags envUrl all) ∧
    (∀ s e, FailsAt flags envUrl answers s e →
      p.asked = questions flags envUrl (s.before ++ [s])) ∧
    p.remaining = answers.drop p.asked.length ∧ p.calls = [] ∧ p.logs = [] ∧
    (∀ url, flags.url = some url → ∀ envUrl', settle flags envUrl' answers = p) ∧
    ∀ answers', answers.take p.asked.length = answers'.take p.asked.length →
      (settle flags envUrl answers').result = p.result ∧
      (settle flags envUrl answers').asked = p.asked := by
  intro p
  have hremaining : p.remaining = answers.drop p.asked.length := Dialogue.remaining_play _ _
  have hunasked : ∀ answers', answers.take p.asked.length = answers'.take p.asked.length →
      (settle flags envUrl answers').result = p.result ∧
      (settle flags envUrl answers').asked = p.asked := by
    intro answers' htake
    rcases Dialogue.play_of_take htake with ⟨heffect, hasked, -⟩
    exact ⟨(Dialogue.Played.effect_inj heffect).1, hasked⟩
  have henv : ∀ url, flags.url = some url → ∀ envUrl', settle flags envUrl' answers = p :=
    fun url hurl envUrl' => settle_eq_of_url hurl envUrl envUrl' answers
  -- settings are assembled or one fails, never both, so the case at hand decides each direction
  rcases settle_cases flags envUrl answers with ⟨settings, hsettings, hp⟩ | ⟨s, e, hfails, hp⟩
  · change p = _ at hp
    refine ⟨?_, ?_, ?_, ?_, hremaining, by rw [hp], by rw [hp], henv, hunasked⟩
    · intro settings'
      rw [hp]
      constructor
      · rintro ⟨⟩
        exact hsettings
      · intro h
        rw [hsettings.unique h]
    · intro e
      rw [hp]
      constructor
      · rintro ⟨⟩
      · rintro ⟨s, hs⟩
        exact absurd hs (hsettings.not_failsAt s e)
    · intro settings' _
      rw [hp]
    · intro s e hs
      exact absurd hs (hsettings.not_failsAt s e)
  · change p = _ at hp
    refine ⟨?_, ?_, ?_, ?_, hremaining, by rw [hp], by rw [hp], henv, hunasked⟩
    · intro settings
      rw [hp]
      constructor
      · rintro ⟨⟩
      · intro h
        exact absurd hfails (h.not_failsAt s e)
    · intro e'
      rw [hp]
      constructor
      · rintro ⟨⟩
        exact ⟨s, hfails⟩
      · rintro ⟨s', hs'⟩
        rw [(hfails.unique hs').2]
    · intro settings
      rw [hp]
      rintro ⟨⟩
    · intro s' e' hs'
      rw [hp, (hfails.unique hs').1]

/-- Flags that name a database and an operation, with blanks around them. -/
def databaseFlags : Flags :=
  { Flags.none with database := some " d ", operation := some " count " }

/-- With these flags a blank URL, a collection and a file are answered, and a fourth answer is
left.  A blank collection is the end, with nothing asked about the file. -/
theorem settle_precedence_asked :
    let answers : List (Except Error String) := [.ok "", .ok "c ", .ok " f ", .ok "y"]
    let blank : List (Except Error String) := [.ok "", .ok " ", .ok "f"]
    (settle databaseFlags none answers).result =
      .ok ⟨StoreUrl.default, "d", "c", "f", .count, some ⟨"count", ""⟩⟩ ∧
    (settle databaseFlags none answers).asked =
      [Settings.urlQuestion, Settings.collectionQuestion, Settings.fileQuestion] ∧
    (settle databaseFlags none answers).remaining = [.ok "y"] ∧
    Setting.FailsAt databaseFlags none blank .collection (.missingField "collection name") ∧
    (settle databaseFlags none blank).asked =
      [Settings.urlQuestion, Settings.collectionQuestion] := by
  intro answers blank
  rcases settle_precedence databaseFlags none answers with ⟨-, -, hasked, -, hremaining, -⟩
  rcases settle_precedence databaseFlags none blank with ⟨-, -, -, hstops, -⟩
  have hresult : (settle databaseFlags none answers).result =
      .ok ⟨StoreUrl.default, "d", "c", "f", .count, some ⟨"count", ""⟩⟩ := by rfl
  have hquestions := hasked _ hresult
  have hfails : FailsAt databaseFlags none blank .collection (.missingField "collection name") := by
    refine ⟨settles_iff.mpr (by rfl), ?_⟩
    intro s hs
    rcases List.mem_cons.mp hs with rfl | hs
    · exact ⟨StoreUrl.default, settles_iff.mpr (by rfl)⟩
    · rw [List.mem_singleton.mp hs]
      exact ⟨"d", settles_iff.mpr (by rfl)⟩
  refine ⟨hresult, hquestions, ?_, hfails, hstops _ _ hfails⟩
  rw [hremaining, hquestions]
  rfl

end Run
end DocLoad
