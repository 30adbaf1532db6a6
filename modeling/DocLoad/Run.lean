import DocLoad.Server.Connection
import DocLoad.Server.Deployment
import DocLoad.Import
import DocLoad.Session

/-!
# DocLoad.Run — one run of the program

A run resolves the settings, opens the store that their URL names and holds a session with it.
`Run.program` does all of it for given flags and answers, in given surroundings, and tells in a
`Report` what could be seen.
-/

namespace DocLoad

/-- What a run finds around it: the URL in the environment, the files, the servers that can be
reached, and a sequence of new identifiers. -/
structure Surroundings where
  envUrl : Option String
  file : String → Except ReadFailure ByteArray
  deployment : Server.Deployment
  gen : Nat → ObjectId

/-- What could be seen of a run, and the answers that it left. -/
structure Report where
  result : Except Error Outcome
  asked : List String
  remaining : List (Except Error String)
  logs : List LogRecord
  /-- The commands that a server was sent. -/
  commands : List Server.Command

namespace Report

/-- A run that ended with an error before anything could be seen. -/
def failed (e : Error) (answers : List (Except Error String)) : Report :=
  ⟨.error e, [], answers, [], []⟩

/-- The report of a dialogue and of the commands that it led to. -/
def ofPlayed {σ : Type} (p : Dialogue.Played σ Outcome) (commands : List Server.Command) :
    Report :=
  ⟨p.result, p.asked, p.remaining, p.logs, commands⟩

/-- The report of a run after an earlier dialogue. -/
def after {σ α : Type} (earlier : Dialogue.Played σ α) (r : Report) : Report :=
  { r with asked := earlier.asked ++ r.asked, logs := earlier.logs ++ r.logs }

end Report

namespace Run

/-! ## Opening a store -/

/-- The failure for a URL without a known scheme. -/
def unknownScheme (url : String) : Error :=
  .arguments ("unknown scheme in store url `" ++ url ++ "`")

/-- What a run does with a store of some kind once that is open. -/
def announce : Scheme → Dialogue Unit
  | .mongo => .record .info ("Connected to " ++ Scheme.mongo.name)
  | .memory => .record .warn "Using the in-process store. Nothing will be persisted"

/-- A session with a store that was opened. -/
def sessionWith (scheme : Scheme) (settings : Settings)
    (file : Except FileError (List Document)) : Dialogue Outcome := do
  announce scheme
  Session.hold settings file

/-- A session with a collection in memory. -/
def inMemory (w : Surroundings) (settings : Settings) (answers : List (Except Error String)) :
    Report :=
  let file := Import.ofBytes (w.file settings.file)
  let played := (sessionWith .memory settings file).play (Collection.answer w.gen)
    ⟨.empty settings.collection, answers⟩
  .ofPlayed played []

/-- A session with a collection behind a server. -/
def onServer (w : Surroundings) (settings : Settings) (answers : List (Except Error String)) :
    Report :=
  match w.deployment.connect settings.url with
  | (.error e, commands) => { Report.failed e answers with commands }
  | (.ok (), commands) =>
    let file := Import.ofBytes (w.file settings.file)
    let collection :=
      Server.Connection.fresh ⟨settings.database, settings.collection⟩ w.deployment.replies
    let played := (sessionWith .mongo settings file).play (Server.Connection.answer w.gen)
      ⟨collection, answers⟩
    .ofPlayed played (commands ++ played.store.sent)

/-- Opens the store that the settings name and holds a session with it. -/
def withSettings (w : Surroundings) (settings : Settings)
    (answers : List (Except Error String)) : Report :=
  match StoreUrl.scheme? settings.url with
  | some .memory => inMemory w settings answers
  | some .mongo => onServer w settings answers
  | none => .failed (unknownScheme settings.url) answers

/-! ## The program -/

/-- Resolves the settings, which needs no store. -/
def settle (flags : Flags) (envUrl : Option String) (answers : List (Except Error String)) :
    Dialogue.Played Unit Settings :=
  (Settings.resolve flags envUrl).play .closed ⟨(), answers⟩

/-- A whole run. -/
def program (w : Surroundings) (flags : Flags) (answers : List (Except Error String)) : Report :=
  let settled := settle flags w.envUrl answers
  match settled.result with
  | .error e => .after settled (.failed e settled.remaining)
  | .ok settings => .after settled (withSettings w settings settled.remaining)

end Run
end DocLoad
