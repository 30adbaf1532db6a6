import DocLoad.Answers
import DocLoad.Exit
import DocLoad.Run

/-!
# DocLoad.Main — the command line program

The program reads its flags, asks for what is missing and ends as `Run.program` says.  Answers are
read one at a time: a run is played again with one more answer until it needs no further one, so
that every question comes after the log records before it.  No network is used, so a session with
a server ends when it connects.
-/

namespace DocLoad.Main

/-- What the program reads and writes. -/
structure Terminal where
  stdin : IO.FS.Stream
  stdout : IO.FS.Stream
  stderr : IO.FS.Stream
  /-- Whether somebody sees the questions. -/
  interactive : Bool
  filter : LogFilter

/-- The operator's answers so far, and how many log records have been written. -/
structure Progress where
  answers : List (Except Error String)
  logged : Nat

namespace Terminal

/-- Reads the bytes of a line with its end; nothing at the end of the input. -/
partial def readLine (t : Terminal) (soFar : List UInt8) : IO (List UInt8) := do
  let bytes ← t.stdin.read 1
  match bytes.data.toList with
  | [] => return soFar.reverse
  | b :: _ => if b = Answers.lineFeed then return (b :: soFar).reverse else t.readLine (b :: soFar)

/-- Writes the log records that are to be shown. -/
def writeLogs (t : Terminal) (logs : List LogRecord) : IO Unit :=
  logs.forM fun r => do
    if t.filter.shows r then t.stderr.putStr ("[" ++ r.level.name ++ "] " ++ r.text ++ "\n")

/-- Plays a run with more and more answers until it needs no further one.  `seen` tells the
questions and log records of a run. -/
partial def converse {α : Type} (t : Terminal) (seen : α → List String × List LogRecord)
    (run : List (Except Error String) → α) (p : Progress) : IO (α × Progress) := do
  let played := run p.answers
  let (asked, logs) := seen played
  t.writeLogs (logs.drop p.logged)
  let p := { p with logged := logs.length }
  match asked.drop p.answers.length with
  | [] => return (played, p)
  | question :: _ =>
    if t.interactive then
      t.stdout.putStr question
      t.stdout.flush
    match ← t.readLine [] with
    | [] => return (played, p)
    | line => t.converse seen run { p with answers := p.answers ++ [Answers.ofLine line] }

/-- Writes what a run has to say at its end. -/
def finish (t : Terminal) (e : Exit) : IO UInt32 := do
  t.stdout.putStr e.stdout
  t.stdout.flush
  t.stderr.putStr e.stderr
  return UInt32.ofNat e.code

end Terminal

/-- The number of an operating system error, which may come with a sign. -/
def errorNumber (code : UInt32) : Nat :=
  min code.toNat (UInt32.size - code.toNat)

/-- Why the operating system could not read a file. -/
def readFailure : IO.Error → ReadFailure
  | .noFileOrDirectory .. => .notFound
  | .inappropriateType _ code reason =>
    if errorNumber code = 21 then .isDirectory
    else if errorNumber code = 20 then .notDirectory
    else .other reason
  | .permissionDenied _ code reason =>
    .other (reason ++ " (os error " ++ Text.decimal (errorNumber code) ++ ")")
  | e => .other (toString e)

/-- The bytes of a file. -/
def readFile (path : String) : IO (Except ReadFailure ByteArray) := do
  try
    return .ok (← IO.FS.readBinFile path)
  catch e =>
    return .error (readFailure e)

/-- New identifiers from a random one on. -/
def identifiers : IO (Nat → ObjectId) := do
  let bytes ← IO.getRandomBytes 12
  let start := bytes.data.toList.foldl (fun n b => n * 256 + b.toNat) 0
  return fun n => ⟨BitVec.ofNat 96 (start + n)⟩

/-- The run for the given flags. -/
def runWith (t : Terminal) (flags : Flags) : IO Exit := do
  let envUrl ← IO.getEnv "DOCPORT_URL"
  let (settled, p) ← t.converse (fun s => (s.asked, s.logs)) (Run.settle flags envUrl) ⟨[], 0⟩
  match settled.result with
  | .error e => return .ofResult (.error e)
  | .ok settings =>
    let content ← readFile settings.file
    let w : Surroundings := {
      envUrl
      file := fun _ => content
      deployment := .unreachable
      gen := ← identifiers }
    let (report, _) ← t.converse (fun r => (r.asked, r.logs)) (Run.program w flags) p
    return .ofResult report.result

/-- The terminal of this process. -/
def terminal : IO Terminal := do
  let stdin ← IO.getStdin
  let filter := ((← IO.getEnv "DOCPORT_LOG").bind LogFilter.ofName?).getD .default
  return ⟨stdin, ← IO.getStdout, ← IO.getStderr, ← stdin.isTty, filter⟩

end DocLoad.Main

def main (args : List String) : IO UInt32 := do
  let t ← DocLoad.Main.terminal
  match DocLoad.CommandLine.read args with
  | .error e => t.finish (.ofUsage e)
  | .ok flags => t.finish (← DocLoad.Main.runWith t flags)
