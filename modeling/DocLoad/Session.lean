import DocLoad.Settings

/-!
# DocLoad.Session — importing a file and running one operation

A session inserts the documents of the import file and then runs exactly one operation: the one
requested in advance, the one the operator asks for, or the default of the mode.
-/

namespace DocLoad.Session

def followUpQuestion : String := "File already imported, do you need some request? (y/N) "
def operationQuestion : String := "Which operation? "
def queryQuestion : String := "Print query like: foo='bar', baz=42\n"

/-- The operation with a name, if the mode allows it. -/
def resolve (name : String) (mode : Mode) : Except Error Operation :=
  match mode.operation? name with
  | some op => .ok op
  | none => .error (.invalidOperation name)

/-- Reads a query line. -/
def readQuery (line : String) : Except Error Query :=
  match Query.read line with
  | .ok q => .ok q
  | .error clause => .error (.malformedQuery clause)

/-- Runs an operation: one store call. -/
def perform (op : Operation) (q : Query) : Dialogue Outcome := do
  if op = .count && !q.isEmpty then .record .debug "Ignoring the query for `count`"
  let reply ← .request (op.call q.toDocument)
  return op.outcome q.toDocument reply

/-- Runs the operation with a name, if the mode allows it. -/
def performNamed (name : String) (q : Query) (mode : Mode) : Dialogue Outcome := do
  let op ← .ofExcept (resolve name mode)
  perform op q

/-- Inserts the documents of the file. -/
def importAll (ds : List Document) : Dialogue Unit := do
  if ds.isEmpty then .record .warn "The file has no documents. Nothing was imported"
  else
    let ids : List Bson ← .request (.insertMany ds)
    .record .info ("Imported " ++ Text.decimal ids.length ++ " documents")

/-- Whether an answer agrees. -/
def isYes (answer : String) : Bool :=
  let word := Text.lowerAscii (Text.trim answer)
  word = "y" || word = "yes"

/-- The operation and the query that the operator wants after the import. -/
def choose (mode : Mode) : Dialogue (Operation × Query) := do
  let answer ← .prompt followUpQuestion
  if isYes answer then
    let name ← .prompt operationQuestion
    let op ← .ofExcept (resolve (Text.trim name) mode)
    let line ← .prompt queryQuestion
    let q ← .ofExcept (readQuery line)
    return (op, q)
  else
    return (mode.default, .empty)

/-- What happens after the import. -/
def respond (mode : Mode) : Option Request → Dialogue Outcome
  | some request => do
    let q ← .ofExcept (readQuery request.query)
    .record .info ("Running `" ++ request.operation ++ "`")
    performNamed request.operation q mode
  | none => do
    let (op, q) ← choose mode
    .record .info ("Running `" ++ op.name ++ "` with " ++ Text.decimal q.size ++ " field(s)")
    perform op q

/-- A whole session for the documents of a file, or the reason why there are none. -/
def hold (settings : Settings) (file : Except FileError (List Document)) : Dialogue Outcome := do
  let ds ← .ofExcept (file.mapError (.file settings.file))
  importAll ds
  respond settings.mode settings.request

end DocLoad.Session
