import DocLoad.Settings
import DocLoad.Text.Split

/-!
# DocLoad.CommandLine — reading the command line

`CommandLine.read` turns the words after the program's name into `Flags`, or ends with a
`UsageError`, which may also be a wish for help.  A flag is `--name value`, `--name=value`,
`-n value`, `-nvalue` or `-n=value`; `--` ends the flags.

A value in a word of its own waits until the next flag or the end of the line before it is
checked, so a word that cannot stand there is noticed first.
-/

namespace DocLoad

/-- Why a command line gives no flags. -/
inductive UsageError where
  | unknownArgument
  | invalidValue
  /-- A flag was given twice. -/
  | argumentConflict
  | missingRequiredArgument
  /-- A flag that takes no value has one. -/
  | tooManyValues
  | displayHelp
  | displayVersion
deriving DecidableEq, Repr

/-- The flags that take a value. -/
inductive Flag where
  | url
  | database
  | collection
  | file
  | mode
  | operation
  | query
deriving DecidableEq, Repr

namespace Flag

/-- Every flag. -/
def all : List Flag := [url, database, collection, file, mode, operation, query]

/-- The long name of a flag. -/
def long : Flag → String
  | url => "url"
  | database => "database"
  | collection => "collection"
  | file => "file"
  | mode => "mode"
  | operation => "operation"
  | query => "query"

/-- The short name of a flag. -/
def short : Flag → Char
  | url => 'u'
  | database => 'd'
  | collection => 'c'
  | file => 'f'
  | mode => 'm'
  | operation => 'o'
  | query => 'q'

/-- Whether a text can be the value of a flag. -/
def admits (value : String) : Flag → Bool
  | mode => (Mode.ofName? value).isSome
  | file => value ≠ ""
  | _ => true

end Flag

namespace CommandLine

/-- A word of the command line that has to do with a flag. -/
inductive Word where
  /-- Ends the flags. -/
  | ends
  /-- A flag, with its value if that is part of the word. -/
  | flag (f : Flag) (value : Option String)
  /-- A wish for help or for the version, with what is wrong with it if it has a value. -/
  | wish (e : UsageError)
  /-- A flag that does not exist. -/
  | unknown
  /-- No flag: a value or a word out of place. -/
  | plain (s : String)

/-- A word that starts with two hyphens. -/
def longWord (cs : List Char) : Word :=
  let (name, value) := match Text.cutFirst '=' cs with
    | some (name, value) => (name, some (String.ofList value))
    | none => (cs, none)
  match Flag.all.find? fun f => f.long.toList = name with
  | some f => .flag f value
  | none =>
    if name = "help".toList then .wish (if value.isSome then .tooManyValues else .displayHelp)
    else if name = "version".toList then
      .wish (if value.isSome then .tooManyValues else .displayVersion)
    else .unknown

/-- A word that starts with one hyphen and has a letter after it. -/
def shortWord (c : Char) (cs : List Char) : Word :=
  match Flag.all.find? fun f => f.short = c with
  | some f =>
    match cs with
    | [] => .flag f none
    | '=' :: cs => .flag f (some (String.ofList cs))
    | cs => .flag f (some (String.ofList cs))
  | none =>
    if c = 'h' then .wish .displayHelp
    else if c = 'V' then .wish .displayVersion
    else .unknown

/-- What a word is. -/
def Word.ofString (s : String) : Word :=
  match s.toList with
  | ['-', '-'] => .ends
  | '-' :: '-' :: cs => longWord cs
  | '-' :: c :: cs => shortWord c cs
  | _ => .plain s

/-- How far the line has been read: the values that were accepted, the flag whose value is to
come or to be checked, and whether the flags have ended. -/
structure Reading where
  given : List (Flag × String)
  pending : Option (Flag × Option String)
  ended : Bool

namespace Reading

/-- The value of a flag. -/
def value? (r : Reading) (f : Flag) : Option String :=
  (r.given.find? fun g => g.1 = f).map (·.2)

/-- Accepts the value of a flag. -/
def accept (f : Flag) (value : String) (r : Reading) : Except UsageError Reading :=
  if (r.value? f).isSome then .error .argumentConflict
  else if f.admits value then .ok { r with given := r.given ++ [(f, value)] }
  else .error .invalidValue

/-- Checks the value that waits. -/
def settle (r : Reading) : Except UsageError Reading :=
  match r.pending with
  | none => .ok r
  | some (_, none) => .error .invalidValue
  | some (f, some value) => accept f value { r with pending := none }

/-- Takes a word. -/
def step (r : Reading) (s : String) : Except UsageError Reading :=
  if r.ended then .error .unknownArgument
  else
    match Word.ofString s, r.pending with
    | .plain s, some (f, none) => .ok { r with pending := some (f, some s) }
    | .plain _, _ => .error .unknownArgument
    | .unknown, _ => .error .unknownArgument
    | .ends, _ => .ok { r with ended := true }
    | .wish e, _ => do
      let _ ← r.settle
      .error e
    | .flag f none, _ => do
      let r ← r.settle
      return { r with pending := some (f, none) }
    | .flag f (some value), _ => do
      let r ← r.settle
      r.accept f value

/-- The flags of a line that was read to its end; a query needs an operation. -/
def finish (r : Reading) : Except UsageError Flags := do
  let r ← r.settle
  if (r.value? .query).isSome && (r.value? .operation).isNone then
    throw .missingRequiredArgument
  return {
    url := r.value? .url
    database := r.value? .database
    collection := r.value? .collection
    file := r.value? .file
    mode := ((r.value? .mode).bind Mode.ofName?).getD .count
    operation := r.value? .operation
    query := r.value? .query }

end Reading

/-- The flags that a command line gives. -/
def read (words : List String) : Except UsageError Flags := do
  let r ← words.foldlM Reading.step ⟨[], none, false⟩
  r.finish

end CommandLine
end DocLoad
