import DocLoad.Store.Call
import DocLoad.Text.Digits

/-!
# DocLoad.Error — why a run fails

Every failure of the program is one `Error`, which names its cause; `Error.message` is the text
that the operator sees.
-/

namespace DocLoad

/-- Why a file could not be read as text. -/
inductive ReadFailure where
  | notFound
  | isDirectory
  | notDirectory
  | notText
  | nulInPath
  | other (reason : String)
deriving DecidableEq, Repr

namespace ReadFailure

/-- The message of a failure to read. -/
def message : ReadFailure → String
  | notFound => "No such file or directory (os error 2)"
  | isDirectory => "Is a directory (os error 21)"
  | notDirectory => "Not a directory (os error 20)"
  | notText => "stream did not contain valid UTF-8"
  | nulInPath => "file name contained an unexpected NUL byte"
  | other reason => reason

end ReadFailure

/-- Why a file does not give a list of documents. -/
inductive FileError where
  | unreadable (failure : ReadFailure)
  | notJson
  | notArray
  /-- The element with this index is a value other than a document. -/
  | notDocument (index : Nat)
  /-- The element with this index has a marker of extended JSON in a wrong shape. -/
  | notExtended (index : Nat)
deriving DecidableEq, Repr

namespace FileError

/-- The message of a failure, without the name of the file.  Those of `notJson` and `notExtended`
are the start of what the operator sees: the words of the library that read the text or the marker
follow behind the point, and are left out here. -/
def message : FileError → String
  | unreadable failure => failure.message
  | notJson => "bad JSON."
  | notArray => "expected an array of documents"
  | notDocument index => "element " ++ Text.decimal index ++ " is not a document"
  | notExtended index => "element " ++ Text.decimal index ++ " is not valid extended JSON."

end FileError

/-- A setting that may not be blank. -/
inductive RequiredField where
  | database
  | collection
  | file
deriving DecidableEq, Repr

namespace RequiredField

/-- The name of a setting. -/
def name : RequiredField → String
  | database => "database name"
  | collection => "collection name"
  | file => "file name"

end RequiredField

/-- Why a run fails. -/
inductive Error where
  /-- A required setting with the given name was left blank. -/
  | missingField (name : String)
  /-- The import file cannot be used. -/
  | file (path : String) (cause : FileError)
  /-- A clause of a query is not of the form `key=value`. -/
  | malformedQuery (clause : String)
  /-- An operation is unknown or not allowed in the mode. -/
  | invalidOperation (name : String)
  /-- The store cannot be reached. -/
  | connection (detail : String)
  /-- The store refused a call. -/
  | store (cause : StoreError)
  /-- The command line cannot be used. -/
  | arguments (detail : String)
  /-- The operator did not answer. -/
  | prompt (detail : String)
  /-- Reading or writing failed. -/
  | inputOutput (detail : String)
deriving Repr

namespace Error

/-- The text that the operator sees. -/
def message : Error → String
  | missingField name => name ++ " is required"
  | file path cause => "not a valid file `" ++ path ++ "`. " ++ cause.message
  | malformedQuery clause =>
    "malformed query. expected `key=value`, found `" ++ clause ++ "`"
  | invalidOperation name => "not a valid operation: `" ++ name ++ "`"
  | connection detail => "failed to connect to store. " ++ detail
  | store cause => "store error. " ++ cause.message
  | arguments detail => "incorrect arguments. " ++ detail
  | prompt detail => "failed to read input. " ++ detail
  | inputOutput detail => "i/o error. " ++ detail

/-- The operator ended the input instead of answering. -/
def endOfInput : Error := .prompt "end of input"

/-- The operator's answer is not text. -/
def notTextInput : Error := .inputOutput ReadFailure.notText.message

end Error
end DocLoad
