import DocLoad.Dialogue
import DocLoad.Operation
import DocLoad.StoreUrl
import DocLoad.Text.Blank

/-!
# DocLoad.Settings — what a run needs to know

`Flags` holds what was given on the command line, `Settings` what a run needs.
`Settings.resolve` fills in the rest: flags come before the environment, which comes before the
operator.  A blank URL means the default one; any other blank setting is an error.
-/

namespace DocLoad

/-- What was given on the command line. -/
structure Flags where
  url : Option String
  database : Option String
  collection : Option String
  file : Option String
  mode : Mode
  operation : Option String
  query : Option String
deriving DecidableEq, Repr

/-- No flags at all. -/
def Flags.none : Flags := ⟨.none, .none, .none, .none, .count, .none, .none⟩

/-- An operation and a query line that were given in advance. -/
structure Request where
  operation : String
  query : String
deriving DecidableEq, Repr

/-- Everything that a run needs. -/
structure Settings where
  url : String
  database : String
  collection : String
  file : String
  mode : Mode
  request : Option Request
deriving DecidableEq, Repr

namespace Settings

def urlQuestion : String := "Custom store url (mongodb://localhost:27017 by default): "
def databaseQuestion : String := "Database name: "
def collectionQuestion : String := "Collection name: "
def fileQuestion : String := "File name: "

/-- A value that was given, or the answer to a question. -/
def orAsk (value : Option String) (question : String) : Dialogue String :=
  match value with
  | some v => .done v
  | none => .prompt question

/-- The full URL for a text that may be blank. -/
def resolveUrl (text : String) : Except Error String :=
  let url := Text.trim text
  if url = "" then .ok StoreUrl.default
  else
    match StoreUrl.normalize? url with
    | some url => .ok url
    | none => .error (.arguments ("unknown scheme in store url `" ++ url ++ "`"))

/-- A trimmed text that may not be blank. -/
def notBlank (field : RequiredField) (text : String) : Except Error String :=
  let value := Text.trim text
  if value = "" then .error (.missingField field.name) else .ok value

/-- The path of the import file: one from the command line is kept as it is. -/
def resolveFile : Option String → Dialogue String
  | some path => if path = "" then .fail (.missingField RequiredField.file.name) else .done path
  | none => do
    let answer ← .prompt fileQuestion
    .ofExcept (notBlank .file answer)

/-- The request that the command line makes, if it names an operation. -/
def requestOf (flags : Flags) : Option Request :=
  flags.operation.map fun operation => ⟨Text.trim operation, flags.query.getD ""⟩

/-- The settings for the given flags and the URL in the environment. -/
def resolve (flags : Flags) (envUrl : Option String) : Dialogue Settings := do
  let url ← orAsk (flags.url <|> envUrl) urlQuestion
  let url ← .ofExcept (resolveUrl url)
  let database ← orAsk flags.database databaseQuestion
  let database ← .ofExcept (notBlank .database database)
  let collection ← orAsk flags.collection collectionQuestion
  let collection ← .ofExcept (notBlank .collection collection)
  let file ← resolveFile flags.file
  return ⟨url, database, collection, file, flags.mode, requestOf flags⟩

end Settings
end DocLoad
