import DocLoad.CommandLine
import DocLoad.Printout

/-!
# DocLoad.Exit — how the program ends

An `Exit` is an exit code with what is written to standard output and to standard error.
-/

namespace DocLoad

/-- How a run of the program ends. -/
structure Exit where
  code : Nat
  stdout : String
  stderr : String
deriving DecidableEq, Repr

namespace Exit

/-- The line for an error. -/
def ofResult : Except Error Outcome → Exit
  | .ok outcome => ⟨0, (Printout.ofOutcome outcome).toText, ""⟩
  | .error e => ⟨1, "", "docport error: " ++ e.message ++ "\n"⟩

/-- The name and version of the program. -/
def version : String := "docport 0.1.0\n"

/-- The text that explains the flags. -/
def help : String :=
  "docport 0.1.0\n" ++
  "Sayan Nandan <ohsayan@outlook.com>\n" ++
  "Bulk-load a JSON document collection into a document store" ++
  " and run a one-off query against it\n" ++
  "\n" ++
  "Usage: docport [OPTIONS]\n" ++
  "\n" ++
  "Options:\n" ++
  "  -u, --url <URL>              Sets the store URL" ++
  " (prompted for if absent; also read from DOCPORT_URL)\n" ++
  "  -d, --database <NAME>        Sets the database to import into\n" ++
  "  -c, --collection <NAME>      Sets the collection to import into\n" ++
  "  -f, --file <PATH>            Sets the JSON file to import (an array of documents)\n" ++
  "  -m, --mode <MODE>            Selects the allowed operations" ++
  " and the operation that runs by default" ++
  " [default: count] [possible values: count, find, general]\n" ++
  "  -o, --operation <OPERATION>  Runs this operation instead of asking for one\n" ++
  "  -q, --query <QUERY>          The query for --operation, like: foo='bar', baz=42\n" ++
  "  -h, --help                   Print help\n" ++
  "  -V, --version                Print version\n"

/-- The end of a run whose command line gives no flags. -/
def ofUsage : UsageError → Exit
  | .displayHelp => ⟨0, help, ""⟩
  | .displayVersion => ⟨0, version, ""⟩
  | .unknownArgument => ⟨2, "", "error: unexpected argument\n"⟩
  | .invalidValue => ⟨2, "", "error: invalid value\n"⟩
  | .argumentConflict => ⟨2, "", "error: the argument cannot be used multiple times\n"⟩
  | .missingRequiredArgument => ⟨2, "", "error: --query requires --operation\n"⟩
  | .tooManyValues => ⟨2, "", "error: unexpected value\n"⟩

end Exit
end DocLoad
