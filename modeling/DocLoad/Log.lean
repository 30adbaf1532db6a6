import DocLoad.Text.Blank

/-!
# DocLoad.Log — log records

A run writes log records for the operator.  A `LogFilter` says which of them are shown.
-/

namespace DocLoad

/-- The importance of a log record. -/
inductive LogLevel where
  | warn
  | info
  | debug
deriving DecidableEq, Repr

namespace LogLevel

/-- The name of a level. -/
def name : LogLevel → String
  | warn => "WARN"
  | info => "INFO"
  | debug => "DEBUG"

/-- How far down a level is. -/
def rank : LogLevel → Nat
  | warn => 2
  | info => 3
  | debug => 4

end LogLevel

/-- A log record. -/
structure LogRecord where
  level : LogLevel
  text : String
deriving DecidableEq, Repr

/-- A bound on the ranks of the records that are shown. -/
structure LogFilter where
  rank : Nat
deriving DecidableEq, Repr

namespace LogFilter

/-- The filter that holds when none is named: all but debug records are shown. -/
def default : LogFilter := ⟨LogLevel.info.rank⟩

/-- The filter with a name. -/
def ofName? (s : String) : Option LogFilter :=
  match Text.lowerAscii (Text.trim s) with
  | "off" => some ⟨0⟩
  | "error" => some ⟨1⟩
  | "warn" => some ⟨2⟩
  | "info" => some ⟨3⟩
  | "debug" => some ⟨4⟩
  | "trace" => some ⟨5⟩
  | _ => none

/-- Whether a record is shown. -/
def shows (f : LogFilter) (r : LogRecord) : Bool :=
  r.level.rank ≤ f.rank

end LogFilter
end DocLoad
