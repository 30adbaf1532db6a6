import DocLoad.Bson.Basic
import DocLoad.Text.Split

/-!
# DocLoad.Bson.Path — dotted paths into documents

A `Path` is a first segment and the segments after it, written with dots between them; segments
may be empty.  `Document.lookup?` follows a path through nested documents, never through arrays.
`Document.assign` writes at a path and creates the documents that are missing on the way; it fails
where the way leads through a value that is not a document.
-/

namespace DocLoad

/-- A non-empty sequence of keys. -/
structure Path where
  first : String
  rest : List String
deriving DecidableEq, Repr

namespace Path

/-- The segments between the dots of a text. -/
def ofString (s : String) : Path :=
  match Text.splitChar '.' s.toList with
  | [] => ⟨"", []⟩
  | p :: ps => ⟨String.ofList p, ps.map String.ofList⟩

/-- The segments of a path. -/
def segments (p : Path) : List String :=
  p.first :: p.rest

/-- The last segment. -/
def leaf (p : Path) : String :=
  p.rest.getLastD p.first

end Path

namespace Document

/-- The value that a first segment and the segments after it lead to. -/
def lookupAt? (d : Document) (first : String) : List String → Option Bson
  | [] => Fields.get? first d
  | next :: rest =>
    match Fields.get? first d with
    | some (.document nested) => lookupAt? nested next rest
    | _ => none

/-- The value at a path. -/
def lookup? (d : Document) (p : Path) : Option Bson :=
  d.lookupAt? p.first p.rest

/-- Writes a value where the segments lead; fails with the segment that holds something other than
a document. -/
def assignAt (value : Bson) (d : Document) (first : String) :
    List String → Except String Document
  | [] => .ok (Fields.set first value d)
  | next :: rest =>
    match Fields.get? first d with
    | none => (assignAt value [] next rest).map fun nested => Fields.set first (.document nested) d
    | some (.document nested) =>
      (assignAt value nested next rest).map fun nested => Fields.set first (.document nested) d
    | some _ => .error first

/-- Writes a value at a path. -/
def assign (d : Document) (p : Path) (value : Bson) : Except String Document :=
  assignAt value d p.first p.rest

end Document
end DocLoad
