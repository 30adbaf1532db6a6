import DocLoad.Bson.Basic
import DocLoad.Number.Literal
import DocLoad.Text.Split

/-!
# DocLoad.Query — query lines

A query line is a list of clauses `key=value` with a comma and a blank between them, as in
`foo='bar', baz=42`.  A value that is a numeral becomes a number and any other value is kept as it
is written, quotes included.  A later clause replaces an earlier one with the same key, and the
keys of a `Query` increase in the order of their UTF-8 bytes.
-/

namespace DocLoad

/-- The value of a clause. -/
inductive Literal where
  | integer (n : Int64)
  | double (x : Double)
  | text (s : String)
deriving DecidableEq, Repr

namespace Literal

/-- Reads the text of a value: an integer of 64 bits, any other numeral as a binary64 number, or
the text itself. -/
def ofChars (cs : List Char) : Literal :=
  match Numeral.read cs with
  | none => .text (String.ofList cs)
  | some numeral =>
    match numeral.toInt? with
    | some n =>
      if Int64.minValue.toInt ≤ n ∧ n ≤ Int64.maxValue.toInt then .integer (Int64.ofInt n)
      else .double numeral.toDouble
    | none => .double numeral.toDouble

/-- The value that a literal stands for in a document. -/
def toBson : Literal → Bson
  | integer n => .narrow n
  | double x => .double x
  | text s => .string s

end Literal

/-- The bytes of a text in UTF-8. -/
def utf8 (s : String) : List UInt8 :=
  s.toByteArray.data.toList

/-- A query: keys with their values, in increasing order of the keys' bytes. -/
structure Query where
  fields : Fields Literal
deriving DecidableEq, Repr

namespace Query

/-- The query without clauses. -/
def empty : Query := ⟨[]⟩

/-- The number of fields. -/
def size (q : Query) : Nat :=
  q.fields.length

def isEmpty (q : Query) : Bool :=
  q.fields.isEmpty

/-- Puts a field at its place among sorted fields, or replaces the value of its key. -/
def insertSorted (key : String) (value : Literal) : Fields Literal → Fields Literal
  | [] => [(key, value)]
  | (k, v) :: rest =>
    if k = key then (key, value) :: rest
    else if utf8 key < utf8 k then (key, value) :: (k, v) :: rest
    else (k, v) :: insertSorted key value rest

/-- The query with one more clause. -/
def insert (q : Query) (clause : String × Literal) : Query :=
  ⟨insertSorted clause.1 clause.2 q.fields⟩

/-- The query with the given clauses, taken in order. -/
def ofClauses (clauses : List (String × Literal)) : Query :=
  clauses.foldl insert empty

/-- Reads a clause: a key, the first `=` and the text of a value.  A clause without `=` is handed
back. -/
def readClause (cs : List Char) : Except String (String × Literal) :=
  match Text.cutFirst '=' cs with
  | some (key, value) => .ok (String.ofList key, Literal.ofChars value)
  | none => .error (String.ofList cs)

/-- The clauses of a query line. -/
def clauses (s : String) : List (List Char) :=
  if s.isEmpty then [] else Text.splitPair ',' ' ' s.toList

/-- Reads a query line; fails with the first clause that is not of the form `key=value`. -/
def read (s : String) : Except String Query :=
  ((clauses s).mapM readClause).map ofClauses

/-- The document with the fields of a query. -/
def toDocument (q : Query) : Document :=
  q.fields.map fun (k, v) => (k, v.toBson)

end Query
end DocLoad
