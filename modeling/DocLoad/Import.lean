import DocLoad.Bson.Extended
import DocLoad.Error

/-!
# DocLoad.Import — the documents of an import file

An import file holds a JSON array whose elements stand for documents.  `Import.documents` gives all
of them in order or none: the first element that is not a document decides the failure.
-/

namespace DocLoad.Import

/-- How many arrays and objects may be open at once in a file. -/
def depthLimit : Nat := 127

/-- The document that one element of the array stands for. -/
def element (index : Nat) (j : Json) : Except FileError Document :=
  match Bson.ofJson? j with
  | some (.document d) => .ok d
  | some _ => .error (.notDocument index)
  | none => .error (.notExtended index)

/-- The documents of elements that are counted from `index`. -/
def elements (index : Nat) : List Json → Except FileError (List Document)
  | [] => .ok []
  | j :: js => do
    let d ← element index j
    let ds ← elements (index + 1) js
    return d :: ds

/-- The documents of the text of a file. -/
def documents (text : String) : Except FileError (List Document) :=
  match Json.read? depthLimit text with
  | none => .error .notJson
  | some (.array js) => elements 0 js
  | some _ => .error .notArray

/-- The documents of a file that was read, or the reason why it was not. -/
def ofBytes (content : Except ReadFailure ByteArray) : Except FileError (List Document) :=
  match content with
  | .error failure => .error (.unreadable failure)
  | .ok bytes =>
    match String.fromUTF8? bytes with
    | none => .error (.unreadable .notText)
    | some text => documents text

end DocLoad.Import
