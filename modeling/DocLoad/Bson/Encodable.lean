import DocLoad.Bson.Basic

/-!
# DocLoad.Bson.Encodable — values with a binary form

In the binary form of a value, keys and the parts of regular expressions end at the first NUL
character, so a value in which one of these texts holds a NUL has no binary form.
-/

namespace DocLoad

/-- Whether a text can stand where a NUL ends it. -/
def isNulFree (s : String) : Bool :=
  !s.toList.contains '\x00'

namespace Bson

mutual
/-- Whether a value has a binary form. -/
def isEncodable : Bson → Bool
  | .array items => itemsEncodable items
  | .document fields => fieldsEncodable fields
  | .codeWithScope _ scope => fieldsEncodable scope
  | .regex pattern options => isNulFree pattern && isNulFree options
  | _ => true
/-- Whether every value of a list has a binary form. -/
def itemsEncodable : List Bson → Bool
  | [] => true
  | v :: vs => isEncodable v && itemsEncodable vs
/-- Whether every field of a list has a binary form. -/
def fieldsEncodable : List (String × Bson) → Bool
  | [] => true
  | (k, v) :: rest => isNulFree k && isEncodable v && fieldsEncodable rest
end

end Bson

/-- Whether a document has a binary form. -/
def Document.isEncodable (d : Document) : Bool :=
  Bson.fieldsEncodable d

end DocLoad
