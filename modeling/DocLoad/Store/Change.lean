import DocLoad.Bson.Path
import DocLoad.Store.Filter

/-!
# DocLoad.Store.Change — updates and replacements of one document

`Document.update` sets the fields of a `$set` one after another.  `Document.replace` keeps the
`_id` and takes everything else from the replacement.  Both refuse to change an `_id`, and both
make a new document, so a failure leaves the old one as it was.
-/

namespace DocLoad

/-- The key of the identifier that every stored document has. -/
def idKey : String := "_id"

namespace Document

/-- The identifier of a document. -/
def id? (d : Document) : Option Bson :=
  Fields.get? idKey d

/-! ## Updates -/

/-- The fields that an update sets: its only key must be `$set`. -/
def setFields (update : Document) : Except StoreError Document :=
  match update with
  | [(key, value)] =>
    if key = "$set" then
      match value with
      | .document fields => .ok fields
      | _ => .error .setNotDocument
    else if isOperator key then .error (.updateOperator key)
    else .error .updateWithoutOperator
  | _ => .error .updateNotSingle

/-- Sets one field.  What lies at or below `_id` is only compared. -/
def updateField (d : Document) (field : String × Bson) : Except StoreError Document :=
  let path := Path.ofString field.1
  if path.first = idKey then
    match d.lookup? path with
    | some actual => if actual == field.2 then .ok d else .error .immutableId
    | none => .error .immutableId
  else
    match d.assign path field.2 with
    | .ok d => .ok d
    | .error segment => .error (.notNested path.leaf segment field.1)

/-- Sets fields in order. -/
def update (fields : Document) (d : Document) : Except StoreError Document :=
  fields.foldlM updateField d

/-! ## Replacements -/

/-- Refuses a replacement with an operator. -/
def checkReplacement (replacement : Document) : Except StoreError Unit :=
  match replacement.operator? with
  | some key => .error (.replacementOperator key)
  | none => .ok ()

/-- The fields of a document other than `_id`. -/
def withoutId (d : Document) : Document :=
  d.filter fun f => f.1 ≠ idKey

/-- The replacement with the identifier of the old document in front. -/
def replace (replacement : Document) (d : Document) : Except StoreError Document :=
  match d.id? with
  | none => .ok replacement.withoutId
  | some id =>
    match replacement.id? with
    | some newId => if newId == id then .ok ((idKey, id) :: replacement.withoutId)
      else .error .immutableId
    | none => .ok ((idKey, id) :: replacement.withoutId)

end Document
end DocLoad
