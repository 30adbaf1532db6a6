import DocLoad.Fields
import DocLoad.Json.Token

/-!
# DocLoad.Json.Value — JSON values

`Json.read?` reads a text that is one JSON value.  Of several members with one key the last
counts, in the position of the first.  The reader takes one word at a time and keeps the open
arrays and objects on a stack, whose height may not exceed a limit.
-/

namespace DocLoad

/-- A JSON value. -/
inductive Json where
  | null
  | boolean (b : Bool)
  | number (n : Json.Number)
  | string (s : String)
  | array (items : List Json)
  | object (members : List (String × Json))
deriving Repr, Inhabited

namespace Json

/-- An array or object that is still open, with its finished contents in reverse. -/
inductive Frame where
  | items (found : List Json)
  | members (found : List (String × Json)) (key : String)

/-- What has been read and what may come next. -/
inductive Reader where
  /-- A value must come; `mayClose` if the array around it was just opened. -/
  | value (mayClose : Bool) (outer : List Frame)
  /-- A key must come; `mayClose` if the object around it was just opened. -/
  | key (mayClose : Bool) (found : List (String × Json)) (outer : List Frame)
  /-- A colon must come. -/
  | colon (found : List (String × Json)) (key : String) (outer : List Frame)
  /-- A comma or the end of an array must come. -/
  | nextItem (found : List Json) (outer : List Frame)
  /-- A comma or the end of an object must come. -/
  | nextMember (found : List (String × Json)) (outer : List Frame)
  /-- Nothing may come any more. -/
  | finished (v : Json)

namespace Reader

/-- Puts a finished value where it belongs. -/
def complete (v : Json) : List Frame → Reader
  | [] => .finished v
  | .items found :: outer => .nextItem (v :: found) outer
  | .members found k :: outer => .nextMember ((k, v) :: found) outer

/-- Ends an array. -/
def closeArray (found : List Json) (outer : List Frame) : Reader :=
  complete (.array found.reverse) outer

/-- Ends an object. -/
def closeObject (found : List (String × Json)) (outer : List Frame) : Reader :=
  complete (.object (Fields.ofList found.reverse)) outer

/-- Takes one word; at most `limit` arrays and objects may be open at once. -/
def step (limit : Nat) : Reader → Token → Option Reader
  | .value mayClose outer, t =>
    match t with
    | .null => some (complete .null outer)
    | .boolean b => some (complete (.boolean b) outer)
    | .number n => some (complete (.number n) outer)
    | .string s => some (complete (.string s) outer)
    | .leftBracket =>
      if outer.length < limit then some (.value true (.items [] :: outer)) else none
    | .leftBrace => if outer.length < limit then some (.key true [] outer) else none
    | .rightBracket =>
      match mayClose, outer with
      | true, .items found :: outer => some (closeArray found outer)
      | _, _ => none
    | _ => none
  | .key mayClose found outer, t =>
    match t with
    | .string k => some (.colon found k outer)
    | .rightBrace => if mayClose then some (closeObject found outer) else none
    | _ => none
  | .colon found k outer, t =>
    match t with
    | .colon => some (.value false (.members found k :: outer))
    | _ => none
  | .nextItem found outer, t =>
    match t with
    | .comma => some (.value false (.items found :: outer))
    | .rightBracket => some (closeArray found outer)
    | _ => none
  | .nextMember found outer, t =>
    match t with
    | .comma => some (.key false found outer)
    | .rightBrace => some (closeObject found outer)
    | _ => none
  | .finished _, _ => none

end Reader

/-- The value that a sequence of words writes. -/
def ofTokens? (limit : Nat) (ts : List Token) : Option Json :=
  match ts.foldlM (Reader.step limit) (.value false []) with
  | some (.finished v) => some v
  | _ => none

/-- The value that a text writes, with at most `limit` arrays and objects around any part. -/
def read? (limit : Nat) (s : String) : Option Json :=
  (tokens? s.toList).bind (ofTokens? limit)

end Json
end DocLoad
