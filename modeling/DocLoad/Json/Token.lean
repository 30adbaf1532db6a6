import DocLoad.Json.Number
import DocLoad.Text.Digits

/-!
# DocLoad.Json.Token — the words of a JSON text

`tokens?` cuts a text into punctuation, literals, numbers and strings and drops the white space
between them.  Strings are read in two steps: `body` finds the closing quote, then `pieces`
replaces the escapes and `join` unites surrogate pairs; a lone surrogate has no meaning and makes
the text invalid, as does a raw control character.
-/

namespace DocLoad.Json

/-- A word of a JSON text. -/
inductive Token where
  | leftBrace
  | rightBrace
  | leftBracket
  | rightBracket
  | colon
  | comma
  | null
  | boolean (b : Bool)
  | number (n : Number)
  | string (s : String)
deriving DecidableEq, Repr

/-! ## Strings -/

/-- A piece of a string: a character, or a 16-bit unit written by its number. -/
inductive Piece where
  | char (c : Char)
  | unit (n : Nat)
deriving DecidableEq, Repr

/-- The character that a one-letter escape stands for. -/
def escaped : Char → Option Char
  | '"' => some '"'
  | '\\' => some '\\'
  | '/' => some '/'
  | 'b' => some '\x08'
  | 'f' => some '\x0c'
  | 'n' => some '\n'
  | 'r' => some '\r'
  | 't' => some '\t'
  | _ => none

/-- The text before the closing quote, with its escapes, and the text behind it. -/
def body : List Char → Option (List Char × List Char)
  | [] => none
  | '"' :: cs => some ([], cs)
  | '\\' :: c :: cs => (body cs).map fun (s, rest) => ('\\' :: c :: s, rest)
  | c :: cs => if c.toNat < 0x20 then none else (body cs).map fun (s, rest) => (c :: s, rest)

/-- The pieces that a string body is made of. -/
def pieces : List Char → Option (List Piece)
  | [] => some []
  | '\\' :: 'u' :: a :: b :: c :: d :: cs => do
    let n ← Text.hexNumber [a, b, c, d]
    return .unit n :: (← pieces cs)
  | '\\' :: c :: cs => do
    let c ← escaped c
    return .char c :: (← pieces cs)
  | ['\\'] => none
  | c :: cs => (pieces cs).map (.char c :: ·)

/-- The characters of a string: a high surrogate and the low one behind it make one character. -/
def join : List Piece → Option (List Char)
  | [] => some []
  | .char c :: ps => (join ps).map (c :: ·)
  | .unit h :: .unit l :: ps =>
    if 0xD800 ≤ h ∧ h < 0xDC00 then
      if 0xDC00 ≤ l ∧ l < 0xE000 then
        (join ps).map (Char.ofNat (0x10000 + (h - 0xD800) * 0x400 + (l - 0xDC00)) :: ·)
      else none
    else if 0xDC00 ≤ h ∧ h < 0xE000 then none
    else (join (.unit l :: ps)).map (Char.ofNat h :: ·)
  | .unit n :: ps =>
    if 0xD800 ≤ n ∧ n < 0xE000 then none else (join ps).map (Char.ofNat n :: ·)

/-- Reads the rest of a string whose opening quote has been read. -/
def readString (cs : List Char) : Option (String × List Char) := do
  let (s, rest) ← body cs
  let chars ← join (← pieces s)
  return (String.ofList chars, rest)

/-! ## Texts -/

/-- The white space of JSON. -/
def isSpace (c : Char) : Bool :=
  c == ' ' || c == '\t' || c == '\n' || c == '\r'

/-- Reads one word from a text that starts with it. -/
def readToken : List Char → Option (Token × List Char)
  | '\x7b' :: cs => some (.leftBrace, cs)
  | '\x7d' :: cs => some (.rightBrace, cs)
  | '[' :: cs => some (.leftBracket, cs)
  | ']' :: cs => some (.rightBracket, cs)
  | ':' :: cs => some (.colon, cs)
  | ',' :: cs => some (.comma, cs)
  | 'n' :: 'u' :: 'l' :: 'l' :: cs => some (.null, cs)
  | 't' :: 'r' :: 'u' :: 'e' :: cs => some (.boolean true, cs)
  | 'f' :: 'a' :: 'l' :: 's' :: 'e' :: cs => some (.boolean false, cs)
  | '"' :: cs => (readString cs).map fun (s, rest) => (.string s, rest)
  | cs => (Number.read cs).map fun (n, rest) => (.number n, rest)

/-- The words of a text, in reverse behind those already found.  Every word takes at least one
character, so the length of the text is fuel enough. -/
def tokensFrom : (fuel : Nat) → (found : List Token) → List Char → Option (List Token)
  | fuel, found, cs =>
    match cs.dropWhile isSpace with
    | [] => some found.reverse
    | cs =>
      match fuel with
      | 0 => none
      | fuel + 1 =>
        match readToken cs with
        | some (t, rest) => tokensFrom fuel (t :: found) rest
        | none => none

/-- The words of a text. -/
def tokens? (cs : List Char) : Option (List Token) :=
  tokensFrom cs.length [] cs

end DocLoad.Json
