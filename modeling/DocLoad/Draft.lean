import DocLoad.Text.Cluster

/-!
# DocLoad.Draft — a line while it is typed

A line is typed cluster by cluster, and a backspace takes the last cluster back.  `Draft.settle`
is the text that is left at the end of a line.
-/

namespace DocLoad

/-- What has been typed and not taken back, the last one first. -/
structure Draft where
  chars : List Char
  /-- The bytes in each cluster.  A size is a single byte, so a cluster of 256 bytes counts as
  empty. -/
  sizes : List UInt8
deriving DecidableEq, Repr

namespace Draft

/-- Nothing typed yet. -/
def empty : Draft :=
  ⟨[], []⟩

/-- The character that takes back what is before it. -/
def backspace : Char :=
  '\x08'

/-- The number of bytes that characters take up. -/
def size : List Char → Nat
  | [] => 0
  | c :: cs => c.utf8Size + size cs

/-- The characters left when as many as take up `n` bytes go; nothing if that would cut one. -/
def drop? : (n : Nat) → List Char → Option (List Char)
  | 0, cs => some cs
  | _ + 1, [] => none
  | n + 1, c :: cs => if c.utf8Size ≤ n + 1 then drop? (n + 1 - c.utf8Size) cs else none

/-- Takes the last cluster back. -/
def erase? (d : Draft) : Option Draft :=
  match d.sizes with
  | [] => some d
  | n :: sizes => (drop? n.toNat d.chars).map fun cs => ⟨cs, sizes⟩

/-- Types one cluster. -/
def type? (d : Draft) (cluster : List Char) : Option Draft :=
  if cluster = [backspace] then d.erase?
  else some ⟨cluster.reverse ++ d.chars, UInt8.ofNat (size cluster) :: d.sizes⟩

/-- The text that is left of a line; nothing if a character would be cut. -/
def settle (line : String) : Option String :=
  ((Text.clusters line.toList).foldlM type? empty).map fun d => String.ofList d.chars.reverse

end Draft
end DocLoad
