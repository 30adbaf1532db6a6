import DocLoad.Error
import DocLoad.Text.Split

/-!
# DocLoad.File.Tree — a listing of files

A `FileTree` lists the files and directories below a working directory by their paths.
`FileTree.read` follows a path one name at a time and gives the bytes of the file it ends at.
Nothing is known of the directories above, except that they are directories.
-/

namespace DocLoad

/-- A path with the bytes of a file, or with nothing for a directory. -/
structure FileTree where
  entries : List (List String × Option ByteArray)

namespace FileTree

/-- The names between the slashes of a path, without empty ones and `.`. -/
def names (path : String) : List String :=
  ((Text.splitChar '/' path.toList).map String.ofList).filter fun n => n ≠ "" ∧ n ≠ "."

/-- The listing of files with their bytes; a path that ends in a slash names a directory. -/
def ofList (files : List (String × ByteArray)) : FileTree :=
  ⟨files.map fun (path, bytes) =>
    (names path, if path.toList.getLast? = some '/' then none else some bytes)⟩

/-- What a sequence of names leads to. -/
inductive Node where
  | file (bytes : ByteArray)
  | directory

/-- The file or directory with the given names; a directory may be known from what is in it. -/
def node? (t : FileTree) (names : List String) : Option Node :=
  match t.entries.find? fun e => e.1 = names && e.2.isSome with
  | some (_, some bytes) => some (.file bytes)
  | _ => if t.entries.any fun e => names.isPrefixOf e.1 then some .directory else none

/-- Where a walk has come: in a directory below the working directory, or above it. -/
inductive Place where
  | below (names : List String)
  | above
deriving DecidableEq, Repr

/-- Follows the remaining names of a path. -/
def walk (t : FileTree) : Place → List String → Except ReadFailure ByteArray
  | _, [] => .error .isDirectory
  | place, name :: rest =>
    if name = "" ∨ name = "." then walk t place rest
    else if name = ".." then
      match place with
      | .below [] | .above => walk t .above rest
      | .below names => walk t (.below names.dropLast) rest
    else
      match place with
      | .above => .error .notFound
      | .below names =>
        match t.node? (names ++ [name]) with
        | none => .error .notFound
        | some .directory => walk t (.below (names ++ [name])) rest
        | some (.file bytes) => if rest.isEmpty then .ok bytes else .error .notDirectory

/-- The bytes of the file at a path. -/
def read (t : FileTree) (path : String) : Except ReadFailure ByteArray :=
  if path.toList.contains '\x00' then .error .nulInPath
  else if path.isEmpty then .error .notFound
  else
    let start := if path.toList.head? = some '/' then Place.above else .below []
    t.walk start ((Text.splitChar '/' path.toList).map String.ofList)

end FileTree
end DocLoad
