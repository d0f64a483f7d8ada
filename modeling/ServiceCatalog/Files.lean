/-!
# Files

What a run sees of the file system: reading a path gives the octets of a file or the reason why there are none. A tree
of entries is read as an absolute path leads through it; directories in front of an entry are there.
-/

namespace ServiceCatalog

/-- Why a file cannot be read. -/
inductive Files.Error where
  | notFound
  | notDirectory
  | isDirectory
  | nulInPath
  | other (text : String)
deriving DecidableEq, Repr

/-- What the user is told about a file that cannot be read. -/
def Files.Error.message : Files.Error → String
  | notFound => "No such file or directory (os error 2)"
  | notDirectory => "Not a directory (os error 20)"
  | isDirectory => "Is a directory (os error 21)"
  | nulInPath => "file name contained an unexpected NUL byte"
  | other text => text

/-- The file system as it is read. -/
structure Files where
  read : String → Except Files.Error (List UInt8)

namespace Files

/-- A file system without files. -/
def none : Files := ⟨fun _ => .error .notFound⟩

/-- Whether something is there under a path. -/
def exists? (files : Files) (path : String) : Bool :=
  match files.read path with
  | .ok _ => true
  | .error .isDirectory => true
  | .error (.other _) => true
  | .error _ => false

/-- A file, or a directory with nothing else in it. -/
inductive Entry where
  | file (octets : List UInt8)
  | directory

/-- The names on a path, without those that lead nowhere. -/
def names (path : String) : List String := (path.splitOn "/").filter fun name => name ≠ "" ∧ name ≠ "."

/-- Entries under the names that lead to them. -/
structure Tree where
  entries : List (List String × Entry)

/-- What a path of names leads to in a tree, if anything. -/
def Tree.find? (tree : Tree) (place : List String) : Option Entry :=
  match tree.entries.lookup place with
  | some entry => some entry
  | Option.none => if tree.entries.any fun e => place.isPrefixOf e.1 then some .directory else Option.none

/-- Follows names from a directory; two dots lead back. -/
def Tree.follow (tree : Tree) (place : List String) : List String → Except Error (List String × Entry)
  | [] => .ok (place, .directory)
  | name :: rest =>
    let next := if name = ".." then place.dropLast else place ++ [name]
    match tree.find? next, rest with
    | Option.none, _ => .error .notFound
    | some .directory, rest => tree.follow next rest
    | some (.file octets), [] => .ok (next, .file octets)
    | some (.file _), _ => .error .notDirectory

/-- Reads a path in a tree. A slash at the end asks for a directory, and paths that are not absolute lead nowhere. -/
def Tree.read (tree : Tree) (path : String) : Except Error (List UInt8) :=
  if path.contains '\x00' then .error .nulInPath
  else if !path.startsWith "/" then .error .notFound
  else match tree.follow [] (names path) with
    | .error e => .error e
    | .ok (_, .directory) => .error .isDirectory
    | .ok (_, .file octets) => if path.endsWith "/" || path.endsWith "/." then .error .notDirectory else .ok octets

/-- The file system that a tree is. -/
def ofTree (tree : Tree) : Files := ⟨tree.read⟩

end Files

end ServiceCatalog
