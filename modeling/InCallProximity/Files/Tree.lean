import InCallProximity.Files.Content
import InCallProximity.Files.Path

/-!
# File trees

Files in folders, and what comes of reading a path. A path is followed component by component from
the root of the tree; what is above the root is an empty folder.
-/

namespace InCallProximity

/-- A file with its bytes, or a folder with what it holds. The first of two entries with one name
counts. -/
inductive FileTree where
  | file (bytes : ByteArray)
  | folder (entries : List (String × FileTree))

namespace FileTree

/-- A folder that holds nothing. -/
def empty : FileTree := .folder []

/-- What has a name among the entries of a folder. -/
def child? (name : String) (entries : List (String × FileTree)) : Option FileTree :=
  (entries.find? (·.1 = name)).map (·.2)

/-- The entries of a folder; a file has none. -/
def entries : FileTree → List (String × FileTree)
  | .file _ => []
  | .folder entries => entries

/-- Puts something at the end of a chain of folders, which are made where they are missing. A folder
that is already there is kept with its entries. -/
def put (leaf : FileTree) : List String → FileTree → FileTree
  | [], node =>
    match leaf, node with
    | .folder [], .folder entries => .folder entries
    | _, _ => leaf
  | name :: rest, node =>
    let child := (child? name node.entries).getD empty
    .folder ((name, put leaf rest child) :: node.entries.filter (·.1 ≠ name))

/-- The names on the way to a path. -/
def names (path : String) : List String := (Path.components path.toList).map String.ofList

/-- The names on the way to a path that goes down only. -/
def way (path : String) : List String := (names path).filter fun name => name ≠ "" && name ≠ "."

/-- Puts a file at a path, with the folders on the way to it. -/
def insertFile (tree : FileTree) (path : String) (bytes : ByteArray) : FileTree :=
  put (.file bytes) (way path) tree

/-- Puts a folder at a path, with the folders on the way to it. -/
def insertFolder (tree : FileTree) (path : String) : FileTree :=
  put empty (way path) tree

/-! ## Reading -/

/-- How many bytes a name may have. -/
def longestName : Nat := 255

/-- How many bytes a path may have. -/
def longestPath : Nat := 4095

/-- Follows names from a folder, given the folders above it. Whatever is followed further has to be
a folder, even if the next name is empty. -/
def follow (above : List FileTree) (node : FileTree) : List String → Except ReadFailure FileTree
  | [] => .ok node
  | name :: rest =>
    match node with
    | .file _ => .error .notFolder
    | .folder entries =>
      if name = "" ∨ name = "." then follow above node rest
      else if name = ".." then
        match above with
        | parent :: above => follow above parent rest
        | [] => follow [] empty rest
      else if longestName < name.utf8ByteSize then .error .nameTooLong
      else match child? name entries with
        | some child => follow (node :: above) child rest
        | none => .error .missing

/-- Reads the file at a path. The name is judged before the way to the file is, and a folder has no
bytes. -/
def read (tree : FileTree) (path : String) : FileContent :=
  if '\x00' ∈ path.toList then .error .badName
  else if longestPath < path.utf8ByteSize then .error .nameTooLong
  else match follow [] tree (names path) with
    | .error failure => .error failure
    | .ok (.file bytes) => .ok bytes
    | .ok (.folder _) => .error .isFolder

end FileTree

end InCallProximity
