/-!
# File trees

The files and directories that a run can see, as a plain value: a tree below one root, and the
directory in it that a run works in. A path is followed from the root if it starts with a slash,
else from the working directory. There are no links, and every file may be read and written.
-/

namespace Brickwork.CommandLine

/-- Why a file cannot be used. -/
inductive FileError where
  | notFound
  | notDirectory
  | isDirectory
  | nameTooLong
deriving DecidableEq, Inhabited

/-- The error in words. -/
def FileError.message : FileError → String
  | notFound => "No such file or directory (os error 2)"
  | notDirectory => "Not a directory (os error 20)"
  | isDirectory => "Is a directory (os error 21)"
  | nameTooLong => "File name too long (os error 36)"

/-- A file with its bytes, or a directory. -/
inductive Node where
  | file (bytes : List UInt8)
  | directory
deriving DecidableEq, Inhabited

/-- The names on the way from the root. -/
abbrev Path := List String

/-- Files and directories below the root, and the directory that a run works in. -/
structure FileTree where
  nodes : List (Path × Node) := []
  working : Path := []
deriving DecidableEq, Inhabited

namespace FileTree

/-- What is at a place. The working directory is there, with all directories on the way to it. -/
def node? (tree : FileTree) (place : Path) : Option Node :=
  if tree.working.take place.length = place then some .directory else tree.nodes.lookup place

/-- Puts a node at a place. -/
def insert (tree : FileTree) (place : Path) (node : Node) : FileTree :=
  let nodes :=
    if tree.nodes.any fun entry => entry.1 = place then
      tree.nodes.map fun entry => if entry.1 = place then (place, node) else entry
    else tree.nodes ++ [(place, node)]
  { tree with nodes }

/-- Splits a path at its slashes. -/
def parts : List Char → List (List Char)
  | [] => [[]]
  | c :: cs =>
    if c = '/' then [] :: parts cs
    else
      match parts cs with
      | part :: rest => (c :: part) :: rest
      | [] => [[c]]

/-- The most bytes that a name may have. -/
def maxName : Nat := 255

/-- The most bytes that a path may have. -/
def maxPath : Nat := 4095

/-- Why there is nothing of a name. -/
def absence (name : String) : FileError :=
  if maxName < name.utf8ByteSize then .nameTooLong else .notFound

/-- Follows the parts of a path from a directory. All but the last have to lead to directories. Two
dots lead to the directory above, and at the root to the root. -/
def walk (tree : FileTree) (directory : Path) : List String → Except FileError Path
  | [] => .ok directory
  | part :: rest =>
    if part = "" ∨ part = "." then tree.walk directory rest
    else if part = ".." then tree.walk directory.dropLast rest
    else if rest.isEmpty then .ok (directory ++ [part])
    else
      match tree.node? (directory ++ [part]) with
      | some .directory => tree.walk (directory ++ [part]) rest
      | some (.file _) => .error .notDirectory
      | none => .error (absence part)

/-- The place that a path leads to, whether or not something is there. -/
def locate (tree : FileTree) (path : String) : Except FileError Path :=
  match path.toList with
  | [] => .error .notFound
  | '/' :: chars => tree.walk [] ((parts chars).map String.ofList)
  | chars => tree.walk tree.working ((parts chars).map String.ofList)

/-- What a path leads to. -/
def find (tree : FileTree) (path : String) : Except FileError Node :=
  if maxPath < path.utf8ByteSize then .error .nameTooLong
  else
    match tree.locate path with
    | .ok place =>
      match tree.node? place with
      | some node => .ok node
      | none => .error (absence (place.getLastD ""))
    | .error error => .error error

/-- A path without slashes at its end, the first character apart. -/
def withoutSlashes (path : String) : String :=
  match path.toList with
  | [] => ""
  | c :: cs => String.ofList (c :: (cs.reverse.dropWhile fun c => c = '/').reverse)

/-- The tree with a file written. A path that ends in a slash can only name a directory. -/
def write (tree : FileTree) (path : String) (bytes : List UInt8) : Except FileError FileTree :=
  if maxPath < path.utf8ByteSize then .error .nameTooLong
  else
    match tree.locate (withoutSlashes path) with
    | .ok place =>
      if tree.node? place = some .directory ∨ withoutSlashes path ≠ path then .error .isDirectory
      else if maxName < (place.getLastD "").utf8ByteSize then .error .nameTooLong
      else .ok (tree.insert place (.file bytes))
    | .error error => .error error

end FileTree

end Brickwork.CommandLine
