import DialogueScript.Text.Basic

/-!
# Files and directories

A disk reads files and lists directories by path, or says why it cannot.  A file tree is a disk in
memory: the files below a working directory by their path components, and directories that may be
empty.
-/

namespace DialogueScript

inductive ReadFailure where
  | notFound
  | notADirectory
  | isADirectory
  | notText
  | other (message : Text)
deriving Repr, DecidableEq

def ReadFailure.message : ReadFailure → Text
  | .notFound => "No such file or directory (os error 2)".toList
  | .notADirectory => "Not a directory (os error 20)".toList
  | .isADirectory => "Is a directory (os error 21)".toList
  | .notText => "stream did not contain valid UTF-8".toList
  | .other message => message

/-- The name of an entry of a directory, and whether it is a file. -/
structure DirectoryEntry where
  name : Text
  isFile : Bool
deriving Repr, DecidableEq

structure Disk where
  read : Text → Except ReadFailure ByteArray
  list : Text → Except ReadFailure (List DirectoryEntry)
  isDirectory : Text → Bool

namespace Disk

/-- A file as text. -/
def readText (disk : Disk) (path : Text) : Except ReadFailure Text := do
  match String.fromUTF8? (← disk.read path) with
  | some text => pure text.toList
  | none => throw .notText

/-- The path of an entry of a directory. -/
def entryPath (directory name : Text) : Text :=
  if directory.getLast? = some '/' then directory ++ name else directory ++ '/' :: name

/-- What follows the last dot of a file name, unless nothing comes before it. -/
def extension? (name : Text) : Option Text :=
  let reversed := name.reverse
  match reversed.dropWhile (· ≠ '.') with
  | [] | [_] => none
  | _ => some (reversed.takeWhile (· ≠ '.')).reverse

end Disk

structure FileTree where
  files : List (List Text × ByteArray) := []
  directories : List (List Text) := []

namespace FileTree

inductive Node where
  | file (content : ByteArray)
  | directory

/-- The components of a path as it is written. -/
def components (path : Text) : List Text :=
  Text.split (· = '/') path

/-- Where a component of a path leads from a place. -/
def step (place : List Text) (part : Text) : List Text :=
  if part.isEmpty || part = ['.'] then place
  else if part = ['.', '.'] then place.dropLast
  else place ++ [part]

/-- Add a file, or a directory when the path ends in a slash; a file takes the place of another
one. -/
def add (tree : FileTree) (path : Text) (content : ByteArray) : FileTree :=
  let place := (components path).foldl step []
  if path.getLast? = some '/' then { tree with directories := tree.directories ++ [place] }
  else { tree with files := (place, content) :: tree.files }

def node? (tree : FileTree) (place : List Text) : Option Node :=
  match tree.files.lookup place with
  | some content => some (.file content)
  | none =>
    let known := tree.directories ++ tree.files.map (·.1)
    if place.isEmpty || known.any place.isPrefixOf then some .directory else none

/-- Follow the components of a path to the place it names and what stands there; each component
but the last has to lead to a directory. -/
def follow (tree : FileTree) (place : List Text) :
    List Text → Except ReadFailure (List Text × Node)
  | [] =>
    match tree.node? place with
    | some node => .ok (place, node)
    | none => .error .notFound
  | part :: parts =>
    match tree.node? place with
    | none => .error .notFound
    | some (.file _) => .error .notADirectory
    | some .directory => follow tree (step place part) parts

def find (tree : FileTree) (path : Text) : Except ReadFailure (List Text × Node) :=
  if path.isEmpty || path.head? = some '/' then .error .notFound
  else tree.follow [] (components path)

/-- The components of a path below a place. -/
def below (place path : List Text) : List Text :=
  if place.isPrefixOf path then path.drop place.length else []

def entryOfFile? (place path : List Text) : Option DirectoryEntry :=
  match below place path with
  | [] => none
  | [name] => some { name, isFile := true }
  | name :: _ => some { name, isFile := false }

def entryOfDirectory? (place path : List Text) : Option DirectoryEntry :=
  (below place path).head?.map fun name => { name, isFile := false }

/-- The entries right below a place. -/
def entries (tree : FileTree) (place : List Text) : List DirectoryEntry :=
  let files := tree.files.filterMap fun (path, _) => entryOfFile? place path
  (files ++ tree.directories.filterMap (entryOfDirectory? place)).eraseDups

def disk (tree : FileTree) : Disk where
  read path := do
    match ← tree.find path with
    | (_, .file content) => pure content
    | (_, .directory) => throw .isADirectory
  list path := do
    match ← tree.find path with
    | (_, .file _) => throw .notADirectory
    | (place, .directory) => pure (tree.entries place)
  isDirectory path :=
    match tree.find path with
    | .ok (_, .directory) => true
    | _ => false

end FileTree

end DialogueScript
