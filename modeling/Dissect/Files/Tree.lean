import Dissect.Files.Error
import Dissect.Path

/-!
# Directory trees

A directory tree in memory with the operations that the command line needs. Paths are followed
name by name: all names but the last have to lead to directories, `.` stays and `..` goes up.
-/

set_option autoImplicit false

namespace Dissect.Files

/-- What a name stands for. -/
inductive Node where
  | file (contents : ByteArray)
  | directory (entries : List (String × Node))

namespace Node

/-- A directory with nothing in it. -/
def emptyDirectory : Node := .directory []

/-- What a name stands for in a directory. -/
def child? : Node → String → Option Node
  | .file _, _ => none
  | .directory entries, name => entries.lookup name

/-- Gives a name in a directory a meaning, in place of the one that it had. -/
def setChild : Node → String → Node → Node
  | .file contents, _, _ => .file contents
  | .directory entries, name, node =>
    .directory ((name, node) :: entries.filter fun e => e.1 ≠ name)

/-- What is reached by names, one after the other. -/
def get? : Node → List String → Option Node
  | node, [] => some node
  | node, name :: rest => (node.child? name).bind fun child => child.get? rest

/-- Puts something where names lead. Directories that are missing on the way are made. -/
def put (node : Node) : List String → Node → Node
  | [], new => new
  | name :: rest, new =>
    node.setChild name (((node.child? name).getD emptyDirectory).put rest new)

mutual

/-- All files, with the names that lead to them. -/
def files : Node → List (List String × ByteArray)
  | .file contents => [([], contents)]
  | .directory entries => filesAmong entries

/-- All files among the entries of a directory. -/
def filesAmong : List (String × Node) → List (List String × ByteArray)
  | [] => []
  | (name, node) :: rest => node.files.map (fun f => (name :: f.1, f.2)) ++ filesAmong rest

end

end Node

/-- A directory tree: its root, and where paths start that do not start there. -/
structure Tree where
  root : Node
  workingDirectory : List String

/-- The longest name of an entry, in bytes. -/
def longestName : Nat := 255

/-- The longest path, in bytes. -/
def longestPath : Nat := 4095

/-- The names that a path consists of. -/
def names (path : String) : List String := (path.splitOn "/").filter fun n => !n.isEmpty

/-- The directories from the root to a place, innermost first and without the root. -/
abbrev Trail := List (String × Node)

/-- The names that lead from the root along a trail. -/
def Trail.names (trail : Trail) : List String := trail.reverse.map fun step => step.1

/-- Where a path leads: a place, and what is there. -/
structure Target where
  place : List String
  node? : Option Node

namespace Tree

/-- The directory at the end of a trail. -/
def ending (t : Tree) : Trail → Node
  | [] => t.root
  | (_, node) :: _ => node

/-- Why nothing has a name. -/
def absence (name : String) : FileError :=
  if longestName < name.utf8ByteSize then .nameTooLong else .notFound

/-- Goes on through directories. -/
def enter (t : Tree) (trail : Trail) : List String → Except FileError Trail
  | [] => .ok trail
  | name :: rest =>
    if name = "." then t.enter trail rest
    else if name = ".." then t.enter trail.tail rest
    else
      match (t.ending trail).child? name with
      | none => .error (absence name)
      | some (.file _) => .error .notADirectory
      | some directory => t.enter ((name, directory) :: trail) rest

/-- Where a name leads from the end of a trail. -/
def target (t : Tree) (trail : Trail) (name : String) : Except FileError Target :=
  if name = "." then .ok ⟨trail.names, some (t.ending trail)⟩
  else if name = ".." then .ok ⟨Trail.names trail.tail, some (t.ending trail.tail)⟩
  else
    match (t.ending trail).child? name with
    | some node => .ok ⟨trail.names ++ [name], some node⟩
    | none =>
      if longestName < name.utf8ByteSize then .error .nameTooLong
      else .ok ⟨trail.names ++ [name], none⟩

/-- The trail on which a path starts. -/
def origin (t : Tree) (path : String) : Except FileError Trail :=
  if Path.isAbsolute path then .ok [] else t.enter [] t.workingDirectory

/-- Where a path leads. -/
def locate (t : Tree) (path : String) : Except FileError Target :=
  if path.toList.contains '\x00' then .error .zeroByte
  else if longestPath < path.utf8ByteSize then .error .nameTooLong
  else do
    let trail ← t.enter (← t.origin path) (names path).dropLast
    t.target trail ((names path).getLast?.getD ".")

/-- The text of a file. -/
def readText (t : Tree) (path : String) : Except FileError String :=
  match t.locate path with
  | .error e => .error e
  | .ok ⟨_, none⟩ => .error .notFound
  | .ok ⟨_, some (.directory _)⟩ => .error .isADirectory
  | .ok ⟨_, some (.file contents)⟩ =>
    if path.toList.getLast? = some '/' then .error .notADirectory
    else
      match String.fromUTF8? contents with
      | some text => .ok text
      | none => .error .notText

/-- Writes a file, in place of the one that was there. -/
def writeText (t : Tree) (path text : String) : Except FileError Unit × Tree :=
  match t.locate path with
  | .error e => (.error e, t)
  | .ok ⟨_, some (.directory _)⟩ => (.error .isADirectory, t)
  | .ok ⟨place, _⟩ => (.ok (), { t with root := t.root.put place (.file text.toUTF8) })

/-- Makes a directory in one that is there. -/
def makeDirectory (t : Tree) (path : String) : Except FileError Unit × Tree :=
  match t.locate path with
  | .error e => (.error e, t)
  | .ok ⟨_, some _⟩ => (.error .alreadyExists, t)
  | .ok ⟨place, none⟩ => (.ok (), { t with root := t.root.put place .emptyDirectory })

end Tree

end Dissect.Files
