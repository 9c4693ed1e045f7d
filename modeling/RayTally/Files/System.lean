import RayTally.Files.Path
import RayTally.Stream.Sink
import RayTally.Stream.Source
import RayTally.Table

/-!
# The file system

A tree of directories, regular files, links and devices, as a map from locations to what is there. A
location is the list of names that lead to it from the root.

What a file takes when it is written, and gives when it is read, is said by a sink and a source. The
largest size of a file may be limited; writing past it fails for want of space.

## Main results

* `FileSystem.node?_put`: what is put at a location is what is found there, and nothing else
  changes.
* `FileSystem.node?_erase`: what is erased is gone, and nothing else changes.
-/

namespace RayTally

/-- **Where something is** in the tree: the names that lead to it from the root. -/
abbrev Location := List Name

/-- A device that discards what is written, or one that has no space for it. -/
inductive Device
  | null
  | full
  deriving DecidableEq, Repr

/-- **What can be at a location**. -/
inductive Node
  | directory
  | file (content : Bytes)
  | link (target : Path)
  | device (d : Device)
  deriving DecidableEq, Repr

/-- A **tree of files**, with the directory where relative paths start and the largest size of a
file, if there is one. -/
structure FileSystem where
  nodes : Table Location Node
  workingDirectory : Location
  largestFile : Option Nat := none

namespace FileSystem

/-- What is at a location. The root is always a directory. -/
def node? (fs : FileSystem) (l : Location) : Option Node :=
  if l.isEmpty then some .directory else fs.nodes.lookup l

/-- Puts something at a location. -/
def put (fs : FileSystem) (l : Location) (n : Node) : FileSystem :=
  { fs with nodes := Table.insert fs.nodes l n }

/-- Takes away what is at a location. -/
def erase (fs : FileSystem) (l : Location) : FileSystem :=
  { fs with nodes := Table.erase fs.nodes l }

/-! ### Streams -/

/-- The sink that a file is. Its limit is the largest size of a file. -/
def sinkAt (fs : FileSystem) (l : Location) : Sink :=
  match fs.node? l with
  | some (.file content) =>
    { written := content, limit := fs.largestFile, whenFull := .fail (.system .noSpace) }
  | some (.device .full) => { limit := some 0, whenFull := .fail (.system .noSpace) }
  | _ => {}

/-- Keeps what a file has taken. Devices keep nothing. -/
def store (fs : FileSystem) (l : Location) (s : Sink) : FileSystem :=
  match fs.node? l with
  | some (.file _) => fs.put l (.file s.written)
  | _ => fs

/-- The source that a file is. Directories cannot be read, and devices are empty. -/
def sourceAt (fs : FileSystem) (l : Location) : Source :=
  match fs.node? l with
  | some (.file content) => { rest := content }
  | some .directory => { rest := [], fault := some (0, .system .isDirectory) }
  | _ => { rest := [] }

/-! ### Trees -/

/-- Adds directories on the way to a location. -/
def putDirectories (fs : FileSystem) (l : Location) : List Name → FileSystem
  | [] => fs
  | n :: ns =>
    let l := l ++ [n]
    let fs := if (fs.node? l).isSome then fs else fs.put l .directory
    fs.putDirectories l ns

/-- Puts something at a path that leads through no links, with the directories on the way. -/
def plant (fs : FileSystem) (p : Path) (n : Node) : FileSystem :=
  let start := if p.isAbsolute then [] else fs.workingDirectory
  (fs.putDirectories start p.names.dropLast).put (start ++ p.names) n

/-- The tree in which a program starts: the devices, and an empty working directory. -/
def initial (workingDirectory : Path) : FileSystem :=
  let fs : FileSystem := { nodes := [], workingDirectory := workingDirectory.names }
  ((fs.plant workingDirectory .directory).plant (.ofString "/dev/null") (.device .null)).plant
    (.ofString "/dev/full") (.device .full)

/-! ### Reading after writing -/

/-- **Finding after putting**. The root stays a directory. -/
theorem node?_put (fs : FileSystem) (l m : Location) (n : Node) :
    (fs.put l n).node? m = if m = l ∧ l ≠ [] then some n else fs.node? m := by
  cases m with
  | nil => simp +contextual [node?, eq_comm]
  | cons a m =>
    by_cases h : a :: m = l
    · subst h; simp [node?, put, Table.lookup_insert]
    · simp [node?, put, Table.lookup_insert, h]

/-- **Finding after erasing**. The root stays a directory. -/
theorem node?_erase (fs : FileSystem) (l m : Location) :
    (fs.erase l).node? m = if m = l ∧ l ≠ [] then none else fs.node? m := by
  cases m with
  | nil => simp +contextual [node?, eq_comm]
  | cons a m =>
    by_cases h : a :: m = l
    · subst h; simp [node?, erase, Table.lookup_erase]
    · simp [node?, erase, Table.lookup_erase, h]

end FileSystem

end RayTally
