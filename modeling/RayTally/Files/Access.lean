import RayTally.Files.Resolution

/-!
# Access to files

Opening, reading, writing, creating and removing by path. What fails to open leaves the tree as it
is.
-/

namespace RayTally.FileSystem

/-! ### Reading -/

/-- Opens a file to read it. A directory can be opened, but not read. -/
def openToRead (fs : FileSystem) (p : Path) : Except Failure Source :=
  (fs.resolve .read p).map fs.sourceAt

/-- The **content of a file**. -/
def readFile (fs : FileSystem) (p : Path) : Except Failure Bytes :=
  match fs.openToRead p with
  | .ok s => s.allBytes
  | .error e => .error e

/-! ### Writing -/

/-- Makes a location an empty file, unless a device is there. -/
def truncate (fs : FileSystem) (l : Location) : FileSystem :=
  match fs.node? l with
  | some (.device _) => fs
  | _ => fs.put l (.file [])

/-- Opens a file to write it from the start: what it held is gone. -/
def create (fs : FileSystem) (p : Path) : Except Failure Location × FileSystem :=
  match fs.resolve .create p with
  | .ok l => (.ok l, fs.truncate l)
  | .error e => (.error e, fs)

/-- Opens a file to write behind its end. -/
def openToAppend (fs : FileSystem) (p : Path) : Except Failure Location × FileSystem :=
  match fs.resolve .create p with
  | .ok l => (.ok l, if (fs.node? l).isSome then fs else fs.put l (.file []))
  | .error e => (.error e, fs)

/-- Writes bytes behind the end of the file at a location. -/
def append (fs : FileSystem) (l : Location) (bs : Bytes) : Except Failure Unit × FileSystem :=
  let (r, s) := (fs.sinkAt l).writeAll bs
  (r, fs.store l s)

/-- Makes a file with a given content. -/
def writeFile (fs : FileSystem) (p : Path) (bs : Bytes) : Except Failure Unit × FileSystem :=
  match fs.create p with
  | (.ok l, fs) => fs.append l bs
  | (.error e, fs) => (.error e, fs)

/-! ### Entries of directories -/

/-- An entry that a path names: the directory that holds it and its name. -/
structure Entry where
  directory : Location
  name : Name

/-- The location of an entry. -/
def Entry.location (e : Entry) : Location := e.directory ++ [e.name]

/-- The entry that a path names, without following a link at its end; `none` if the path ends in no
name of its own. -/
def entryOf (fs : FileSystem) (p : Path) : Except Failure (Option Entry) :=
  match refusal? p with
  | some e => .error e
  | none =>
    match fs.follow .read linkBudget true (fs.startOf p) p.names.dropLast with
    | .error e => .error (.system e)
    | .ok l =>
      match p.names.getLast? with
      | none => .ok none
      | some n =>
        if n = Path.here ∨ n = Path.above then .ok none
        else if longestName < n.length then .error (.system .nameTooLong)
        else .ok (some ⟨l, n⟩)

/-- Removes a file or a link. Gives the location of what was removed. -/
def removeFile (fs : FileSystem) (p : Path) : Except Failure Location × FileSystem :=
  match fs.entryOf p with
  | .error e => (.error e, fs)
  | .ok none => (.error (.system .isDirectory), fs)
  | .ok (some e) =>
    match fs.node? e.location with
    | none => (.error (.system .notFound), fs)
    | some .directory => (.error (.system .isDirectory), fs)
    | some _ =>
      if p.endsInSlash then (.error (.system .notDirectory), fs)
      else (.ok e.location, fs.erase e.location)

/-- Makes a directory. -/
def makeDirectory (fs : FileSystem) (p : Path) : Except Failure Unit × FileSystem :=
  match fs.entryOf p with
  | .error e => (.error e, fs)
  | .ok none => (.error (.system .alreadyExists), fs)
  | .ok (some e) =>
    if (fs.node? e.location).isSome then (.error (.system .alreadyExists), fs)
    else (.ok (), fs.put e.location .directory)

/-- The names from one location to another below it. -/
def below? (l : Location) (m : Location) : Option (List Name) :=
  if l.isPrefixOf m && l.length < m.length then some (m.drop l.length) else none

/-- The order of byte sequences. -/
def bytesLe (a b : Bytes) : Bool :=
  match a, b with
  | [], _ => true
  | _ :: _, [] => false
  | x :: xs, y :: ys => if x = y then bytesLe xs ys else x < y

/-- The paths of everything below the working directory, in order; those of directories end in a
slash. -/
def listing (fs : FileSystem) : List Bytes :=
  let shown (e : Location × Node) : Option Bytes :=
    (below? fs.workingDirectory e.1).map fun ns =>
      [Path.slash].intercalate ns ++ if e.2 = .directory then [Path.slash] else []
  (fs.nodes.filterMap shown).mergeSort bytesLe

end RayTally.FileSystem
