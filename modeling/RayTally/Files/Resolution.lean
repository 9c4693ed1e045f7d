import RayTally.Files.System

/-!
# Resolution of paths

A path is walked name by name from the root or the working directory. Everything before the last
name must be a directory, or a link to one. The last name may be missing if it is to be created.

Links are followed wherever they are met, up to forty of them for one path. A link at the last
name that leads nowhere is followed too, so what is created is what the link names.
-/

namespace RayTally

/-- What a path is **resolved for**: to be read, or to be written and created if it is missing. -/
inductive Access
  | read
  | create
  deriving DecidableEq, Repr

namespace FileSystem

/-- How far a walk along names comes: to a location, or to a link, with the directory that holds it,
where it leads, and the names that are left. -/
inductive Walk
  | arrived (l : Location)
  | atLink (directory : Location) (target : Path) (rest : List Name)
  deriving DecidableEq, Repr

/-- The longest name. -/
def longestName : Nat := 255

/-- Paths must be shorter than this. -/
def pathBound : Nat := 4096

/-- How many links are followed for one path. -/
def linkBudget : Nat := 40

/-- What a name at the end of a path leads to when nothing is there. -/
def arriveMissing (a : Access) (child : Location) : Except SystemError Walk :=
  match a with
  | .read => .error .notFound
  | .create => .ok (.arrived child)

/-- What a name that is no directory leads to: it must be the last, without a slash behind it. -/
def arriveFile (child : Location) (rest : List Name) (slash : Bool) : Except SystemError Walk :=
  if rest.isEmpty && !slash then .ok (.arrived child) else .error .notDirectory

/-- Walks along names from the directory `l`, up to the first link. `slash` says that a slash stands
behind the last name. What is to be created cannot have one. -/
def walk (fs : FileSystem) (a : Access) (slash : Bool) (l : Location) :
    List Name → Except SystemError Walk
  | [] => .ok (.arrived l)
  | n :: rest =>
    if n = Path.here then walk fs a slash l rest
    else if n = Path.above then walk fs a slash l.dropLast rest
    else if a = .create ∧ rest.isEmpty ∧ slash then .error .isDirectory
    else if longestName < n.length then .error .nameTooLong
    else
      match fs.node? (l ++ [n]) with
      | none => if rest.isEmpty then arriveMissing a (l ++ [n]) else .error .notFound
      | some .directory => walk fs a slash (l ++ [n]) rest
      | some (.file _) => arriveFile (l ++ [n]) rest slash
      | some (.device _) => arriveFile (l ++ [n]) rest slash
      | some (.link target) => .ok (.atLink l target rest)

/-- Where names lead from the directory `l` when links are followed. A slash behind a link's target
counts like one behind the link. -/
def follow (fs : FileSystem) (a : Access) : Nat → Bool → Location → List Name →
    Except SystemError Location
  | links, slash, l, ns =>
    match walk fs a slash l ns with
    | .error e => .error e
    | .ok (.arrived m) => .ok m
    | .ok (.atLink directory target rest) =>
      match links with
      | 0 => .error .linkLoop
      | links + 1 =>
        follow fs a links (slash || (rest.isEmpty && target.endsInSlash))
          (if target.isAbsolute then [] else directory) (target.names ++ rest)

/-- The directory where a path starts. -/
def startOf (fs : FileSystem) (p : Path) : Location :=
  if p.isAbsolute then [] else fs.workingDirectory

/-- Why a path is refused before it is walked. -/
def refusal? (p : Path) : Option Failure :=
  if p.bytes.contains 0 then some .nulInPath
  else if p.bytes.isEmpty then some (.system .notFound)
  else if pathBound ≤ p.bytes.length then some (.system .nameTooLong)
  else none

/-- The **location that a path leads to**. What is to be created is not a directory. -/
def resolve (fs : FileSystem) (a : Access) (p : Path) : Except Failure Location :=
  match refusal? p with
  | some e => .error e
  | none =>
    match fs.follow a linkBudget p.endsInSlash (fs.startOf p) p.names with
    | .error e => .error (.system e)
    | .ok l =>
      if a = .create ∧ fs.node? l = some .directory then .error (.system .isDirectory) else .ok l

end FileSystem

end RayTally
