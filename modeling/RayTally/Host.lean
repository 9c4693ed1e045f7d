import RayTally.Files.Access
import RayTally.Log.Record

/-!
# The host

What a program has around it: files, a console, and at most one logger. Before a logger is
installed records are lost. Once installed it writes every record that passes its threshold to the
console, and to its file if it has one, and it is never replaced. A host may also come with a
logger of its own, which keeps all records.

## Main results

* `Host.log_absent`: without a logger, logging changes nothing.
-/

namespace RayTally

/-- **Where records go**: nowhere, to the host's own logger, or to the console and maybe a file. -/
inductive Logger
  | absent
  | collecting (records : List Record)
  | installed (threshold : Threshold) (file : Option Location)
  deriving DecidableEq, Repr

/-- The **surroundings of a program**. -/
structure Host where
  files : FileSystem
  console : Sink
  logger : Logger
  stamp : Stamp

/-- Why no logger could be installed. -/
inductive LoggerError
  | cannotOpen (why : Failure)
  | alreadyInstalled
  deriving DecidableEq, Repr

/-- The words for why no logger could be installed. -/
def LoggerError.message : LoggerError → String
  | cannotOpen why => why.message
  | alreadyInstalled =>
    "logging initialization failed: attempted to set a logger after the logging system was " ++
      "already initialized"

namespace Host

/-- Prints bytes, as far as the console takes them. -/
def print (h : Host) (bs : Bytes) : Host := { h with console := (h.console.writeAll bs).2 }

/-- Appends bytes to a log file, as far as it takes them. -/
def appendLog (h : Host) (file : Option Location) (bs : Bytes) : Host :=
  match file with
  | some l => { h with files := (h.files.append l bs).2 }
  | none => h

/-- **Logs** a record. -/
def log (h : Host) (r : Record) : Host :=
  match h.logger with
  | .absent => h
  | .collecting records => { h with logger := .collecting (records ++ [r]) }
  | .installed threshold file =>
    if threshold.allows r.level then
      let line := Utf8.ofString (r.text h.stamp)
      (h.print line).appendLog file line
    else h

/-- Logs a record of the library. -/
def report (h : Host) (level : Level) (message : String) : Host :=
  h.log (.ofLibrary level message)

/-- Opens a log file, if one is asked for. -/
def openLog (h : Host) (path : Option Path) : Except Failure (Option Location) × Host :=
  match path with
  | none => (.ok none, h)
  | some p =>
    match h.files.openToAppend p with
    | (.ok l, fs) => (.ok (some l), { h with files := fs })
    | (.error e, fs) => (.error e, { h with files := fs })

/-- **Installs a logger**, unless there is one. Its file is opened before that is found out. -/
def setupLogger (h : Host) (threshold : Threshold) (path : Option Path) :
    Except LoggerError Threshold × Host :=
  match h.openLog path with
  | (.error e, h) => (.error (.cannotOpen e), h)
  | (.ok file, h) =>
    match h.logger with
    | .absent => (.ok threshold, { h with logger := .installed threshold file })
    | _ => (.error .alreadyInstalled, h)

/-- Removes a file. A logger that writes to it goes on writing to no file that can be found. -/
def removeFile (h : Host) (p : Path) : Except Failure Unit × Host :=
  match h.files.removeFile p with
  | (.error e, fs) => (.error e, { h with files := fs })
  | (.ok l, fs) =>
    let logger := match h.logger with
      | .installed threshold (some m) => .installed threshold (if m = l then none else some m)
      | other => other
    (.ok (), { h with files := fs, logger })

theorem log_absent {h : Host} (hl : h.logger = .absent) (r : Record) : h.log r = h := by
  simp [log, hl]

end Host

end RayTally
