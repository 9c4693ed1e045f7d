import RayTally.Text.Utf8

/-!
# Log records

A record has a level, a target and a message. Levels are ordered by severity, and a threshold lets
pass what is at least as severe.
-/

namespace RayTally

/-- How **severe** a record is. -/
inductive Level
  | error
  | warn
  | info
  | debug
  | trace
  deriving DecidableEq, Repr

namespace Level

/-- The place of a level, the most severe first. -/
def rank : Level → Nat
  | error => 1
  | warn => 2
  | info => 3
  | debug => 4
  | trace => 5

/-- The name of a level in a log. -/
def name : Level → String
  | error => "ERROR"
  | warn => "WARN"
  | info => "INFO"
  | debug => "DEBUG"
  | trace => "TRACE"

end Level

/-- The **least severe level that passes**, or none at all. -/
inductive Threshold
  | off
  | upTo (l : Level)
  deriving DecidableEq, Repr

namespace Threshold

/-- Whether records of a level pass. -/
def allows (t : Threshold) (l : Level) : Bool :=
  match t with
  | off => false
  | upTo m => l.rank ≤ m.rank

/-- The name of a threshold. -/
def name : Threshold → String
  | off => "OFF"
  | upTo l => l.name

end Threshold

/-- A **log record**. -/
structure Record where
  level : Level
  target : String
  message : String
  deriving DecidableEq, Repr

/-- The target of all records that the library itself logs. -/
def libraryTarget : String := "ray_stats"

/-- A record of the library. -/
def Record.ofLibrary (level : Level) (message : String) : Record :=
  ⟨level, libraryTarget, message⟩

/-- What a log says about **when and where** a record was made. -/
structure Stamp where
  date : String
  time : String
  line : String
  deriving DecidableEq, Repr

/-- The line of a record in a log. -/
def Record.text (r : Record) (s : Stamp) : String :=
  "[" ++ s.date ++ "][" ++ s.time ++ "][" ++ r.level.name ++ "][" ++ r.target ++ ":" ++ s.line ++
    "] " ++ r.message ++ "\n"

end RayTally
