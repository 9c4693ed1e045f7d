import RayTally.Host
import RayTally.Report.Balance
import RayTally.Report.Storage

/-!
# Reports of a running program

Printing a summary and saving an export must not take the program down, so failures are only logged.
Before a summary is printed each imbalance of the tally is logged.
-/

namespace RayTally

/-- Logs the imbalances of a tally. -/
def Tally.logIssues (t : Tally) (h : Host) : Host :=
  t.issues.foldl (fun h issue => h.report .warn ("Inconsistent counters: " ++ issue)) h

/-- **Prints** the summary of a tally. -/
def Summary.print (lead : String) (t : Tally) (h : Host) : Host :=
  let h := t.logIssues h
  match Summary.write lead t h.console with
  | (.ok (), console) => { h with console }
  | (.error why, console) =>
    { h with console }.report .error ("Failed to print statistics: " ++ why.message)

/-- Saves the export of a tally to a file. -/
def Export.saveOn (t : Tally) (p : Path) (h : Host) : Except Failure Unit × Host :=
  let (r, files) := Export.save t p h.files
  (r, { h with files })

/-- Saves the export of a tally to a file and **logs the outcome**. -/
def Export.saveLogged (t : Tally) (p : Path) (h : Host) : Host :=
  match Export.saveOn t p h with
  | (.ok (), h) => h.report .info ("Statistics saved to " ++ p.shown)
  | (.error why, h) =>
    h.report .error ("Cannot write statistics to \x27" ++ p.shown ++ "\x27: " ++ why.message)

end RayTally
