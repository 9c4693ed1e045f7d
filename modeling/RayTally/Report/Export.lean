import RayTally.Tally
import RayTally.Report.Summary

/-!
# The export

The report for programs: a title line that starts with `#`, then one line for each counter with its
name, a comma and its value.

## Main results

* `Export.bytes_eq`: the bytes written are those of the export's text.
-/

namespace RayTally.Export

/-- The line of a counter, in the pieces from which it is written. -/
def entryLine (entry : Counter × UInt64) : List (List Char) :=
  [entry.1.name.toList, [','], Decimal.digits entry.2.toNat, ['\n']]

/-- The **pieces of the export**. -/
def pieces (t : Tally) : List (List Char) :=
  ["# ".toList, reportTitle.toList, ['\n']] ++ t.entries.flatMap entryLine

/-- The text of the export. -/
def text (t : Tally) : List Char := (pieces t).flatten

/-- The bytes of the export. -/
def bytes (t : Tally) : Bytes := Utf8.encode (text t)

/-- Writes the export to a sink. -/
def write (t : Tally) (s : Sink) : Except Failure Unit × Sink :=
  s.writePieces ((pieces t).map Utf8.encode)

/-- The pieces make up the text in bytes as they do in characters. -/
theorem bytes_eq (t : Tally) : ((pieces t).map Utf8.encode).flatten = bytes t := by
  simp only [bytes, text]
  induction pieces t with
  | nil => rfl
  | cons p ps ih => simp [Utf8.encode_append, ih]

end RayTally.Export
