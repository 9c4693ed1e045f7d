import RayTally.Report.Efficiency
import RayTally.Number.Fixed
import RayTally.Stream.Sink

/-!
# The summary

The report for people: a heading, a section for each category with the shares of its outcomes, the
averages for a ray, and a closing rule. It is written line by line, each line in the pieces from
which it is composed.

## Main results

* `Summary.bytes_eq`: the bytes written are those of the summary's text.
-/

namespace RayTally

/-- The title of all reports. -/
def reportTitle : String := "Ray Intersection Statistics"

namespace Summary

/-- The **wording of a section**: its heading, and the labels of the total and of the outcomes,
padded so that the values stand below one another. -/
structure Wording where
  heading : String
  total : String
  first : String
  second : String

/-- How each category is worded. -/
def wording : Category → Wording
  | .rayBox => ⟨"Ray-Box Tests", "Total:  ", "Hits:   ", "Misses: "⟩
  | .rayTriangle => ⟨"Ray-Triangle Tests", "Total:  ", "Hits:   ", "Misses: "⟩
  | .traversal => ⟨"BVH Traversal", "Nodes Visited: ", "Leaf Nodes:    ", "Inner Nodes:   "⟩
  | .ray => ⟨"Ray Tracing", "Rays Traced:   ", "Rays Hit:      ", "Rays Miss:     "⟩

/-- The numeral of a value. -/
def value (n : UInt64) : List Char := Decimal.digits n.toNat

/-- The line of an outcome, with its share in the total. -/
def outcomeLine (label : String) (n total : UInt64) : List (List Char) :=
  ["  ".toList, label.toList, value n, " (".toList, Fixed.twoPlaces (percentage n total),
    "%)\n".toList]

/-- The lines of a section. -/
def sectionLines (t : Tally) (k : Category) : List (List Char) :=
  let w := wording k
  let total := t.get k.total
  [w.heading.toList, ":\n".toList, "  ".toList, w.total.toList, value total, "\n".toList] ++
    outcomeLine w.first (t.get k.first) total ++ outcomeLine w.second (t.get k.second) total

/-- The line of an average. -/
def averageLine (label : String) (x : Binary64) : List (List Char) :=
  [label.toList, Fixed.twoPlaces x, "\n".toList]

/-- The lines of the averages. -/
def efficiencyLines (e : Efficiency) : List (List Char) :=
  "Efficiency Metrics:\n".toList ::
    (averageLine "  Avg Box Tests/Ray:      " e.boxTests ++
      averageLine "  Avg Triangle Tests/Ray: " e.triangleTests ++
      averageLine "  Avg Nodes Visited/Ray:  " e.nodes)

/-- The **pieces of the summary**. The heading opens with the words `lead`. -/
def pieces (lead : String) (t : Tally) : List (List Char) :=
  ["=== ".toList, lead.toList, reportTitle.toList, " ===\n".toList] ++
    Category.all.flatMap (sectionLines t) ++ efficiencyLines (.ofTally t) ++
    ["========================================\n".toList]

/-- The text of the summary. -/
def text (lead : String) (t : Tally) : List Char := (pieces lead t).flatten

/-- The bytes of the summary. -/
def bytes (lead : String) (t : Tally) : Bytes := Utf8.encode (text lead t)

/-- Writes the summary to a sink. -/
def write (lead : String) (t : Tally) (s : Sink) : Except Failure Unit × Sink :=
  s.writePieces ((pieces lead t).map Utf8.encode)

/-- The pieces make up the text in bytes as they do in characters. -/
theorem bytes_eq (lead : String) (t : Tally) :
    ((pieces lead t).map Utf8.encode).flatten = bytes lead t := by
  simp only [bytes, text]
  induction pieces lead t with
  | nil => rfl
  | cons p ps ih => simp [Utf8.encode_append, ih]

end Summary

end RayTally
