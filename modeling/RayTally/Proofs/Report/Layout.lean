import RayTally.Proofs.Logging
import RayTally.Proofs.Stream.Lines
import RayTally.Proofs.Text.Field
import RayTally.Report.Summary

/-!
# The layout of a summary

A summary is a heading and then always the same number of lines: four for each category, one for
each average, and two more. The words of the heading are the program's own, so they can have line
feeds and whole lines of a summary in them. What is behind the heading is therefore read from the
end: it has no line feeds but those behind its lines, so the heading ends where so many lines are
left.

A share or an average says little about the counters that it is made of. That nothing is lost is due
to the counters themselves, each of which is written out behind its own label.

## Main results

* `Summary.text_eq_layout`: the lines of a summary, one by one.
* `Summary.splitOn_layout`: what is between the line feeds of a summary.
* `Summary.layout_injective`: a summary is told by its heading and its counters.
* `Summary.written_eq_iff`: the same for what is written of it.
-/

namespace RayTally

namespace Summary

variable {t t' : Tally} {share share' mean mean' : Counter → List Char} {c : Counter}
  {label : String}

/-! ### The lines -/

/-- The line of a counter: its label, and its value. -/
def counterLine (t : Tally) (label : String) (c : Counter) : List Char :=
  label.toList ++ value (t.get c)

/-- The line of an outcome, which has its share too, in the words of `share`. -/
def shareLine (t : Tally) (share : Counter → List Char) (label : String) (c : Counter) :
    List Char :=
  counterLine t label c ++ " (".toList ++ share c ++ "%)".toList

/-- The lines of a category, with the **label of each counter**. -/
def categoryLines (t : Tally) (share : Counter → List Char) : Category → List (List Char)
  | .rayBox =>
    ["Ray-Box Tests:".toList,
      counterLine t "  Total:  " .boxTests,
      shareLine t share "  Hits:   " .boxHits,
      shareLine t share "  Misses: " .boxMisses]
  | .rayTriangle =>
    ["Ray-Triangle Tests:".toList,
      counterLine t "  Total:  " .triangleTests,
      shareLine t share "  Hits:   " .triangleHits,
      shareLine t share "  Misses: " .triangleMisses]
  | .traversal =>
    ["BVH Traversal:".toList,
      counterLine t "  Nodes Visited: " .nodes,
      shareLine t share "  Leaf Nodes:    " .leafNodes,
      shareLine t share "  Inner Nodes:   " .innerNodes]
  | .ray =>
    ["Ray Tracing:".toList,
      counterLine t "  Rays Traced:   " .rays,
      shareLine t share "  Rays Hit:      " .raysHit,
      shareLine t share "  Rays Miss:     " .raysMissed]

/-- The lines of the averages, each in the words of `mean`. -/
def meanLines (mean : Counter → List Char) : List (List Char) :=
  ["Efficiency Metrics:".toList,
    "  Avg Box Tests/Ray:      ".toList ++ mean .boxTests,
    "  Avg Triangle Tests/Ray: ".toList ++ mean .triangleTests,
    "  Avg Nodes Visited/Ray:  ".toList ++ mean .nodes]

/-- The lines behind the heading. -/
def bodyLines (t : Tally) (share mean : Counter → List Char) : List (List Char) :=
  [.rayBox, .rayTriangle, .traversal, .ray].flatMap (categoryLines t share) ++ meanLines mean ++
    ["========================================".toList]

/-- The heading with the words `lead`, which may be more than one line. -/
def heading (lead : String) : List Char :=
  "=== ".toList ++ lead.toList ++ "Ray Intersection Statistics ===".toList

/-- The **layout of a summary**: its lines, with a line feed behind each. Shares and averages are
left open. -/
def layout (lead : String) (t : Tally) (share mean : Counter → List Char) : List Char :=
  (heading lead :: bodyLines t share mean).flatMap (· ++ ['\n'])

/-- The text of the share that a counter has in the total of its category. -/
def shareText (t : Tally) (c : Counter) : List Char :=
  Fixed.twoPlaces (percentage (t.get c) (t.get c.category.total))

/-- The text of the average of a counter over the rays. -/
def meanText (t : Tally) (c : Counter) : List Char :=
  Fixed.twoPlaces (average (t.get c) (t.get .rays))

/-- The pieces of a section are those of its lines. -/
theorem flatten_sectionLines (t : Tally) (k : Category) :
    (sectionLines t k).flatten = (categoryLines t (shareText t) k).flatMap (· ++ ['\n']) := by
  cases k <;> simp [sectionLines, wording, outcomeLine, categoryLines, counterLine, shareLine,
    shareText, Counter.category, Category.total, Category.first, Category.second]

/-- **The lines of a summary**, one by one. -/
theorem text_eq_layout (lead : String) (t : Tally) :
    text lead t = layout lead t (shareText t) (meanText t) := by
  have hsections : (Category.all.flatMap (sectionLines t)).flatten =
      ([.rayBox, .rayTriangle, .traversal, .ray].flatMap (categoryLines t (shareText t))).flatMap
        (· ++ ['\n']) := by
    simp [Category.all, flatten_sectionLines]
  have hheading : (heading lead) ++ ['\n'] =
      "=== ".toList ++ lead.toList ++ reportTitle.toList ++ " ===\n".toList := by
    simp [heading, reportTitle]
  have hmetrics : "Efficiency Metrics:\n".toList = "Efficiency Metrics:".toList ++ ['\n'] := rfl
  have hfeed : "\n".toList = ['\n'] := rfl
  have hrule : "========================================\n".toList =
      "========================================".toList ++ ['\n'] := rfl
  rw [layout, List.flatMap_cons, hheading]
  simp only [text, pieces, bodyLines, efficiencyLines, meanLines, averageLine,
    meanText, Efficiency.ofTally, hmetrics, hfeed, hrule, hsections, List.flatten_append,
    List.flatten_cons, List.flatten_nil, List.flatMap_cons, List.flatMap_nil, List.flatMap_append,
    List.append_assoc, List.append_nil, List.cons_append, List.nil_append]

/-- How many lines there are behind the heading. -/
theorem length_bodyLines (t : Tally) (share mean : Counter → List Char) :
    (bodyLines t share mean).length = 21 := by
  simp [bodyLines, categoryLines, meanLines]

/-! ### Line feeds -/

/-- A number of hundredths is written in digits and a point. -/
theorem isDigit_of_mem_twoPlaces {x : Binary64} {a : Char} (h : a ∈ Fixed.twoPlaces x) :
    a.isDigit = true ∨ a = '.' := by
  rw [Fixed.twoPlaces, Fixed.ofHundredths] at h
  rcases List.mem_append.mp h with hunits | hplaces
  · exact .inl (Decimal.isDigit_of_mem_digits hunits)
  · simp only [List.mem_cons, List.not_mem_nil, or_false] at hplaces
    rcases hplaces with rfl | rfl | rfl
    · exact .inr rfl
    · exact .inl (Decimal.isDigit_digitChar (Nat.mod_lt _ (by decide)))
    · exact .inl (Decimal.isDigit_digitChar (Nat.mod_lt _ (by decide)))

/-- There is no line feed in a share or an average. -/
theorem lineFeed_notMem_twoPlaces (x : Binary64) : '\n' ∉ Fixed.twoPlaces x := by
  intro h
  rcases isDigit_of_mem_twoPlaces h with hdigit | hpoint
  · exact absurd hdigit (by decide)
  · exact absurd hpoint (by decide)

/-- There is no line feed in the line of a counter, unless there is one in its label. -/
theorem lineFeed_notMem_counterLine (hlabel : '\n' ∉ label.toList) (t : Tally) (c : Counter) :
    '\n' ∉ counterLine t label c := by
  have hvalue : '\n' ∉ value (t.get c) :=
    fun hmem => absurd (Decimal.isDigit_of_mem_digits hmem) (by decide)
  rw [counterLine, List.mem_append, not_or]
  exact ⟨hlabel, hvalue⟩

/-- The same of the line of an outcome, unless there is one in its share. -/
theorem lineFeed_notMem_shareLine (hlabel : '\n' ∉ label.toList) (hshare : '\n' ∉ share c)
    (t : Tally) : '\n' ∉ shareLine t share label c := by
  simp [shareLine, lineFeed_notMem_counterLine hlabel, hshare]

/-- There are no line feeds in the lines behind the heading. -/
theorem lineFeed_notMem_bodyLines (hshare : ∀ c, '\n' ∉ share c) (hmean : ∀ c, '\n' ∉ mean c)
    (t : Tally) : ∀ l ∈ bodyLines t share mean, '\n' ∉ l := by
  simp [bodyLines, categoryLines, meanLines, hshare, hmean, lineFeed_notMem_counterLine,
    lineFeed_notMem_shareLine]

/-- **Between the line feeds of a summary** are those parts of its heading, the lines behind it, and
nothing at the end. -/
theorem splitOn_layout (hshare : ∀ c, '\n' ∉ share c) (hmean : ∀ c, '\n' ∉ mean c) (lead : String)
    (t : Tally) : (layout lead t share mean).splitOn '\n' =
      (heading lead).splitOn '\n' ++ (bodyLines t share mean ++ [[]]) := by
  rw [layout, List.flatMap_cons, List.append_assoc, List.singleton_append,
    List.splitOn_append_cons_self,
    ← splitOn_flatMap (lineFeed_notMem_bodyLines hshare hmean t) List.not_mem_nil, List.append_nil]

/-! ### What the lines say -/

/-- The numeral of a counter says which value it has. -/
theorem get_eq_of_value (h : value (t.get c) = value (t'.get c)) : t.get c = t'.get c := by
  have hread := Decimal.readUInt64_digits (t.get c)
  rw [← value, h, value, Decimal.readUInt64_digits] at hread
  exact (Except.ok.inj hread).symm

/-- **The line of a counter** says which value it has. -/
theorem get_eq_of_counterLine (h : counterLine t label c = counterLine t' label c) :
    t.get c = t'.get c :=
  get_eq_of_value (List.append_cancel_left h)

/-- **The line of an outcome** says which value it has: the value ends where the first space is. -/
theorem get_eq_of_shareLine (h : shareLine t share label c = shareLine t' share' label c) :
    t.get c = t'.get c := by
  have hspace (n : UInt64) : ' ' ∉ value n :=
    fun hmem => absurd (Decimal.isDigit_of_mem_digits hmem) (by decide)
  have hpiece : " (".toList = [' ', '('] := rfl
  simp only [shareLine, counterLine, hpiece, List.append_assoc, List.append_cancel_left_eq,
    List.cons_append] at h
  have hsplit := congrArg (List.splitOn ' ') h
  rw [List.splitOn_append_cons_self_of_not_mem (hspace _),
    List.splitOn_append_cons_self_of_not_mem (hspace _)] at hsplit
  exact get_eq_of_value (List.cons.inj hsplit).1

/-- The lines behind the heading say which values all counters have. -/
theorem eq_of_bodyLines (h : bodyLines t share mean = bodyLines t' share' mean') : t = t' := by
  simp only [bodyLines, categoryLines, List.flatMap_cons, List.flatMap_nil, List.cons_append,
    List.nil_append, List.append_nil, List.cons.injEq, true_and] at h
  obtain ⟨hboxTests, hboxHits, hboxMisses, htriangleTests, htriangleHits, htriangleMisses, hnodes,
    hleafNodes, hinnerNodes, hrays, hraysHit, hraysMissed, -⟩ := h
  refine Tally.ext_get fun c => ?_
  cases c with
  | boxTests => exact get_eq_of_counterLine hboxTests
  | boxHits => exact get_eq_of_shareLine hboxHits
  | boxMisses => exact get_eq_of_shareLine hboxMisses
  | triangleTests => exact get_eq_of_counterLine htriangleTests
  | triangleHits => exact get_eq_of_shareLine htriangleHits
  | triangleMisses => exact get_eq_of_shareLine htriangleMisses
  | nodes => exact get_eq_of_counterLine hnodes
  | leafNodes => exact get_eq_of_shareLine hleafNodes
  | innerNodes => exact get_eq_of_shareLine hinnerNodes
  | rays => exact get_eq_of_counterLine hrays
  | raysHit => exact get_eq_of_shareLine hraysHit
  | raysMissed => exact get_eq_of_shareLine hraysMissed

/-- The words of the heading are found again between the fixed ones. -/
theorem heading_injective {lead lead' : String} (h : heading lead = heading lead') :
    lead = lead' := by
  rw [heading, heading, List.append_cancel_right_eq, List.append_cancel_left_eq] at h
  exact String.toList_inj.mp h

/-- **A summary is told by its heading and its counters**, whatever words it opens with. -/
theorem layout_injective {lead lead' : String} (hshare : ∀ c, '\n' ∉ share c)
    (hmean : ∀ c, '\n' ∉ mean c) (hshare' : ∀ c, '\n' ∉ share' c) (hmean' : ∀ c, '\n' ∉ mean' c)
    (h : layout lead t share mean = layout lead' t' share' mean') : lead = lead' ∧ t = t' := by
  have hlines := congrArg (List.splitOn '\n') h
  rw [splitOn_layout hshare hmean, splitOn_layout hshare' hmean'] at hlines
  have hlength : (bodyLines t share mean ++ [[]]).length =
      (bodyLines t' share' mean' ++ [[]]).length := by
    rw [List.length_append, List.length_append, length_bodyLines, length_bodyLines]
  obtain ⟨hheading, hbody⟩ := List.append_inj' hlines hlength
  refine ⟨heading_injective ?_, eq_of_bodyLines (List.append_cancel_right hbody)⟩
  have hjoin (xs : List Char) : ['\n'].intercalate (xs.splitOn '\n') = xs :=
    List.intercalate_splitOn '\n'
  rw [← hjoin (heading lead), hheading, hjoin]

/-- Summaries with the same text are those of the same tally under the same words. -/
theorem text_inj {lead lead' : String} :
    text lead t = text lead' t' ↔ lead = lead' ∧ t = t' := by
  constructor
  · rw [text_eq_layout, text_eq_layout]
    exact layout_injective (fun _ => lineFeed_notMem_twoPlaces _)
      (fun _ => lineFeed_notMem_twoPlaces _) (fun _ => lineFeed_notMem_twoPlaces _)
      fun _ => lineFeed_notMem_twoPlaces _
  · rintro ⟨rfl, rfl⟩
    rfl

/-- A console that takes everything, and holds nothing yet, holds the summary once it is written. -/
theorem written_write {s : Sink} (hs : s.written = []) (htakes : s.TakesAll) (lead : String)
    (t : Tally) : (write lead t s).2.written = bytes lead t := by
  obtain ⟨s', hwrite, hwritten, -⟩ := htakes.writePieces ((pieces lead t).map Utf8.encode)
  rw [write, hwrite, hwritten, hs, List.nil_append, bytes_eq]

/-- **A summary loses nothing.** What is written of two summaries is the same exactly if they are of
the same tally and open with the same words. It is the text of a heading and of lines that are the
same for all tallies but for the counters, each of which has its own line and stands behind its
label, and for the shares and averages. -/
theorem written_eq_iff {s s' : Sink} (hs : s.written = []) (htakes : s.TakesAll)
    (hs' : s'.written = []) (htakes' : s'.TakesAll) (lead lead' : String) (t t' : Tally) :
    ((write lead t s).2.written = (write lead' t' s').2.written ↔ lead = lead' ∧ t = t') ∧
      (write lead t s).2.written =
        Utf8.encode (layout lead t (shareText t) (meanText t)) := by
  rw [written_write hs htakes, written_write hs' htakes', ← text_eq_layout]
  refine ⟨?_, rfl⟩
  rw [bytes, bytes, ← text_inj]
  exact ⟨Utf8.encode_injective, congrArg Utf8.encode⟩

/-- A sink that takes one byte at a time and is interrupted at first. -/
def dripping : Sink := { chunk := some 1, interrupted := true }

/-- Words that imitate the first lines of a summary. -/
def imitation : String :=
  "Ray Intersection Statistics ===\nRay-Box Tests:\n  Total:  0\n=== "

/-- Words that imitate the lines of a summary of another tally are not taken for it. -/
theorem written_eq_iff_imitation :
    ({} : Sink).TakesAll ∧ dripping.TakesAll ∧
      (write "" .zero {}).2.written ≠
        (write imitation (Tally.zero.set .boxTests 1) dripping).2.written := by
  have htakes : ({} : Sink).TakesAll := ⟨rfl, nofun⟩
  have htakes' : dripping.TakesAll := ⟨rfl, by decide⟩
  have hempty : ({} : Sink).written = [] := rfl
  have hempty' : dripping.written = [] := rfl
  obtain ⟨hiff, -⟩ := written_eq_iff hempty htakes hempty' htakes' "" imitation .zero
    (Tally.zero.set .boxTests 1)
  refine ⟨htakes, htakes', fun h => ?_⟩
  exact absurd (hiff.mp h).1 (by decide)

end Summary

end RayTally
