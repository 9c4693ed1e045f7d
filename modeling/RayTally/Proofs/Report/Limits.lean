import RayTally.Proofs.Stream.Writing
import RayTally.Report.Export

/-!
# Reports on a sink with a limit

Summary and export are written in many small pieces, and a sink may give up at any byte: inside a
line, at its end, before a piece without bytes. All that counts is how long the whole text is. If it
is within the limit the sink holds all of it, else the sink holds the first bytes up to the limit,
and writing fails for the sink's own reason.

## Main results

* `Wrote.unique`: what writing a text comes to is determined by the limit and by what a full sink
  does.
* `wrote_writePieces`: what comes of pieces is what comes of the text that they make up.
* `wrote_reports`: both reports, on every sink.
-/

namespace RayTally

/-- **What writing a text comes to** on a sink that holds nothing yet.

* It succeeds exactly if the text is not longer than the limit.
* If it succeeds the sink holds the text.
* If it does not, it fails with what a full sink is reported with, and the sink holds the first
  bytes of the text, up to the limit. -/
structure Wrote (text : Bytes) (s : Sink) (r : Except Failure Unit × Sink) : Prop where
  ok_iff : r.1 = .ok () ↔ ∀ k, s.limit = some k → text.length ≤ k
  whole : r.1 = .ok () → r.2.written = text
  cut : ∀ k, s.limit = some k → k < text.length →
    r.1 = .error s.whenFull.failure ∧ r.2.written = text.take k

/-- What writing a text comes to **does not depend** on portions and interruptions. -/
theorem Wrote.unique {text : Bytes} {s s' : Sink} {r r' : Except Failure Unit × Sink}
    (h : Wrote text s r) (h' : Wrote text s' r') (hlimit : s'.limit = s.limit)
    (hfull : s'.whenFull = s.whenFull) : r'.1 = r.1 ∧ r'.2.written = r.2.written := by
  by_cases hroom : ∀ k, s.limit = some k → text.length ≤ k
  · have hok := h.ok_iff.mpr hroom
    have hok' := h'.ok_iff.mpr (hlimit ▸ hroom)
    exact ⟨hok'.trans hok.symm, (h'.whole hok').trans (h.whole hok).symm⟩
  · obtain ⟨k, hk⟩ := not_forall.mp hroom
    obtain ⟨hk, hlong⟩ := Classical.not_imp.mp hk
    obtain ⟨herror, hcut⟩ := h.cut k hk (Nat.lt_of_not_le hlong)
    obtain ⟨herror', hcut'⟩ := h'.cut k (hlimit.trans hk) (Nat.lt_of_not_le hlong)
    rw [herror, herror', hcut, hcut', hfull]
    exact ⟨rfl, rfl⟩

/-- **Pieces** come to what the text comes to that they make up. -/
theorem wrote_writePieces {s : Sink} (hs : s.written = []) (hk : s.chunk ≠ some 0)
    (ps : List Bytes) : Wrote ps.flatten s (s.writePieces ps) := by
  have hfits : s.fitting ps.flatten = ps.flatten ↔
      ∀ k, s.limit = some k → ps.flatten.length ≤ k := by
    rw [Sink.fitting, hs]
    cases s.limit with
    | none => simp
    | some k => simp
  rw [Sink.writePieces_eq hk, Sink.writeAll_eq hk, Sink.verdict, Sink.after, hs, List.nil_append]
  refine ⟨?_, ?_, ?_⟩
  · rw [← hfits]
    split
    · rename_i hall
      exact iff_of_true rfl hall
    · rename_i hno
      refine iff_of_false ?_ hno
      rintro ⟨⟩
  · dsimp only
    split
    · rename_i hall
      exact fun _ => hall
    · rintro ⟨⟩
  · intro k hlimit hlong
    have hno : s.fitting ps.flatten ≠ ps.flatten :=
      fun hall => Nat.not_le_of_lt hlong (hfits.mp hall k hlimit)
    refine ⟨if_neg hno, ?_⟩
    rw [Sink.fitting, hlimit, hs]
    rfl

/-- **Summary and export on every sink** that holds nothing yet: what comes of them is decided by
their length and the sink's limit, and neither by the portions in which the sink takes its bytes nor
by an interruption. -/
theorem wrote_reports (lead : String) (t : Tally) {s : Sink} (hs : s.written = [])
    (hk : s.chunk ≠ some 0) :
    Wrote (Summary.bytes lead t) s (Summary.write lead t s) ∧
      Wrote (Export.bytes t) s (Export.write t s) ∧
      ∀ (chunk : Option Nat) (interrupted : Bool), chunk ≠ some 0 →
        ((Summary.write lead t { s with chunk, interrupted }).1 = (Summary.write lead t s).1 ∧
          (Summary.write lead t { s with chunk, interrupted }).2.written =
            (Summary.write lead t s).2.written) ∧
        (Export.write t { s with chunk, interrupted }).1 = (Export.write t s).1 ∧
          (Export.write t { s with chunk, interrupted }).2.written =
            (Export.write t s).2.written := by
  have hsummary {s : Sink} (hs : s.written = []) (hk : s.chunk ≠ some 0) :
      Wrote (Summary.bytes lead t) s (Summary.write lead t s) :=
    Summary.bytes_eq lead t ▸ wrote_writePieces hs hk _
  have hexport {s : Sink} (hs : s.written = []) (hk : s.chunk ≠ some 0) :
      Wrote (Export.bytes t) s (Export.write t s) :=
    Export.bytes_eq t ▸ wrote_writePieces hs hk _
  refine ⟨hsummary hs hk, hexport hs hk, fun chunk interrupted hk' => ⟨?_, ?_⟩⟩
  · exact (hsummary hs hk).unique (hsummary (s := { s with chunk, interrupted }) hs hk') rfl rfl
  · exact (hexport hs hk).unique (hexport (s := { s with chunk, interrupted }) hs hk') rfl rfl

/-- A sink that takes up to three bytes at a time, four in all and then nothing, and that is
interrupted at first. -/
def narrow : Sink := ⟨[], some 4, some 3, .takeNothing, true⟩

/-- Without words of its own a summary has an empty piece where the narrow sink is full. -/
theorem wrote_reports_narrow :
    narrow.written = [] ∧ narrow.chunk ≠ some 0 ∧
      (Summary.write "" .zero narrow).1 = .error .wroteNothing ∧
      (Summary.write "" .zero narrow).2.written = Utf8.ofString "=== " ∧
      (Export.write .zero narrow).1 = .error .wroteNothing ∧
      (Export.write .zero narrow).2.written = Utf8.ofString "# Ra" := by
  have hk : narrow.chunk ≠ some 0 := by decide
  obtain ⟨hsummary, hexport, -⟩ := wrote_reports "" .zero (s := narrow) rfl hk
  obtain ⟨herror, hcut⟩ := hsummary.cut 4 rfl (by decide +kernel)
  obtain ⟨herror', hcut'⟩ := hexport.cut 4 rfl (by decide +kernel)
  exact ⟨rfl, hk, herror, hcut.trans rfl, herror', hcut'.trans rfl⟩

end RayTally
