import RayTally.Proofs.Stream.Writing
import RayTally.Stream.Buffer

/-!
# Writing through a buffer

A buffer delays what reaches a sink, and with it a failure of the sink. In the end it makes no
difference: pieces that are written and flushed come to the same as their text written to the sink
at once, at whatever byte the sink gives up. What fits into the buffer does not reach the sink
before the flush.

## Main results

* `BufferedSink.write_cases`: a write leaves what will come of the text behind it as it is.
* `BufferedSink.writeThrough_eq`: a buffer makes no difference in the end.
* `BufferedSink.writePieces_of_fits`: what fits into the buffer is only put into it.
-/

namespace RayTally

namespace BufferedSink

variable {b : BufferedSink} {bs : Bytes}

/-- What the sink would come to without the buffer, if it was offered what is pending and a text
behind it. -/
def unbuffered (b : BufferedSink) (text : Bytes) : Except Failure Unit × Sink :=
  b.sink.writeAll (b.pending ++ text)

/-- **A write** succeeds without a difference to what the text behind it will come to, or it fails
as the sink would without the buffer. -/
theorem write_cases (hk : b.sink.chunk ≠ some 0) (bs : Bytes) :
    (∃ b', b.write bs = (.ok (), b') ∧ b'.sink.chunk = b.sink.chunk ∧
      ∀ rest, b'.unbuffered rest = b.unbuffered (bs ++ rest)) ∨
    ∃ e b', b.write bs = (.error e, b') ∧
      ∀ rest, b.unbuffered (bs ++ rest) = (.error e, b'.sink) := by
  by_cases hfits : b.pending.length + bs.length ≤ b.capacity
  · left
    refine ⟨_, write_of_fits hfits, rfl, fun rest => ?_⟩
    rw [unbuffered, unbuffered, List.append_assoc]
  cases hflush : b.sink.writeAll b.pending with
  | mk r s =>
    cases r with
    | error e =>
      right
      refine ⟨e, ⟨s, [], b.capacity⟩, ?_, fun rest => Sink.writeAll_append_of_error hk hflush _⟩
      rw [write, if_neg hfits, flush, hflush]
    | ok =>
      have hrest (text : Bytes) := Sink.writeAll_append_of_ok hk hflush text
      have hchunk := (hrest []).1
      by_cases hsmall : bs.length < b.capacity
      · left
        refine ⟨⟨s, bs, b.capacity⟩, ?_, hchunk, fun rest => (hrest (bs ++ rest)).2.symm⟩
        rw [write, if_neg hfits, flush, hflush]
        exact if_pos hsmall
      · have hwrite : b.write bs = ((s.writeAll bs).1, ⟨(s.writeAll bs).2, [], b.capacity⟩) := by
          rw [write, if_neg hfits, flush, hflush]
          exact if_neg hsmall
        cases hpast : s.writeAll bs with
        | mk r s' =>
          rw [hpast] at hwrite
          cases r with
          | error e =>
            right
            refine ⟨e, _, hwrite, fun rest => ?_⟩
            rw [unbuffered, (hrest _).2]
            exact Sink.writeAll_append_of_error (hchunk ▸ hk) hpast rest
          | ok =>
            left
            have hon (text : Bytes) := Sink.writeAll_append_of_ok (hchunk ▸ hk) hpast text
            refine ⟨_, hwrite, (hon []).1.trans hchunk, fun rest => ?_⟩
            rw [unbuffered, unbuffered, (hrest _).2, (hon rest).2, List.nil_append]

/-- **A buffer makes no difference in the end**: pieces written and flushed come to what their text
comes to when it is written to the sink at once. -/
theorem writeThrough_eq (hk : b.sink.chunk ≠ some 0) (ps : List Bytes) :
    ((b.writeThrough ps).1, (b.writeThrough ps).2.sink) = b.unbuffered ps.flatten := by
  induction ps generalizing b with
  | nil =>
    rw [unbuffered, List.flatten_nil, List.append_nil]
    rfl
  | cons p ps ih =>
    rw [List.flatten_cons, writeThrough, writePieces]
    obtain ⟨b', hw, hchunk, hrest⟩ | ⟨e, b', hw, hrest⟩ := write_cases hk p
    · rw [hw, ← hrest]
      exact ih (hchunk ▸ hk)
    · rw [hw, hrest]

/-- **What fits into the buffer** is only put into it. -/
theorem writePieces_of_fits {ps : List Bytes}
    (h : b.pending.length + ps.flatten.length ≤ b.capacity) :
    b.writePieces ps = (.ok (), { b with pending := b.pending ++ ps.flatten }) := by
  induction ps generalizing b with
  | nil => rw [writePieces, List.flatten_nil, List.append_nil]
  | cons p ps ih =>
    rw [List.flatten_cons, List.length_append] at h
    have hrest : (b.pending ++ p).length + ps.flatten.length ≤ b.capacity := by
      rw [List.length_append]
      omega
    rw [writePieces, write_of_fits (by omega), List.flatten_cons, ← List.append_assoc]
    exact ih hrest

end BufferedSink

end RayTally
