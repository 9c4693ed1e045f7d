import RayTally.Stream.Sink

/-!
# Buffered sinks

A buffer before a sink collects what is written and passes it on when it is full, or when it is
flushed. A failure of the sink may therefore show only at the flush.

## Main results

* `BufferedSink.write_of_fits`: what fits into the buffer is written without the sink.
-/

namespace RayTally

/-- A **sink behind a buffer**: the bytes that were written and not yet passed on, and how many the
buffer can hold. -/
structure BufferedSink where
  sink : Sink
  pending : Bytes := []
  capacity : Nat := 8192
  deriving DecidableEq, Repr

namespace BufferedSink

/-- Passes on what was written. -/
def flush (b : BufferedSink) : Except Failure Unit × BufferedSink :=
  let (r, s) := b.sink.writeAll b.pending
  (r, { b with sink := s, pending := [] })

/-- Writes bytes: into the buffer if they fit, else behind what it holds. What is larger than the
buffer passes it by. -/
def write (b : BufferedSink) (bs : Bytes) : Except Failure Unit × BufferedSink :=
  if b.pending.length + bs.length ≤ b.capacity then (.ok (), { b with pending := b.pending ++ bs })
  else
    match b.flush with
    | (.error e, b) => (.error e, b)
    | (.ok (), b) =>
      if bs.length < b.capacity then (.ok (), { b with pending := bs })
      else
        let (r, s) := b.sink.writeAll bs
        (r, { b with sink := s })

/-- Writes pieces one after the other, up to the first that fails. -/
def writePieces (b : BufferedSink) : List Bytes → Except Failure Unit × BufferedSink
  | [] => (.ok (), b)
  | p :: ps =>
    match b.write p with
    | (.ok (), b) => b.writePieces ps
    | (.error e, b) => (.error e, b)

/-- Writes pieces and passes everything on. -/
def writeThrough (b : BufferedSink) (ps : List Bytes) : Except Failure Unit × BufferedSink :=
  match b.writePieces ps with
  | (.ok (), b) => b.flush
  | (.error e, b) => (.error e, b)

/-- What fits into the buffer does not reach the sink. -/
theorem write_of_fits {b : BufferedSink} {bs : Bytes}
    (h : b.pending.length + bs.length ≤ b.capacity) :
    b.write bs = (.ok (), { b with pending := b.pending ++ bs }) := by
  simp [write, h]

end BufferedSink

end RayTally
