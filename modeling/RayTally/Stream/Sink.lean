import RayTally.Stream.Failure
import RayTally.Text.Utf8

/-!
# Sinks

A sink takes bytes, perhaps only some of those offered at a time and perhaps only so many in all.
Once full it fails, or it takes nothing; its first write may be interrupted, which changes nothing.
`Sink.writeAll` offers bytes until all are taken, and `Sink.writePieces` does so piece by piece.

## Main results

* `Sink.writeAll_nil`: writing nothing succeeds, on a full sink too.
-/

namespace RayTally

/-- What a sink does once it is full. -/
inductive WhenFull
  | fail (e : Failure)
  | takeNothing
  deriving DecidableEq, Repr

/-- A **taker of bytes**: what it holds, how much it can hold, how much it takes at a time, how it
behaves once full, and whether the next write is interrupted. -/
structure Sink where
  written : Bytes := []
  limit : Option Nat := none
  chunk : Option Nat := none
  whenFull : WhenFull := .takeNothing
  interrupted : Bool := false
  deriving DecidableEq, Repr

/-- The outcome of offering bytes once. -/
inductive WriteOutcome
  | took (n : Nat)
  | interrupted
  | failed (e : Failure)

namespace Sink

/-- How many of `n` bytes offered the sink takes. -/
def accepts (s : Sink) (n : Nat) : Nat :=
  let n := match s.limit with
    | some k => min n (k - s.written.length)
    | none => n
  match s.chunk with
  | some k => min n k
  | none => n

/-- Whether the sink has reached its limit. -/
def isFull (s : Sink) : Bool :=
  match s.limit with
  | some k => k ≤ s.written.length
  | none => false

/-- Offers bytes once. -/
def write (s : Sink) (bs : Bytes) : WriteOutcome × Sink :=
  if s.interrupted then (.interrupted, { s with interrupted := false })
  else
    match s.isFull, s.whenFull with
    | true, .fail e => (.failed e, s)
    | _, _ =>
      let n := s.accepts bs.length
      (.took n, { s with written := s.written ++ bs.take n })

/-- Interruptions are spent by a write. -/
theorem write_interrupted (s : Sink) (bs : Bytes) : (s.write bs).2.interrupted = false := by
  simp only [write]
  split
  · rfl
  · rename_i h
    split <;> simpa using h

theorem interrupted_of_write {s : Sink} {bs : Bytes} (h : (s.write bs).1 = .interrupted) :
    s.interrupted = true := by
  simp only [write] at h
  split at h
  · assumption
  · split at h <;> cases h

/-- Offers bytes until all are taken. An interrupted write is done again; a sink that takes nothing
ends the attempt. -/
def writeAll (s : Sink) (bs : Bytes) : Except Failure Unit × Sink :=
  match bs with
  | [] => (.ok (), s)
  | b :: rest =>
    match _h : (s.write (b :: rest)).1 with
    | .took 0 => (.error .wroteNothing, (s.write (b :: rest)).2)
    | .took (n + 1) => writeAll (s.write (b :: rest)).2 (rest.drop n)
    | .interrupted => writeAll (s.write (b :: rest)).2 (b :: rest)
    | .failed e => (.error e, (s.write (b :: rest)).2)
termination_by bs.length + s.interrupted.toNat
decreasing_by
  · simp only [write_interrupted, Bool.toNat_false, List.length_drop, List.length_cons]
    omega
  · simp only [write_interrupted, interrupted_of_write _h, Bool.toNat_false, Bool.toNat_true]
    omega

/-- Writes pieces one after the other, up to the first that fails. -/
def writePieces (s : Sink) : List Bytes → Except Failure Unit × Sink
  | [] => (.ok (), s)
  | p :: ps =>
    match s.writeAll p with
    | (.ok (), s) => s.writePieces ps
    | (.error e, s) => (.error e, s)

@[simp] theorem writeAll_nil (s : Sink) : s.writeAll [] = (.ok (), s) := by
  rw [writeAll]

end Sink

end RayTally
