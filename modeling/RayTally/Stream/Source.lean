import RayTally.Stream.Failure
import RayTally.Text.Utf8

/-!
# Sources and their lines

A source gives bytes, at most a chunk at a time. It may fail for good once it has given so many,
and one read may be interrupted, which changes nothing. `LineReader.lines` reads it to the end, or
to the first failure, as lines.

## Main results

* `Source.read_length`: a read passes bytes on and loses none.
* `LineReader.next_size`: a line has at least one byte, and line and rest are what was there before.
-/

namespace RayTally

/-- A **giver of bytes**: what it has yet to give, how many it gave, how many it gives at a time,
the failure that sets in once it gave so many, and where a read is interrupted. -/
structure Source where
  rest : Bytes
  given : Nat := 0
  chunk : Nat := 8192
  fault : Option (Nat × Failure) := none
  interruptAt : Option Nat := none
  deriving DecidableEq, Repr

/-- The outcome of one read; no bytes mean the end. -/
inductive ReadOutcome
  | bytes (bs : Bytes)
  | interrupted
  | failed (e : Failure)

namespace Source

/-- The failure that has set in, if any. -/
def failure? (s : Source) : Option Failure :=
  match s.fault with
  | some (k, e) => if k ≤ s.given then some e else none
  | none => none

/-- How many bytes the next read gives at most. -/
def window (s : Source) : Nat :=
  match s.fault with
  | some (k, _) => min s.chunk (k - s.given)
  | none => s.chunk

/-- Whether the next read is interrupted. -/
def isInterrupted (s : Source) : Bool :=
  match s.interruptAt with
  | some k => k ≤ s.given
  | none => false

/-- Reads once. -/
def read (s : Source) : ReadOutcome × Source :=
  match s.failure? with
  | some e => (.failed e, s)
  | none =>
    if s.isInterrupted then (.interrupted, { s with interruptAt := none })
    else
      (.bytes (s.rest.take s.window),
        { s with rest := s.rest.drop s.window, given := s.given + (s.rest.take s.window).length })

/-- **All bytes** of a source, or the failure that sets in before its end. -/
def allBytes (s : Source) : Except Failure Bytes :=
  match s.fault with
  | some (k, e) => if k ≤ s.given + s.rest.length then .error e else .ok s.rest
  | none => .ok s.rest

/-- What keeps a reader going: the bytes to come, and an interruption to come. -/
def fuel (s : Source) : Nat := s.rest.length + s.interruptAt.isSome.toNat

/-- Bytes that were read are no longer to come. -/
theorem read_length {s s' : Source} {bs : Bytes} (h : s.read = (.bytes bs, s')) :
    bs.length + s'.rest.length = s.rest.length ∧ s'.interruptAt = s.interruptAt := by
  simp only [read] at h
  split at h
  · cases h
  · split at h
    · cases h
    · cases h
      simp only [List.length_take, List.length_drop, and_true]
      omega

/-- An interruption takes no bytes and does not come again. -/
theorem read_interrupted {s s' : Source} (h : s.read = (.interrupted, s')) :
    s'.rest = s.rest ∧ s.interruptAt.isSome ∧ s'.interruptAt = none := by
  simp only [read] at h
  split at h
  · cases h
  · split at h
    · rename_i hi
      cases h
      refine ⟨rfl, ?_, rfl⟩
      cases hk : s.interruptAt with
      | none => simp [isInterrupted, hk] at hi
      | some k => rfl
    · cases h

end Source

/-- A source with the bytes that were read ahead of their use. -/
structure LineReader where
  ahead : Bytes
  source : Source

/-- The outcome of reading a line, which keeps its line feed. -/
inductive LineOutcome
  | ended
  | failed (e : Failure)
  | line (bs : Bytes) (reader : LineReader)

namespace LineReader

/-- The line feed. -/
def lineFeed : UInt8 := 10

/-- Splits bytes behind the first line feed; `none` if there is none. -/
def splitLine? : Bytes → Option (Bytes × Bytes)
  | [] => none
  | b :: bs =>
    if b = lineFeed then some ([b], bs)
    else (splitLine? bs).map fun (line, rest) => (b :: line, rest)

/-- A split loses nothing, and its first part is not empty. -/
theorem splitLine?_length {bs line rest : Bytes} (h : splitLine? bs = some (line, rest)) :
    line.length + rest.length = bs.length ∧ 0 < line.length := by
  induction bs generalizing line with
  | nil => cases h
  | cons b bs ih =>
    simp only [splitLine?] at h
    split at h
    · cases h; simp; omega
    · simp only [Option.map_eq_some_iff, Prod.exists, Prod.mk.injEq] at h
      obtain ⟨l, r, hs, rfl, rfl⟩ := h
      have := ih hs
      simp only [List.length_cons]
      omega

/-- Reads a line that starts with the bytes `acc`. A failure loses the line it strikes; the last
line may end without a line feed. -/
def next (acc : Bytes) (r : LineReader) : LineOutcome :=
  match splitLine? r.ahead with
  | some (line, rest) => .line (acc ++ line) ⟨rest, r.source⟩
  | none =>
    match _h : r.source.read with
    | (.failed e, _) => .failed e
    | (.interrupted, s) => next (acc ++ r.ahead) ⟨[], s⟩
    | (.bytes [], s) =>
      if (acc ++ r.ahead).isEmpty then .ended else .line (acc ++ r.ahead) ⟨[], s⟩
    | (.bytes (b :: bs), s) => next (acc ++ r.ahead) ⟨b :: bs, s⟩
termination_by r.source.fuel
decreasing_by
  · obtain ⟨hr, hs, hn⟩ := Source.read_interrupted _h
    simp [Source.fuel, hr, hs, hn]
  · obtain ⟨hl, hi⟩ := Source.read_length _h
    simp only [Source.fuel, hi, List.length_cons] at hl ⊢
    omega

/-- The bytes that a reader can still give. -/
def size (r : LineReader) : Nat := r.ahead.length + r.source.rest.length

/-- A line and what is left make up what was there, and the line is not empty. -/
theorem next_size {acc bs : Bytes} {r r' : LineReader} (h : next acc r = .line bs r') :
    bs.length + r'.size = acc.length + r.size ∧ 0 < bs.length := by
  fun_induction next acc r with
  | case1 acc r line rest hs =>
    cases h
    have := splitLine?_length hs
    simp only [size, List.length_append]
    omega
  | case2 => cases h
  | case3 acc r hs s hr ih =>
    have := Source.read_interrupted hr
    have := ih h
    simp_all [size, Nat.add_assoc]
  | case4 => cases h
  | case5 acc r hs s hr he =>
    cases h
    have := Source.read_length hr
    simp_all only [size, List.isEmpty_iff, List.length_nil, List.length_append]
    have := List.length_pos_iff.mpr he
    simp only [List.length_append] at this
    omega
  | case6 acc r hs b bs' s hr ih =>
    have := Source.read_length hr
    have := ih h
    simp only [size, List.length_append, List.length_cons] at *
    omega

/-- The lines of a source, up to its end or its first failure. -/
def lines (r : LineReader) : List (Except Failure Bytes) :=
  match _h : next [] r with
  | .ended => []
  | .failed e => [.error e]
  | .line bs r' => .ok bs :: lines r'
termination_by r.size
decreasing_by
  have := next_size _h
  simp only [List.length_nil] at this
  omega

/-- A line without its line feed, and without the carriage return before that. -/
def chomp (line : Bytes) : Bytes :=
  match line.reverse with
  | 10 :: 13 :: rest => rest.reverse
  | 10 :: rest => rest.reverse
  | _ => line

/-- The characters of a line. -/
def textOfLine (line : Bytes) : Except Failure (List Char) :=
  match Utf8.decode (chomp line) with
  | some cs => .ok cs
  | none => .error .notUtf8

end LineReader

/-- The **lines of a source** as texts, up to its end or its first failure to give bytes. -/
def Source.texts (s : Source) : List (Except Failure (List Char)) :=
  (LineReader.lines ⟨[], s⟩).map fun line => line.bind LineReader.textOfLine

end RayTally
