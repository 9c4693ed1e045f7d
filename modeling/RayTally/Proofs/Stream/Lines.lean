import Mathlib.Data.List.Basic
import RayTally.Proofs.Text.Encoding
import RayTally.Stream.Source

/-!
# The lines of a source

A source is read chunk by chunk, and a line can begin in one chunk and end in another. What the
lines are does not depend on that: they are the pieces between the line feeds of all the bytes that
the source gives before it ends or fails.

## Main results

* `splitOn_flatMap`: lines that end in line feeds are found again between them.
* `Source.read_available`: a read takes bytes from the front of what the source still gives.
* `LineReader.next_complete` / `LineReader.next_incomplete`: reading a line splits all that is to
  come at its first line feed, and takes all of it if there is none.
* `LineReader.lines_eq`: the lines of a reader, for every chunk size and with or without an
  interruption.
* `Source.texts_eq`: the same for the texts of the lines.
* `LineReader.textOfLine_append_lineFeed`: a carriage return before the line feed is dropped, and
  makes no difference to whether the line is UTF-8.
-/

namespace RayTally

/-! ### Lines in a text -/

/-- Lines with a line feed behind each are the pieces between the line feeds, and what is behind the
last is one more. That holds of bytes and of characters. -/
theorem splitOn_flatMap {α : Type} [BEq α] [LawfulBEq α] {sep : α} {ls : List (List α)}
    {last : List α} (h : ∀ l ∈ ls, sep ∉ l) (hlast : sep ∉ last) :
    (ls.flatMap (· ++ [sep]) ++ last).splitOn sep = ls ++ [last] := by
  induction ls with
  | nil => exact List.splitOn_eq_singleton hlast
  | cons l ls ih =>
    rw [List.forall_mem_cons] at h
    rw [List.flatMap_cons, List.append_assoc, List.append_assoc, List.singleton_append,
      List.splitOn_append_cons_self_of_not_mem h.1, ih h.2, List.cons_append]

namespace Source

/-! ### What a source still gives -/

/-- The bytes that a source gives **before it ends or fails**. -/
def available (s : Source) : Bytes :=
  match s.fault with
  | some (k, _) => s.rest.take (k - s.given)
  | none => s.rest

/-- The failure that a source **comes to**, if it does not end before. -/
def ending (s : Source) : Option Failure :=
  match s.fault with
  | some (k, e) => if k ≤ s.given + s.rest.length then some e else none
  | none => none

/-- A source that does not fail gives **all its bytes**. -/
theorem available_of_ending {s : Source} (h : s.ending = none) : s.available = s.rest := by
  rw [ending] at h
  rw [available]
  cases hk : s.fault with
  | none => rfl
  | some k =>
    simp only [hk] at h
    split at h
    · cases h
    · rename_i hlt
      exact List.take_of_length_le (by omega)

/-- A failed read shows the failure that the source comes to, and that nothing was to come. -/
theorem read_failed {s s' : Source} {e : Failure} (h : s.read = (.failed e, s')) :
    s.available = [] ∧ s.ending = some e := by
  rw [read] at h
  cases hf : s.failure? with
  | none =>
    simp only [hf] at h
    split at h <;> cases h
  | some e' =>
    simp only [hf] at h
    cases h
    rw [failure?] at hf
    cases hk : s.fault with
    | none => simp only [hk, reduceCtorEq] at hf
    | some k =>
      simp only [hk] at hf
      split at hf
      · rename_i hle
        cases hf
        simp only [available, ending, hk]
        rw [if_pos (by omega), Nat.sub_eq_zero_of_le hle, List.take_zero]
        exact ⟨rfl, rfl⟩
      · cases hf

/-- An interruption changes nothing but that it is over. -/
theorem read_interrupted_eq {s s' : Source} (h : s.read = (.interrupted, s')) :
    s' = { s with interruptAt := none } := by
  rw [read] at h
  split at h
  · cases h
  · split at h
    · cases h
      rfl
    · cases h

/-- **A read takes from the front**: what it gives and what is left are what was to come. -/
theorem read_available {s s' : Source} {bs : Bytes} (h : s.read = (.bytes bs, s')) :
    bs ++ s'.available = s.available ∧ s'.ending = s.ending ∧ s'.chunk = s.chunk := by
  rw [read] at h
  cases hf : s.failure? with
  | some e =>
    simp only [hf] at h
    cases h
  | none =>
    simp only [hf] at h
    split at h
    · cases h
    cases h
    cases hk : s.fault with
    | none =>
      simp only [available, ending, window, hk, List.take_append_drop, and_self]
    | some k =>
      obtain ⟨k, e⟩ := k
      simp only [available, ending, window, hk, and_true]
      constructor
      · rcases Nat.le_total (min s.chunk (k - s.given)) s.rest.length with hle | hle
        · rw [List.length_take_of_le hle]
          have hw : k - s.given = min s.chunk (k - s.given) +
              (k - (s.given + min s.chunk (k - s.given))) := by omega
          conv_rhs => rw [hw, List.take_add]
        · rw [List.drop_of_length_le hle, List.take_of_length_le hle, List.take_nil,
            List.append_nil, List.take_of_length_le (by omega)]
      · have hlen : (s.rest.take (min s.chunk (k - s.given))).length +
            (s.rest.drop (min s.chunk (k - s.given))).length = s.rest.length := by
          rw [List.length_take, List.length_drop]
          omega
        rw [Nat.add_assoc, hlen]

/-- A read that gives nothing shows the end. -/
theorem read_nil {s s' : Source} (hc : 0 < s.chunk) (h : s.read = (.bytes [], s')) :
    s.available = [] ∧ s.ending = none := by
  rw [read] at h
  cases hf : s.failure? with
  | some e =>
    simp only [hf] at h
    cases h
  | none =>
    simp only [hf] at h
    split at h
    · cases h
    simp only [Prod.mk.injEq, ReadOutcome.bytes.injEq] at h
    obtain ⟨htake, -⟩ := h
    rw [failure?] at hf
    cases hk : s.fault with
    | none =>
      simp only [window, hk] at htake
      have hrest : s.rest = [] := (List.take_eq_nil_iff.mp htake).resolve_left (by omega)
      simp only [available, ending, hk, hrest, and_self]
    | some k =>
      obtain ⟨k, e⟩ := k
      simp only [window, hk] at htake hf
      split at hf
      · cases hf
      have hrest : s.rest = [] := (List.take_eq_nil_iff.mp htake).resolve_left (by omega)
      simp only [available, ending, hk, hrest, List.take_nil, List.length_nil]
      exact ⟨trivial, if_neg (by omega)⟩

end Source

namespace LineReader

/-! ### Line feeds -/

/-- The first line ends at the first line feed. -/
theorem splitLine?_eq_some {bs line rest : Bytes} (h : splitLine? bs = some (line, rest)) :
    ∃ l, line = l ++ [lineFeed] ∧ lineFeed ∉ l ∧ bs = l ++ lineFeed :: rest := by
  induction bs generalizing line with
  | nil => cases h
  | cons b bs ih =>
    rw [splitLine?] at h
    split at h
    · rename_i hb
      cases h
      exact ⟨[], by rw [hb]; rfl, List.not_mem_nil, by rw [hb]; rfl⟩
    · rename_i hb
      obtain ⟨⟨l, r⟩, hl, heq⟩ := Option.map_eq_some_iff.mp h
      cases heq
      obtain ⟨m, rfl, hm, rfl⟩ := ih hl
      refine ⟨b :: m, rfl, fun hmem => ?_, rfl⟩
      rcases List.mem_cons.mp hmem with hbm | hmem
      · exact hb hbm.symm
      · exact hm hmem

/-- Without a line feed there is no complete line. -/
theorem splitLine?_eq_none {bs : Bytes} (h : splitLine? bs = none) : lineFeed ∉ bs := by
  induction bs with
  | nil => exact List.not_mem_nil
  | cons b bs ih =>
    rw [splitLine?] at h
    split at h
    · cases h
    · rename_i hb
      rw [List.mem_cons, not_or]
      exact ⟨fun hbl => hb hbl.symm, ih (Option.map_eq_none_iff.mp h)⟩

/-- A line that is complete stays so when bytes follow. -/
theorem splitLine?_append {bs line rest : Bytes} (h : splitLine? bs = some (line, rest))
    (cs : Bytes) : splitLine? (bs ++ cs) = some (line, rest ++ cs) := by
  induction bs generalizing line with
  | nil => cases h
  | cons b bs ih =>
    rw [splitLine?] at h
    rw [List.cons_append, splitLine?]
    split
    · rename_i hb
      rw [if_pos hb] at h
      cases h
      rfl
    · rename_i hb
      rw [if_neg hb] at h
      obtain ⟨⟨l, r⟩, hl, heq⟩ := Option.map_eq_some_iff.mp h
      cases heq
      rw [ih hl]
      rfl

/-- Two runs of bytes without a line feed are one. -/
theorem splitLine?_append_eq_none {bs cs : Bytes} :
    splitLine? (bs ++ cs) = none ↔ splitLine? bs = none ∧ splitLine? cs = none := by
  induction bs with
  | nil => simp [splitLine?]
  | cons b bs ih =>
    rw [List.cons_append, splitLine?, splitLine?]
    split
    · simp
    · rw [Option.map_eq_none_iff, Option.map_eq_none_iff, ih]

/-- A complete line behind bytes without a line feed is the end of a longer one. -/
theorem splitLine?_append_of_none {bs cs line rest : Bytes} (hb : splitLine? bs = none)
    (h : splitLine? cs = some (line, rest)) : splitLine? (bs ++ cs) = some (bs ++ line, rest) := by
  induction bs with
  | nil => exact h
  | cons b bs ih =>
    rw [splitLine?] at hb
    split at hb
    · cases hb
    · rename_i hbl
      rw [List.cons_append, splitLine?, if_neg hbl, ih (Option.map_eq_none_iff.mp hb)]
      rfl

/-! ### Reading lines -/

/-- All bytes that a reader still gives. -/
def available (r : LineReader) : Bytes := r.ahead ++ r.source.available

/-- **A complete line** is read as far as its line feed, however many reads that takes. The bytes
`acc` that were read before belong to it. -/
theorem next_complete {acc line rest : Bytes} {r : LineReader} (hc : 0 < r.source.chunk)
    (hacc : splitLine? acc = none) (h : splitLine? (acc ++ r.available) = some (line, rest)) :
    ∃ r', next acc r = .line line r' ∧ r'.available = rest ∧
      r'.source.ending = r.source.ending ∧ 0 < r'.source.chunk := by
  fun_induction next acc r with
  | case1 acc r l rest' hs =>
    rw [available, ← List.append_assoc,
      splitLine?_append (splitLine?_append_of_none hacc hs)] at h
    cases h
    exact ⟨_, rfl, rfl, rfl, hc⟩
  | case2 acc r hs e s hr =>
    rw [available, (Source.read_failed hr).1, List.append_nil,
      splitLine?_append_eq_none.mpr ⟨hacc, hs⟩] at h
    cases h
  | case3 acc r hs s hr ih =>
    obtain rfl := Source.read_interrupted_eq hr
    refine ih hc (splitLine?_append_eq_none.mpr ⟨hacc, hs⟩) ?_
    rw [available, ← List.append_assoc] at h
    exact h
  | case4 acc r hs s hr he =>
    rw [available, (Source.read_nil hc hr).1, List.append_nil,
      splitLine?_append_eq_none.mpr ⟨hacc, hs⟩] at h
    cases h
  | case5 acc r hs s hr he =>
    rw [available, (Source.read_nil hc hr).1, List.append_nil,
      splitLine?_append_eq_none.mpr ⟨hacc, hs⟩] at h
    cases h
  | case6 acc r hs b bs s hr ih =>
    obtain ⟨havail, hend, hchunk⟩ := Source.read_available hr
    rw [available, ← havail, ← List.append_assoc] at h
    rw [← hend]
    exact ih (hchunk ▸ hc) (splitLine?_append_eq_none.mpr ⟨hacc, hs⟩) h

/-- **The last line** is what no line feed ends. It is lost if the source fails, and there is none
if nothing is left. -/
theorem next_incomplete {acc : Bytes} {r : LineReader} (hc : 0 < r.source.chunk)
    (h : splitLine? (acc ++ r.available) = none) :
    (∃ e, r.source.ending = some e ∧ next acc r = .failed e) ∨
      r.source.ending = none ∧
        (acc ++ r.available = [] ∧ next acc r = .ended ∨
          acc ++ r.available ≠ [] ∧ ∃ r', next acc r = .line (acc ++ r.available) r' ∧
            r'.available = [] ∧ r'.source.ending = none ∧ 0 < r'.source.chunk) := by
  fun_induction next acc r with
  | case1 acc r l rest' hs =>
    rw [available, splitLine?_append_eq_none, splitLine?_append_eq_none, hs] at h
    cases h.2.1
  | case2 acc r hs e s hr => exact .inl ⟨e, (Source.read_failed hr).2, rfl⟩
  | case3 acc r hs s hr ih =>
    obtain rfl := Source.read_interrupted_eq hr
    have hsum : acc ++ r.ahead ++ available ⟨[], { r.source with interruptAt := none }⟩ =
        acc ++ r.available := List.append_assoc ..
    rw [hsum] at ih
    exact ih hc h
  | case4 acc r hs s hr he =>
    obtain ⟨havail, hend⟩ := Source.read_nil hc hr
    refine .inr ⟨hend, .inl ⟨?_, rfl⟩⟩
    rw [available, havail, List.append_nil]
    exact List.isEmpty_iff.mp he
  | case5 acc r hs s hr he =>
    obtain ⟨havail, hend⟩ := Source.read_nil hc hr
    obtain ⟨havail', hend', hchunk⟩ := Source.read_available hr
    rw [List.nil_append] at havail'
    rw [available, havail, List.append_nil]
    refine .inr ⟨hend, .inr ⟨fun hnil => he (List.isEmpty_iff.mpr hnil), _, rfl, ?_, ?_, ?_⟩⟩
    · rw [available, havail', havail, List.append_nil]
    · rw [hend', hend]
    · rw [hchunk]
      exact hc
  | case6 acc r hs b bs s hr ih =>
    obtain ⟨havail, hend, hchunk⟩ := Source.read_available hr
    have hsum : acc ++ r.ahead ++ available ⟨b :: bs, s⟩ = acc ++ r.available := by
      rw [available, available, ← havail, List.append_assoc]
    rw [hsum] at ih
    rw [← hend]
    exact ih (hchunk ▸ hc) h

/-! ### All lines -/

/-- What reading gives behind the last line feed. -/
def lastLine (l : Bytes) : Option Failure → List (Except Failure Bytes)
  | some e => [.error e]
  | none => if l = [] then [] else [.ok l]

/-- The first piece is the first line without its line feed. -/
theorem splitOn_of_splitLine? {bs line rest : Bytes} (h : splitLine? bs = some (line, rest)) :
    ∃ l, line = l ++ [lineFeed] ∧ bs.splitOn lineFeed = l :: rest.splitOn lineFeed := by
  obtain ⟨l, hl, hm, rfl⟩ := splitLine?_eq_some h
  exact ⟨l, hl, List.splitOn_append_cons_self_of_not_mem hm rest⟩

/-- Without a line feed there is one piece. -/
theorem splitOn_of_splitLine?_eq_none {bs : Bytes} (h : splitLine? bs = none) :
    bs.splitOn lineFeed = [bs] :=
  List.splitOn_eq_singleton (splitLine?_eq_none h)

/-- No piece has a line feed. -/
theorem lineFeed_notMem {bs l : Bytes} (h : l ∈ bs.splitOn lineFeed) : lineFeed ∉ l := by
  induction bs generalizing l with
  | nil =>
    rw [List.splitOn_nil, List.mem_singleton] at h
    rw [h]
    exact List.not_mem_nil
  | cons b bs ih =>
    rw [List.splitOn_cons_eq_if_modifyHead] at h
    cases hs : bs.splitOn lineFeed with
    | nil => exact absurd hs (List.splitOn_ne_nil _ _)
    | cons m ms =>
      rw [hs] at ih h
      split at h
      · rcases List.mem_cons.mp h with rfl | h
        · exact List.not_mem_nil
        · exact ih h
      · rename_i hb
        rcases List.mem_cons.mp h with rfl | h
        · rw [List.mem_cons, not_or]
          exact ⟨fun hbl => hb (beq_iff_eq.mpr hbl.symm), ih List.mem_cons_self⟩
        · exact ih (List.mem_cons_of_mem m h)

/-- The end gives no lines. -/
theorem lines_of_next_ended {r : LineReader} (h : next [] r = .ended) : lines r = [] := by
  rw [lines]
  split
  · rfl
  all_goals
    rename_i heq
    rw [h] at heq
    cases heq

/-- A failure ends the lines. -/
theorem lines_of_next_failed {r : LineReader} {e : Failure} (h : next [] r = .failed e) :
    lines r = [.error e] := by
  rw [lines]
  split
  all_goals
    rename_i heq
    rw [h] at heq
    cases heq
  rfl

/-- A line comes before those that are read behind it. -/
theorem lines_of_next_line {r r' : LineReader} {l : Bytes} (h : next [] r = .line l r') :
    lines r = .ok l :: lines r' := by
  rw [lines]
  split
  all_goals
    rename_i heq
    rw [h] at heq
    cases heq
  rfl

/-- Without a line feed there is only a last line. -/
theorem lines_of_splitLine?_eq_none {r : LineReader} (hc : 0 < r.source.chunk)
    (h : splitLine? r.available = none) : lines r = lastLine r.available r.source.ending := by
  have hnone : splitLine? ([] ++ r.available) = none := h
  obtain ⟨e, he, hnext⟩ | ⟨he, ⟨hnil, hnext⟩ | ⟨hne, r', hnext, ha, he', hc'⟩⟩ :=
    next_incomplete hc hnone
  · rw [lines_of_next_failed hnext, he, lastLine]
  · rw [List.nil_append] at hnil
    rw [lines_of_next_ended hnext, he, lastLine, if_pos hnil]
  · rw [List.nil_append] at hne hnext
    have hrest : lines r' = [] := by
      have hnone' : splitLine? ([] ++ r'.available) = none := by
        rw [ha]
        rfl
      obtain ⟨e, h, -⟩ | ⟨-, ⟨-, h⟩ | ⟨h, -⟩⟩ := next_incomplete hc' hnone'
      · rw [he'] at h
        cases h
      · exact lines_of_next_ended h
      · exact absurd ha h
    rw [lines_of_next_line hnext, hrest, he, lastLine, if_neg hne]

/-- **The lines of a reader** are the pieces between the line feeds of what it still gives. How
these bytes come in chunks does not matter. -/
theorem lines_eq {before : List Bytes} {last : Bytes} {r : LineReader} (hc : 0 < r.source.chunk)
    (h : r.available.splitOn lineFeed = before ++ [last]) :
    lines r = (before.map fun l => .ok (l ++ [lineFeed])) ++ lastLine last r.source.ending := by
  induction before generalizing r with
  | nil =>
    cases hs : splitLine? r.available with
    | none =>
      rw [splitOn_of_splitLine?_eq_none hs, List.nil_append] at h
      rw [lines_of_splitLine?_eq_none hc hs, (List.cons.inj h).1]
      rfl
    | some p =>
      obtain ⟨l, -, hl⟩ := splitOn_of_splitLine? hs
      rw [h] at hl
      exact absurd (List.cons.inj hl).2.symm (List.splitOn_ne_nil _ _)
  | cons l before ih =>
    cases hs : splitLine? r.available with
    | none =>
      rw [splitOn_of_splitLine?_eq_none hs] at h
      exact absurd (List.cons.inj h).2 (by simp)
    | some p =>
      obtain ⟨m, hm, hsplit⟩ := splitOn_of_splitLine? hs
      rw [h] at hsplit
      obtain ⟨rfl, hrest⟩ := List.cons.inj hsplit
      have hcomplete : splitLine? ([] ++ r.available) = some p := hs
      obtain ⟨r', hnext, ha, he, hc'⟩ := next_complete hc rfl hcomplete
      rw [lines_of_next_line hnext, ih hc' (by rw [ha]; exact hrest.symm), he, hm]
      rfl

/-! ### Lines as texts -/

/-- The text of the bytes **between two line feeds**, with a carriage return at their end if there
is one. -/
def textOf (l : Bytes) : Except Failure (List Char) :=
  match Utf8.decode l with
  | some cs => .ok cs
  | none => .error .notUtf8

/-- The bytes of a text have that text. -/
theorem textOf_eq_ok_iff {l : Bytes} {cs : List Char} : textOf l = .ok cs ↔ Utf8.encode cs = l := by
  rw [← Utf8.decode_eq_some_iff, textOf]
  cases Utf8.decode l <;> simp

/-- **A carriage return** before the line feed is dropped. -/
theorem textOfLine_append_lineFeed (l : Bytes) :
    textOfLine (l ++ [lineFeed]) = textOf l ∨
      textOf l = (textOfLine (l ++ [lineFeed])).map (· ++ ['\r']) := by
  have hrev : (l ++ [lineFeed]).reverse = 10 :: l.reverse := List.reverse_concat
  cases hl : l.reverse with
  | nil =>
    left
    rw [textOfLine, chomp, hrev, hl, textOf, List.reverse_eq_nil_iff.mp hl]
    rfl
  | cons b m =>
    have hlm : l = m.reverse ++ [b] := by rw [← List.reverse_cons, ← hl, List.reverse_reverse]
    by_cases hb : b = 13
    · right
      subst hb
      have hchomp : chomp (l ++ [lineFeed]) = m.reverse := by
        rw [chomp, hrev, hl]
        rfl
      rw [textOfLine, hchomp, textOf, hlm, Utf8.decode_append_ascii (by decide)]
      cases Utf8.decode m.reverse <;> rfl
    · left
      have hchomp : chomp (l ++ [lineFeed]) = l := by
        rw [chomp, hrev]
        split
        · rename_i heq
          rw [hl] at heq
          exact absurd (List.cons.inj (List.cons.inj heq).2).1 hb
        · rename_i heq
          rw [← (List.cons.inj heq).2, List.reverse_reverse]
        · rename_i hno
          exact absurd rfl (hno l.reverse)
      rw [textOfLine, hchomp]
      rfl

/-- Nothing is dropped from a last line. -/
theorem textOfLine_of_not_mem {l : Bytes} (h : lineFeed ∉ l) : textOfLine l = textOf l := by
  have hchomp : chomp l = l := by
    rw [chomp]
    split
    all_goals try rfl
    all_goals
      rename_i heq
      have hmem : lineFeed ∈ l.reverse := heq ▸ List.mem_cons_self
      exact absurd (List.mem_reverse.mp hmem) h
  rw [textOfLine, hchomp]
  rfl

end LineReader

open LineReader

/-- **The lines of a source as texts**, for every chunk size. -/
theorem Source.texts_eq {before : List Bytes} {last : Bytes} {s : Source} (hc : 0 < s.chunk)
    (h : s.available.splitOn lineFeed = before ++ [last]) :
    s.texts = (before.map fun l => textOfLine (l ++ [lineFeed])) ++
      (lastLine last s.ending).map fun line => line.bind textOfLine := by
  rw [texts, lines_eq (r := ⟨[], s⟩) hc h, List.map_append, List.map_map]
  rfl

end RayTally
