import Mathlib.Data.List.TakeDrop
import RayTally.Stream.Sink

/-!
# What a sink takes

A sink may take its bytes in small portions, it may interrupt the first write, and it may have a
limit. The first two do not matter in the end, and neither do the pieces in which a text is offered:
of the whole text the sink takes the first bytes, up to its limit, and writing fails if these are
not all.

## Main results

* `Sink.write_cases`: one write is put off, or refused, or takes a portion of what fits.
* `Sink.writeAll_eq`: what fits is taken, and writing fails if that is not all.
* `Sink.writePieces_eq`: pieces are taken as the text that they make up.
* `Sink.writeAll_of_fits` / `Sink.writePieces_of_fits`: with room for all bytes, all are taken.
* `Sink.after_after`: texts offered one after the other come to what they come to as one.
-/

namespace RayTally

/-- The failure with which a full sink **refuses** bytes. -/
def WhenFull.failure : WhenFull → Failure
  | .fail e => e
  | .takeNothing => .wroteNothing

/-- What a full sink answers to a write. -/
def WhenFull.outcome : WhenFull → WriteOutcome
  | .fail e => .failed e
  | .takeNothing => .took 0

namespace Sink

variable {s : Sink} {as bs : Bytes}

/-! ### Room -/

/-- There is **room within a limit** for `n` bytes in all. -/
def Room (limit : Option Nat) (n : Nat) : Prop := ∀ k, limit = some k → n ≤ k

/-- There is **room** for `n` bytes more. -/
def Fits (s : Sink) (n : Nat) : Prop := ∀ k, s.limit = some k → s.written.length + n ≤ k

/-- The bytes that **fit** into a sink: the first ones, up to its limit. -/
def fitting (s : Sink) (bs : Bytes) : Bytes :=
  match s.limit with
  | some k => bs.take (k - s.written.length)
  | none => bs

/-- A sink without a limit has room for everything. -/
theorem fits_of_unlimited (h : s.limit = none) (n : Nat) : s.Fits n := by
  intro k hk
  rw [h] at hk
  cases hk

/-- Where there is room for all bytes, all of them fit. -/
theorem fitting_of_fits (hf : s.Fits bs.length) : s.fitting bs = bs := by
  rw [fitting]
  split
  · rename_i k hk
    have := hf k hk
    exact List.take_of_length_le (by omega)
  · rfl

/-- Bytes all of which fit do so because there is room for them. -/
theorem fits_of_fitting (hne : bs ≠ []) (h : s.fitting bs = bs) : s.Fits bs.length := by
  intro k hk
  have hpos := List.length_pos_iff.mpr hne
  simp only [fitting, hk, List.take_eq_self_iff] at h
  omega

theorem fitting_nil (s : Sink) : s.fitting [] = [] := by
  rw [fitting]
  split
  · exact List.take_nil
  · rfl

theorem fitting_prefix (s : Sink) (bs : Bytes) : s.fitting bs <+: bs := by
  rw [fitting]
  split
  · exact List.take_prefix _ bs
  · exact List.prefix_rfl

/-- What is not more than fits, fits. -/
theorem fitting_take {n : Nat} (hn : n ≤ (s.fitting bs).length) :
    s.fitting (bs.take n) = bs.take n := by
  cases hk : s.limit with
  | none => simp only [fitting, hk]
  | some k =>
    simp only [fitting, hk, List.length_take] at hn ⊢
    refine List.take_of_length_le ?_
    rw [List.length_take]
    omega

/-! ### The end of a text -/

/-- The sink **after a text** was offered: it holds what fits, and an interruption is over. -/
def after (s : Sink) (bs : Bytes) : Sink where
  written := s.written ++ s.fitting bs
  limit := s.limit
  chunk := s.chunk
  whenFull := s.whenFull
  interrupted := s.interrupted && bs.isEmpty

/-- What comes of **offering a text**: all of it must fit. -/
def verdict (s : Sink) (bs : Bytes) : Except Failure Unit :=
  if s.fitting bs = bs then .ok () else .error s.whenFull.failure

theorem after_nil (s : Sink) : s.after [] = s := by
  rw [after, fitting_nil, List.append_nil, List.isEmpty_nil, Bool.and_true]

/-- A text of which nothing fits changes nothing. -/
theorem after_of_fitting_eq_nil (hi : s.interrupted = false) (hnil : s.fitting bs = []) :
    s.after bs = s := by
  obtain ⟨written, limit, chunk, whenFull, interrupted⟩ := s
  obtain rfl : interrupted = false := hi
  rw [after, hnil, List.append_nil, Bool.false_and]

/-- What fits of a text fits **one part after the other**. -/
theorem fitting_append (h : s.fitting as = as) (bs : Bytes) :
    s.fitting (as ++ bs) = as ++ (s.after as).fitting bs := by
  cases hk : s.limit with
  | none => simp only [fitting, after, hk]
  | some k =>
    simp only [fitting, after, hk] at h ⊢
    rw [h]
    rw [List.take_eq_self_iff] at h
    rw [List.take_append, List.take_of_length_le h, List.length_append, Nat.sub_sub]

/-- If the first part of a text does not fit, **no more** fits of the text than of that part. -/
theorem fitting_append_of_ne (h : s.fitting as ≠ as) (bs : Bytes) :
    s.fitting (as ++ bs) = s.fitting as := by
  cases hk : s.limit with
  | none => exact absurd (by simp only [fitting, hk]) h
  | some k =>
    simp only [fitting, hk, ne_eq, List.take_eq_self_iff] at h ⊢
    exact List.take_append_of_le_length (by omega)

/-- Behind a part that fits, a text goes on **as a text of its own**. -/
theorem verdict_append (h : s.fitting as = as) (bs : Bytes) :
    s.verdict (as ++ bs) = (s.after as).verdict bs := by
  rw [verdict, verdict, fitting_append h]
  exact if_congr (List.append_right_inj as) rfl rfl

theorem after_append (h : s.fitting as = as) (bs : Bytes) :
    s.after (as ++ bs) = (s.after as).after bs := by
  have hempty : (as ++ bs).isEmpty = (as.isEmpty && bs.isEmpty) := by
    cases as <;> rfl
  rw [after, fitting_append h, hempty, ← List.append_assoc, ← Bool.and_assoc]
  conv_rhs => rw [after]
  simp only [after, h]

/-- A text ends where its first part does if that does not fit. -/
theorem verdict_append_of_ne (h : s.fitting as ≠ as) (bs : Bytes) :
    s.verdict (as ++ bs) = s.verdict as := by
  rw [verdict, verdict, fitting_append_of_ne h, if_neg h, if_neg]
  intro heq
  have hle := (heq ▸ fitting_prefix s as).length_le
  rw [List.length_append] at hle
  obtain rfl : bs = [] := List.eq_nil_of_length_eq_zero (by omega)
  exact h (heq.trans (List.append_nil as))

theorem after_append_of_ne (h : s.fitting as ≠ as) (bs : Bytes) :
    s.after (as ++ bs) = s.after as := by
  have hne : as ≠ [] := fun hnil => h (hnil ▸ fitting_nil s)
  have hempty : (as ++ bs).isEmpty = as.isEmpty := by
    rw [List.isEmpty_eq_false_iff.mpr hne, List.isEmpty_eq_false_iff]
    exact List.append_ne_nil_of_left_ne_nil hne bs
  rw [after, after, fitting_append_of_ne h, hempty]

/-! ### One write -/

/-- A sink accepts what fits of an offer, or a portion of that. -/
theorem accepts_eq (s : Sink) (bs : Bytes) :
    s.accepts bs.length = s.chunk.elim (s.fitting bs).length (min (s.fitting bs).length) := by
  rw [accepts, fitting]
  cases s.limit <;> cases s.chunk <;> simp only [Option.elim, List.length_take, Nat.min_comm]

/-- A portion of something is not nothing. -/
theorem portion_pos {n : Nat} (hk : s.chunk ≠ some 0) (hn : 0 < n) :
    0 < s.chunk.elim n (min n) ∧ s.chunk.elim n (min n) ≤ n := by
  cases hc : s.chunk with
  | none => exact ⟨hn, Nat.le_refl n⟩
  | some c =>
    have hpos : c ≠ 0 := fun h => hk (by rw [hc, h])
    simp only [Option.elim_some]
    omega

/-- A sink is full if nothing fits. -/
theorem isFull_iff (hne : bs ≠ []) : s.isFull = true ↔ s.fitting bs = [] := by
  have hlen := List.length_pos_iff.mpr hne
  rw [isFull, fitting]
  cases s.limit with
  | none => simp [hne]
  | some k =>
    simp only [decide_eq_true_eq, List.take_eq_nil_iff, hne, or_false]
    omega

/-- A full sink **refuses** a write. -/
theorem write_of_isFull (hi : s.interrupted = false) (hne : bs ≠ []) (hfull : s.isFull = true) :
    s.write bs = (s.whenFull.outcome, s) := by
  have hnone : s.accepts bs.length = 0 := by
    rw [accepts_eq, (isFull_iff hne).mp hfull]
    cases s.chunk <;> simp
  obtain ⟨written, limit, chunk, whenFull, interrupted⟩ := s
  obtain rfl : interrupted = false := hi
  rw [write, if_neg Bool.false_ne_true, hfull]
  cases whenFull with
  | fail e => rfl
  | takeNothing =>
    simp only [hnone, List.take_zero, List.append_nil]
    rfl

/-- A sink below its limit **takes a portion** of what fits. -/
theorem write_of_not_isFull (hk : s.chunk ≠ some 0) (hi : s.interrupted = false) (hne : bs ≠ [])
    (hfull : s.isFull = false) :
    ∃ n, 0 < n ∧ n ≤ (s.fitting bs).length ∧ s.write bs = (.took n, s.after (bs.take n)) := by
  have hpos : 0 < (s.fitting bs).length := by
    rw [List.length_pos_iff, ne_eq, ← isFull_iff hne, hfull]
    exact Bool.false_ne_true
  obtain ⟨hsome, hle⟩ := portion_pos hk hpos
  rw [← accepts_eq] at hsome hle
  refine ⟨s.accepts bs.length, hsome, hle, ?_⟩
  rw [write, if_neg (by rw [hi]; exact Bool.false_ne_true), hfull, after, fitting_take hle, hi]
  rfl

/-- **One write** is put off, or it is refused because nothing fits, or it takes a portion of what
fits. -/
theorem write_cases (hk : s.chunk ≠ some 0) (hne : bs ≠ []) :
    s.write bs = (.interrupted, { s with interrupted := false }) ∨
    (s.after bs = s ∧ s.fitting bs ≠ bs ∧ s.write bs = (s.whenFull.outcome, s)) ∨
    ∃ n, 0 < n ∧ s.fitting (bs.take n) = bs.take n ∧
      s.write bs = (.took n, s.after (bs.take n)) := by
  cases hi : s.interrupted with
  | true => exact .inl (by rw [write, if_pos hi])
  | false =>
    right
    cases hfull : s.isFull with
    | true =>
      have hnil := (isFull_iff hne).mp hfull
      exact .inl ⟨after_of_fitting_eq_nil hi hnil, hnil ▸ hne.symm, write_of_isFull hi hne hfull⟩
    | false =>
      obtain ⟨n, hn, hle, hw⟩ := write_of_not_isFull hk hi hne hfull
      exact .inr ⟨n, hn, fitting_take hle, hw⟩

/-! ### Whole texts -/

/-- **What fits is taken**, whatever the portions are, and writing fails if that is not all. Each
write moves bytes from what is still offered to what was taken, and together they stay the same. -/
theorem writeAll_eq (hk : s.chunk ≠ some 0) (bs : Bytes) :
    s.writeAll bs = (s.verdict bs, s.after bs) := by
  fun_induction writeAll s bs with
  | case1 s => rw [after_nil, verdict, if_pos (fitting_nil s)]
  | case2 s b rest h =>
    obtain hw | ⟨hafter, hno, hw⟩ | ⟨n, hn, -, hw⟩ := write_cases hk (List.cons_ne_nil b rest)
    all_goals rw [hw] at h ⊢
    · cases h
    · rw [hafter, verdict, if_neg hno]
      cases hfull : s.whenFull <;> rw [hfull] at h <;> cases h
      rfl
    · cases h
      exact absurd hn (Nat.lt_irrefl 0)
  | case3 s b rest n h ih =>
    obtain hw | ⟨-, -, hw⟩ | ⟨m, -, hfits, hw⟩ := write_cases hk (List.cons_ne_nil b rest)
    all_goals rw [hw] at h ih ⊢
    · cases h
    · cases hfull : s.whenFull <;> rw [hfull] at h <;> cases h
    · cases h
      have htext : (b :: rest).take (n + 1) ++ rest.drop n = b :: rest :=
        List.take_append_drop (n + 1) (b :: rest)
      rw [ih hk, ← verdict_append hfits, ← after_append hfits, htext]
  | case4 s b rest h ih =>
    obtain hw | ⟨-, -, hw⟩ | ⟨n, -, -, hw⟩ := write_cases hk (List.cons_ne_nil b rest)
    all_goals rw [hw] at h ih ⊢
    · have hafter : Sink.after { s with interrupted := false } (b :: rest) =
          s.after (b :: rest) := by
        rw [after, after, List.isEmpty_cons, Bool.and_false, Bool.and_false]
        rfl
      rw [ih hk, hafter]
      rfl
    · cases hfull : s.whenFull <;> rw [hfull] at h <;> cases h
    · cases h
  | case5 s b rest e h =>
    obtain hw | ⟨hafter, hno, hw⟩ | ⟨n, -, -, hw⟩ := write_cases hk (List.cons_ne_nil b rest)
    all_goals rw [hw] at h ⊢
    · cases h
    · rw [hafter, verdict, if_neg hno]
      cases hfull : s.whenFull <;> rw [hfull] at h <;> cases h
      rfl
    · cases h

/-- Behind a part that was taken, a text **goes on** where that part ended. -/
theorem writeAll_append_of_ok {s' : Sink} (hk : s.chunk ≠ some 0)
    (h : s.writeAll as = (.ok (), s')) (bs : Bytes) :
    s'.chunk = s.chunk ∧ s.writeAll (as ++ bs) = s'.writeAll bs := by
  rw [writeAll_eq hk, verdict] at h
  split at h
  · rename_i hfits
    cases h
    have hk' : (s.after as).chunk ≠ some 0 := hk
    exact ⟨rfl, by rw [writeAll_eq hk, writeAll_eq hk', verdict_append hfits, after_append hfits]⟩
  · cases h

/-- Behind a part that was not taken, a text **does not go on**. -/
theorem writeAll_append_of_error {s' : Sink} {e : Failure} (hk : s.chunk ≠ some 0)
    (h : s.writeAll as = (.error e, s')) (bs : Bytes) : s.writeAll (as ++ bs) = (.error e, s') := by
  rw [← h, writeAll_eq hk, writeAll_eq hk]
  rw [writeAll_eq hk, verdict] at h
  split at h
  · cases h
  · rename_i hno
    rw [verdict_append_of_ne hno, after_append_of_ne hno]

/-- **Pieces are taken as the text** that they make up. -/
theorem writePieces_eq (hk : s.chunk ≠ some 0) (ps : List Bytes) :
    s.writePieces ps = s.writeAll ps.flatten := by
  induction ps generalizing s with
  | nil => rw [writePieces, List.flatten_nil, writeAll_nil]
  | cons p ps ih =>
    rw [writePieces, List.flatten_cons]
    cases hp : s.writeAll p with
    | mk r s' =>
      cases r with
      | ok =>
        obtain ⟨hchunk, hrest⟩ := writeAll_append_of_ok hk hp ps.flatten
        rw [hrest]
        exact ih (hchunk ▸ hk)
      | error e => rw [writeAll_append_of_error hk hp]

/-- With room for all of them, **all bytes are taken**. -/
theorem writeAll_of_fits (hk : s.chunk ≠ some 0) (hf : s.Fits bs.length) :
    ∃ s', s.writeAll bs = (.ok (), s') ∧ s'.written = s.written ++ bs ∧ s'.limit = s.limit ∧
      s'.chunk = s.chunk := by
  have hfits := fitting_of_fits hf
  refine ⟨s.after bs, ?_, by rw [after, hfits], rfl, rfl⟩
  rw [writeAll_eq hk, verdict, if_pos hfits]

/-- With room for all of them, **all pieces are taken**. -/
theorem writePieces_of_fits {ps : List Bytes} (hk : s.chunk ≠ some 0)
    (hf : s.Fits ps.flatten.length) :
    ∃ s', s.writePieces ps = (.ok (), s') ∧ s'.written = s.written ++ ps.flatten := by
  have hfits := fitting_of_fits hf
  refine ⟨s.after ps.flatten, ?_, by rw [after, hfits]⟩
  rw [writePieces_eq hk, writeAll_eq hk, verdict, if_pos hfits]

/-! ### Texts one after the other -/

/-- Texts that are offered **one after the other** come to what they come to as one text, also where
they do not fit. -/
theorem after_after (s : Sink) (as bs : Bytes) : (s.after as).after bs = s.after (as ++ bs) := by
  by_cases h : s.fitting as = as
  · exact (after_append h bs).symm
  · rw [after_append_of_ne h]
    refine after_of_fitting_eq_nil ?_ ?_
    · have hne : as ≠ [] := fun hnil => h (hnil ▸ fitting_nil s)
      rw [after, List.isEmpty_eq_false_iff.mpr hne, Bool.and_false]
    · cases hk : s.limit with
      | none => exact absurd (by simp only [fitting, hk]) h
      | some k =>
        simp only [fitting, after, hk, List.take_eq_self_iff, List.length_append,
          List.length_take] at h ⊢
        rw [List.take_eq_nil_iff]
        omega

/-- What is held **after more was offered**, up to a limit. -/
def kept (limit : Option Nat) (held bs : Bytes) : Bytes :=
  match limit with
  | some k => held ++ bs.take (k - held.length)
  | none => held ++ bs

theorem written_after (s : Sink) (bs : Bytes) :
    (s.after bs).written = kept s.limit s.written bs := by
  cases hk : s.limit <;> simp only [after, fitting, kept, hk]

/-- A sink with **room** for a text holds all of it. -/
theorem written_after_of_fits (hf : s.Fits bs.length) : (s.after bs).written = s.written ++ bs := by
  rw [after, fitting_of_fits hf]

theorem kept_nil (limit : Option Nat) (held : Bytes) : kept limit held [] = held := by
  cases limit <;> simp [kept]

/-- The same of what is kept. -/
theorem kept_kept (limit : Option Nat) (held as bs : Bytes) :
    kept limit (kept limit held as) bs = kept limit held (as ++ bs) := by
  have hsink := after_after { written := held, limit } as bs
  have hwritten := congrArg written hsink
  rwa [written_after, written_after, written_after] at hwritten

/-- With **room** for all of it, all of it is kept. -/
theorem kept_of_room {limit : Option Nat} {held : Bytes}
    (h : Room limit (held.length + bs.length)) : kept limit held bs = held ++ bs := by
  cases limit with
  | none => rfl
  | some k =>
    have hk := h k rfl
    rw [kept, List.take_of_length_le (by omega)]

end Sink

end RayTally
