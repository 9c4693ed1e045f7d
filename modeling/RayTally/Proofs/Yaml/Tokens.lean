import RayTally.Proofs.Yaml.Lines

/-!
# The tokens of a mapping

A mapping that is not indented, with names as keys and scalars as values, is read token by token. A
key is known as one only at its colon: the name before it was a candidate, behind which the key
token is put in.

## Main results

* `Yaml.Lexer.run_key`: a name and its colon.
* `Yaml.Lexer.readsAs_line`: a value that was written as a scalar.
* `Yaml.Lexer.run_entry`, `Yaml.Lexer.run_lastEntry`: an entry, and the last one with the end of the
  mapping.
-/

namespace RayTally.Yaml

open Printer

variable {c : Char} {cs rest : List Char} {m : Mark}

theorem Mark.advance_advance (m : Mark) (n k : Nat) :
    (m.advance n).advance k = m.advance (n + k) := by
  simp [Mark.advance, Nat.add_assoc]

theorem behind_nil {α : Type} (r : Option (List Char × α)) : behind [] r = r := by
  cases r <;> rfl

theorem behind_behind {α : Type} (front text : List Char) (r : Option (List Char × α)) :
    behind front (behind text r) = behind (front ++ text) r := by
  cases r with
  | none => rfl
  | some r => exact congrArg some (Prod.ext (List.append_assoc ..).symm rfl)

/-! ### Names -/

/-- The characters of **names**, which are lower-case letters and `_`, and mean nothing else. -/
def isName (c : Char) : Bool :=
  let n := c.toNat
  (0x61 ≤ n && n ≤ 0x7A) || n == 0x5F

theorem isSpacing_of_isName (hc : isName c = true) : isSpacing c = false := by
  have hspace : c ≠ ' ' := ne_of_class hc rfl
  have htab : c ≠ '\t' := ne_of_class hc rfl
  have hfeed : c ≠ '\n' := ne_of_class hc rfl
  have hreturn : c ≠ '\r' := ne_of_class hc rfl
  have hnext : c ≠ '\x85' := ne_of_class hc rfl
  have hline : c ≠ '\u2028' := ne_of_class hc rfl
  have hparagraph : c ≠ '\u2029' := ne_of_class hc rfl
  simp [isSpacing, isBlank, isBreak, breakOf?, hspace, htab, hfeed, hreturn, hnext, hline,
    hparagraph]

theorem isAllowed_of_isName (hc : isName c = true) : isAllowed c = true := by
  simp only [isName, isAllowed, Bool.or_eq_true, Bool.and_eq_true, decide_eq_true_eq,
    beq_iff_eq] at hc ⊢
  omega

/-- A name may start a plain text, whatever follows. -/
theorem PlainStart.of_isName (hc : isName c = true) (cs : List Char) : PlainStart c cs := by
  have hindicators : "#,[]\x7b\x7d&*!|>\x27\"%@\x60".toList.all (!isName ·) = true := rfl
  refine ⟨isSpacing_of_isName hc, ?_, ?_⟩
  · rw [Bool.eq_false_iff]
    intro hcontains
    have hno := List.all_eq_true.mp hindicators c (List.contains_iff_mem.mp hcontains)
    rw [hc] at hno
    cases hno
  · have hhyphen : c ≠ '-' := ne_of_class hc rfl
    have hquestion : c ≠ '?' := ne_of_class hc rfl
    have hcolon : c ≠ ':' := ne_of_class hc rfl
    simp [hhyphen, hquestion, hcolon]

theorem PlainStart.ne_numberSign (hc : PlainStart c cs) : c ≠ '#' := by
  rintro rfl
  exact absurd hc.indicator (by decide)

/-- Only a hyphen or a point starts a line that starts or ends a document. -/
theorem atDocumentLine_of_head (hhyphen : c ≠ '-') (hpoint : c ≠ '.') (cs : List Char) (m : Mark) :
    Cursor.atDocumentLine ⟨c :: cs, m⟩ = false := by
  have hrule {x : Char} (hx : c ≠ x) : Cursor.atRule x ⟨c :: cs, m⟩ = false := by
    unfold Cursor.atRule
    split
    · rename_i h
      rw [← (List.cons.inj h).1]
      simp [hx]
    · exact Bool.and_false _
  rw [Cursor.atDocumentLine, hrule hhyphen, hrule hpoint]
  rfl

/-- **A name** is read as a plain scalar, or as the start of one. -/
theorem readPlain_name {w : List Char} (hw : ∀ c ∈ w, isName c = true) (n : Nat)
    (rest : List Char) :
    readPlain ⟨false, n⟩ .empty m (w ++ rest) =
      behind w (readPlain ⟨false, n⟩ .empty (m.advance w.length) rest) := by
  induction w generalizing m with
  | nil => exact (behind_nil _).symm
  | cons c w ih =>
    obtain ⟨hc, hw⟩ := List.forall_mem_cons.mp hw
    have hspacing := Bool.or_eq_false_iff.mp (isSpacing_of_isName hc)
    have hline := atDocumentLine_of_head (ne_of_class hc rfl) (ne_of_class hc rfl)
      (w ++ rest) m
    have hcolon : (c == ':') = false := beq_eq_false_iff_ne.mpr (ne_of_class hc rfl)
    rw [List.cons_append, readPlain_char hspacing.1 hspacing.2 hline (.inl rfl)
      (by rw [hcolon, Bool.false_and]), ih hw, behind_behind, Mark.advance_advance, Nat.add_comm 1]
    rfl

/-- A name that may be a **key**: its colon must come before it is too far back. -/
structure IsKey (w : List Char) : Prop where
  name : ∀ c ∈ w, isName c = true
  nonempty : w ≠ []
  short : w.length ≤ 1024

instance (w : List Char) : Decidable (IsKey w) :=
  decidable_of_iff (w.all isName = true ∧ w ≠ [] ∧ w.length ≤ 1024)
    ⟨fun h => ⟨List.all_eq_true.mp h.1, h.2.1, h.2.2⟩,
      fun h => ⟨List.all_eq_true.mpr h.name, h.nonempty, h.short⟩⟩

namespace Lexer

variable {s s₁ s₂ : Lexer}

/-! ### A token -/

/-- **A step**: the lexer goes to the next token and reads it. -/
theorem run_token (happroach : s.approach = some s₁) (hrest : s₁.cursor.rest = c :: cs)
    (hread : s₁.readToken c cs = some s₂) (fuel : Nat) : s.run (fuel + 1) = s₂.run fuel := by
  rw [run, happroach]
  dsimp only
  rw [hrest]
  dsimp only
  rw [hread]

/-- What may start a plain text is taken for one, outside of flow collections. -/
theorem startsPlain_of_plainStart (hc : PlainStart c cs) : startsPlain false c cs = true := by
  by_cases hsign : c = '-' ∨ c = '?' ∨ c = ':'
  · have hcs : atSpacing cs = false := by
      obtain rfl | rfl | rfl := hsign <;> exact hc.alone
    have hhead : cs.head?.any isBlank = false := by
      cases cs with
      | nil => rfl
      | cons d cs => exact (Bool.or_eq_false_iff.mp hcs).1
    obtain rfl | rfl | rfl := hsign <;> simp [startsPlain, hcs, hhead]
  · have hall : ("-?:,[]\x7b\x7d#&*!|>\x27\"%@\x60".toList.all fun x =>
        decide (x = '-' ∨ x = '?' ∨ x = ':') ||
          "#,[]\x7b\x7d&*!|>\x27\"%@\x60".toList.contains x) = true := rfl
    have hno : "-?:,[]\x7b\x7d#&*!|>\x27\"%@\x60".toList.contains c = false := by
      rw [Bool.eq_false_iff]
      intro hcontains
      have hindicator := List.all_eq_true.mp hall c (List.contains_iff_mem.mp hcontains)
      rw [hc.indicator, Bool.or_false] at hindicator
      exact hsign (of_decide_eq_true hindicator)
    rw [startsPlain, hc.spacing, hno]
    rfl

/-- Nothing else starts like a plain scalar. -/
theorem readToken_plain (hflow : s.inFlow = false) (hline : s.cursor.atDocumentLine = false)
    (hc : PlainStart c cs) : s.readToken c cs = s.readPlainScalar := by
  have hno (x : Char) (hx : "#,[]\x7b\x7d&*!|>\x27\"%@\x60".toList.contains x = true) :
      (c == x) = false := by
    rw [beq_eq_false_iff_ne]
    rintro rfl
    rw [hc.indicator] at hx
    cases hx
  obtain ⟨hhyphen, hquestion, hcolon⟩ := hc.signs
  obtain ⟨hstart, hend⟩ := Bool.or_eq_false_iff.mp hline
  simp only [readToken, hno '%' rfl, hno '[' rfl, hno '\x7b' rfl, hno ']' rfl, hno '\x7d' rfl,
    hno ',' rfl, hno '*' rfl, hno '&' rfl, hno '!' rfl, hno '|' rfl, hno '>' rfl, hno '\x27' rfl,
    hno '"' rfl, hstart, hend, hflow, hhyphen, hquestion, hcolon, startsPlain_of_plainStart hc,
    Bool.false_and, Bool.false_or, Bool.false_eq_true, if_false, if_true]

/-! ### Going to a token -/

/-- The lexer **at the left edge**: in a mapping that is not indented, or before one is opened. -/
def shallow (opened : Bool) (tokens : List Token) (c : Cursor) (k : Option Candidate)
    (keyAllowed : Bool) : Lexer where
  cursor := c
  tokens := tokens
  indent := if opened then 0 else -1
  outer := if opened then [-1] else []
  candidates := [k]
  keyAllowed := keyAllowed

variable {opened keyAllowed : Bool} {ts : List Token} {k : Option Candidate}

theorem skipToToken_spaces (hc : isSpacing c = false) (hsign : c ≠ '#') (fuel n : Nat)
    (hs : s.cursor = ⟨List.replicate n ' ' ++ c :: cs, m⟩) :
    s.skipToToken (fuel + 1) = { s with cursor := ⟨c :: cs, m.advance n⟩ } := by
  obtain ⟨hblank, hb⟩ := Bool.or_eq_false_iff.mp hc
  obtain ⟨hspace, htab⟩ := Bool.or_eq_false_iff.mp hblank
  let blank (x : Char) : Bool := x == ' ' || ((s.inFlow || !s.keyAllowed) && x == '\t')
  have hrun : (List.replicate n ' ' ++ c :: cs).takeWhile blank = List.replicate n ' ' := by
    have hspaces : ∀ x ∈ List.replicate n ' ', blank x = true := by
      intro x hx
      rw [List.eq_of_mem_replicate hx]
      rfl
    rw [List.takeWhile_append_of_pos hspaces, List.takeWhile_cons_of_neg, List.append_nil]
    simp [blank, hspace, htab]
  have hskip : s.cursor.skipWhile blank = ⟨c :: cs, m.advance n⟩ := by
    rw [hs, Cursor.skipWhile, Cursor.run, hrun, Cursor.advance, List.drop_left,
      List.length_replicate]
  rw [skipToToken, hskip]
  simp [hb, hsign]

theorem dropStale_shallow (hk : ∀ x ∈ k, isStale m x = false) (rest : List Char) :
    (shallow opened ts ⟨rest, m⟩ k keyAllowed).dropStale =
      some (shallow opened ts ⟨rest, m⟩ k keyAllowed) := by
  have hany : k.any (isStale m) = false := by
    cases k with
    | none => rfl
    | some x => exact hk x rfl
  have hcheck : (if k.any (isStale m) = true then giveUp k else some k) = some k := by
    rw [hany]
    rfl
  change (([k].mapM fun k => if k.any (isStale m) = true then giveUp k else some k).map _) = _
  rw [List.mapM_cons, hcheck]
  rfl

/-- Nothing ends that stands no further in. -/
theorem unindent_shallow (c : Cursor) (n : Nat) :
    (shallow opened ts c k keyAllowed).unindent n = shallow opened ts c k keyAllowed := by
  cases opened with
  | false => rfl
  | true =>
    have hno : ¬(n : Int) < 0 := Int.not_lt.mpr (Int.natCast_nonneg n)
    let s := shallow true ts c k keyAllowed
    have hnone : unindentTo n s.cursor.mark s.indent s.outer s.tokens = (0, [-1], ts) := by
      change unindentTo n c.mark 0 [-1] ts = _
      rw [unindentTo, if_neg hno]
    change s.unindent n = _
    rw [unindent, hnone]
    rfl

/-- **Spaces** before a token are passed over. A candidate must not be too far back. -/
theorem approach_shallow (hc : isSpacing c = false) (hsign : c ≠ '#') (n : Nat)
    (hk : ∀ x ∈ k, isStale (m.advance n) x = false) :
    (shallow opened ts ⟨List.replicate n ' ' ++ c :: cs, m⟩ k keyAllowed).approach =
      some (shallow opened ts ⟨c :: cs, m.advance n⟩ k keyAllowed) := by
  rw [approach, skipToToken_spaces hc hsign _ n rfl]
  change (dropStale (shallow opened ts ⟨c :: cs, m.advance n⟩ k keyAllowed)).map _ = _
  rw [dropStale_shallow hk, Option.map_some, unindent_shallow]

/-! ### Plain scalars -/

/-- **A plain scalar** becomes a candidate where a key may start. -/
theorem readPlainScalar_shallow (opened keyAllowed : Bool) (ts : List Token) {text : List Char}
    {e : PlainEnd} (hread : readPlain ⟨false, if opened then 1 else 0⟩ .empty m rest =
      some (text, e)) :
    ∃ required, (shallow opened ts ⟨rest, m⟩ none keyAllowed).readPlainScalar =
      some (shallow opened (ts ++ [⟨.scalar .plain text, m, e.cursor.mark⟩]) e.cursor
        (if keyAllowed then some ⟨m, ts.length, required⟩ else none) e.afterBreak) := by
  let s (k : Option Candidate) : Lexer := shallow opened ts ⟨rest, m⟩ k keyAllowed
  let required : Bool := !false && (s none).indent == (m.column : Int)
  have hadd : (s none).addCandidate =
      some (s (if keyAllowed then some ⟨m, ts.length, required⟩ else none)) := by
    cases keyAllowed <;> rfl
  have hread' (k : Option Candidate) :
      readPlain ⟨(s k).inFlow, ((s k).indent + 1).toNat⟩ .empty (s k).cursor.mark
        (s k).cursor.rest = some (text, e) := by
    cases opened <;> exact hread
  refine ⟨required, ?_⟩
  change (s none).readPlainScalar = _
  rw [readPlainScalar, hadd]
  dsimp only
  rw [hread']
  rfl

/-- Spaces and a plain scalar behind them. -/
theorem run_plain (opened keyAllowed : Bool) (ts : List Token) {text : List Char} {e : PlainEnd}
    (hc : PlainStart c cs) (n : Nat)
    (hline : Cursor.atDocumentLine ⟨c :: cs, m.advance n⟩ = false)
    (hread : readPlain ⟨false, if opened then 1 else 0⟩ .empty (m.advance n) (c :: cs) =
      some (text, e)) :
    ∃ required, ∀ fuel,
      (shallow opened ts ⟨List.replicate n ' ' ++ c :: cs, m⟩ none keyAllowed).run (fuel + 1) =
        (shallow opened (ts ++ [⟨.scalar .plain text, m.advance n, e.cursor.mark⟩]) e.cursor
          (if keyAllowed then some ⟨m.advance n, ts.length, required⟩ else none)
          e.afterBreak).run fuel := by
  obtain ⟨required, hscalar⟩ := readPlainScalar_shallow opened keyAllowed ts hread
  refine ⟨required, run_token (approach_shallow hc.spacing hc.ne_numberSign n nofun) rfl ?_⟩
  exact (readToken_plain rfl hline hc).trans hscalar

/-! ### Keys -/

/-- A name ends before its colon. -/
theorem readPlain_colon (n : Nat) (m : Mark) (t : List Char) :
    readPlain ⟨false, n⟩ .empty m (':' :: ' ' :: t) =
      some ([], ⟨⟨':' :: ' ' :: t, m⟩, false⟩) := by
  have hline := atDocumentLine_of_head (c := ':') (by decide) (by decide) (' ' :: t) m
  have hstops : stopsPlain ⟨false, n⟩ .empty m ':' (' ' :: t) = false := by
    rw [stopsPlain, hline]
    rfl
  change (if stopsPlain ⟨false, n⟩ .empty m ':' (' ' :: t) = true then _ else _) = _
  rw [hstops]
  rfl

theorem readToken_colon (t : List Char) (hline : s.cursor.atDocumentLine = false) :
    s.readToken ':' (' ' :: t) = s.readValue := by
  obtain ⟨hstart, hend⟩ := Bool.or_eq_false_iff.mp hline
  have hspacing : atSpacing (' ' :: t) = true := rfl
  rw [readToken, hstart, hend, hspacing, Bool.or_true]
  rfl

/-- **A key** is put in behind the tokens before its candidate, and opens the mapping. -/
theorem readValue_shallow (opened : Bool) (ts : List Token) (token : Token) (t : List Char)
    {start : Mark} (required : Bool) (hstart : start.column = 0) :
    ∃ ts' m', ts'.map Token.kind = (if opened then [] else [.blockMappingStart]) ++
        [.key, token.kind, .value] ∧ m'.column ≠ 0 ∧
      (shallow opened (ts ++ [token]) ⟨':' :: ' ' :: t, m⟩ (some ⟨start, ts.length, required⟩)
        false).readValue = some (shallow true (ts ++ ts') ⟨' ' :: t, m'⟩ none false) := by
  let opening : List Token := if opened then [] else [⟨.blockMappingStart, start, start⟩]
  refine ⟨opening ++ [⟨.key, start, start⟩, token, ⟨.value, m, m.advance 1⟩], m.advance 1, ?_,
    Nat.succ_ne_zero _, ?_⟩
  · cases opened <;> rfl
  · cases opened <;>
    simp [opening, readValue, shallow, insert, indentTo, inFlow, indicator, emit, hstart,
      Cursor.advance]

/-- **A name and its colon** are a key, for which the mapping is opened if it is not yet. -/
theorem run_key (opened : Bool) (ts : List Token) {w : List Char} (hw : IsKey w) (t : List Char)
    (hm : m.column = 0) :
    ∃ ts' m', ts'.map Token.kind = (if opened then [] else [.blockMappingStart]) ++
        [.key, .scalar .plain w, .value] ∧ m'.column ≠ 0 ∧
      ∀ fuel, (shallow opened ts ⟨w ++ ':' :: ' ' :: t, m⟩ none true).run (fuel + 2) =
        (shallow true (ts ++ ts') ⟨' ' :: t, m'⟩ none false).run fuel := by
  have hread (n : Nat) : readPlain ⟨false, n⟩ .empty m (w ++ ':' :: ' ' :: t) =
      some (w, ⟨⟨':' :: ' ' :: t, m.advance w.length⟩, false⟩) := by
    rw [readPlain_name hw.name, readPlain_colon, behind_eq_some rfl, List.append_nil]
  have hcolon : Cursor.atDocumentLine ⟨':' :: ' ' :: t, m.advance w.length⟩ = false :=
    atDocumentLine_of_head (by decide) (by decide) _ _
  obtain ⟨c, ds, rfl⟩ := List.exists_cons_of_ne_nil hw.nonempty
  have hc := hw.name c List.mem_cons_self
  obtain ⟨required, hname⟩ := run_plain opened true ts (.of_isName hc _) 0
    (atDocumentLine_of_head (ne_of_class hc rfl) (ne_of_class hc rfl) _ _) (hread _)
  have hfresh : isStale (m.advance (c :: ds).length) ⟨m, ts.length, required⟩ = false := by
    have hnear : ¬m.index + 1024 < m.index + (c :: ds).length :=
      Nat.not_lt.mpr (Nat.add_le_add_left hw.short m.index)
    rw [isStale, Bool.or_eq_false_iff]
    exact ⟨decide_eq_false (Nat.lt_irrefl _), decide_eq_false hnear⟩
  obtain ⟨ts', m', hkinds, hm', hvalue⟩ := readValue_shallow (m := m.advance (c :: ds).length)
    opened ts ⟨.scalar .plain (c :: ds), m, _⟩ t required hm
  refine ⟨ts', m', hkinds, hm', fun fuel => (hname (fuel + 1)).trans ?_⟩
  refine run_token (approach_shallow rfl (by decide) 0 fun x hx => ?_) rfl
    ((readToken_colon t hcolon).trans hvalue) fuel
  rw [← Option.some.inj hx]
  exact hfresh

/-! ### Values -/

/-- A name ends with its line, behind which there is nothing or another name. -/
theorem readPlain_lineFeed_name (hrest : ∀ c ∈ rest.head?, isName c = true) (m : Mark) :
    readPlain ⟨false, 1⟩ .empty m ('\n' :: rest) = some ([], ⟨⟨rest, m.newLine 1⟩, true⟩) := by
  cases rest with
  | nil => rfl
  | cons c cs =>
    have hc := hrest c rfl
    have hspacing := Bool.or_eq_false_iff.mp (isSpacing_of_isName hc)
    have hreturn : c ≠ '\r' := ne_of_class hc rfl
    change readPlain ⟨false, 1⟩ ⟨[], some ['\n'], []⟩ (m.newLine 1) (c :: cs) = _
    rw [readPlain, hspacing.1, if_neg Bool.false_ne_true,
      breakOf?_of_not_isBreak hspacing.2]
    · rfl
    · exact fun _ h => absurd h hreturn

/-- **A name as a value**, with the end of its line. -/
theorem run_name (ts : List Token) {w : List Char} (hw : IsKey w)
    (hrest : ∀ c ∈ rest.head?, isName c = true) (hm : m.column ≠ 0) :
    ∃ token m', token.kind = .scalar .plain w ∧ m'.column = 0 ∧
      ∀ fuel, (shallow true ts ⟨' ' :: (w ++ '\n' :: rest), m⟩ none false).run (fuel + 1) =
        (shallow true (ts ++ [token]) ⟨rest, m'⟩ none true).run fuel := by
  have hm₁ := column_advance_ne_zero 1 hm
  have hread : readPlain ⟨false, 1⟩ .empty (m.advance 1) (w ++ '\n' :: rest) =
      some (w, ⟨⟨rest, ((m.advance 1).advance w.length).newLine 1⟩, true⟩) := by
    rw [readPlain_name hw.name, readPlain_lineFeed_name hrest, behind_eq_some rfl, List.append_nil]
  obtain ⟨c, ds, rfl⟩ := List.exists_cons_of_ne_nil hw.nonempty
  obtain ⟨required, hname⟩ := run_plain true false ts
    (.of_isName (hw.name c List.mem_cons_self) _) 1 (atDocumentLine_of_column hm₁ _) hread
  exact ⟨_, _, rfl, rfl, hname⟩

theorem readToken_quote (cs : List Char) (hline : s.cursor.atDocumentLine = false) :
    s.readToken '\x27' cs = s.readQuoted .singleQuoted := by
  obtain ⟨hstart, hend⟩ := Bool.or_eq_false_iff.mp hline
  rw [readToken, hstart, hend]
  rfl

theorem readToken_doubleQuote (cs : List Char) (hline : s.cursor.atDocumentLine = false) :
    s.readToken '"' cs = s.readQuoted .doubleQuoted := by
  obtain ⟨hstart, hend⟩ := Bool.or_eq_false_iff.mp hline
  rw [readToken, hstart, hend]
  rfl

theorem readToken_bar (cs : List Char) (hflow : s.inFlow = false)
    (hline : s.cursor.atDocumentLine = false) :
    s.readToken '|' cs = s.readBlockScalar .literal := by
  obtain ⟨hstart, hend⟩ := Bool.or_eq_false_iff.mp hline
  rw [readToken, hstart, hend, hflow]
  rfl

/-- **A quoted scalar** where no key may start. -/
theorem readQuoted_shallow {style : Style} {text : List Char} {next : Cursor}
    (hread : (if style = .singleQuoted then readSingleQuoted .empty (m.advance 1) cs
      else readDoubleQuoted .empty (m.advance 1) cs) = some (text, next)) :
    (shallow true ts ⟨c :: cs, m⟩ none false).readQuoted style =
      some (shallow true (ts ++ [⟨.scalar style text, m, next.mark⟩]) next none false) := by
  change (shallow true ts ⟨c :: cs, m⟩ none false).read (Option.map _
    (if style = .singleQuoted then readSingleQuoted .empty (m.advance 1) cs
      else readDoubleQuoted .empty (m.advance 1) cs)) = _
  rw [hread]
  rfl

/-- **A block**, behind which a key may start. -/
theorem readBlockScalar_shallow {style : Style} {text : List Char} {next : Cursor}
    (hread : readBlock style 0 ⟨cs, m.advance 1⟩ = some (text, next)) :
    (shallow true ts ⟨c :: cs, m⟩ none keyAllowed).readBlockScalar style =
      some (shallow true (ts ++ [⟨.scalar style text, m, next.mark⟩]) next none true) := by
  change ((shallow true ts ⟨c :: cs, m⟩ none keyAllowed).read (Option.map _
    (readBlock style 0 ⟨cs, m.advance 1⟩))).map _ = _
  rw [hread]
  rfl

/-- A line that reads as **a value**, of which no more than a line feed is left. -/
def ReadsAs (value : List Char) (kind : TokenKind) : Prop :=
  ∀ (ts : List Token) (m : Mark), m.column ≠ 0 → ∃ token rest m' keyAllowed,
    token.kind = kind ∧ (rest = [] ∨ rest = ['\n']) ∧
      ∀ fuel, (shallow true ts ⟨' ' :: value, m⟩ none false).run (fuel + 1) =
        (shallow true (ts ++ [token]) ⟨rest, m'⟩ none keyAllowed).run fuel

theorem readsAs_name {w : List Char} (hw : IsKey w) : ReadsAs (w ++ ['\n']) (.scalar .plain w) := by
  intro ts m hm
  have hend : ∀ c ∈ ([] : List Char).head?, isName c = true := nofun
  obtain ⟨token, m', hkind, -, hrun⟩ := run_name ts hw hend hm
  exact ⟨token, [], m', true, hkind, .inl rfl, hrun⟩

/-- **A text as a value** is read in its style. -/
theorem readsAs_line (cs : List Char) : ReadsAs (line cs) (.scalar (style cs) cs) := by
  intro ts m hm
  have hm₁ := column_advance_ne_zero 1 hm
  have hm₂ := column_advance_ne_zero 1 hm₁
  have hstyled := styled_style cs
  rw [line]
  generalize style cs = st at hstyled
  cases hstyled with
  | plain hcs =>
    obtain ⟨m', hread⟩ := readPlain_lineFeed hcs hm₁
    obtain ⟨c, ds, rfl, htext⟩ := exists_plainText hcs
    obtain ⟨required, hplain⟩ := run_plain true false ts htext.start.append_lineFeed 1
      (atDocumentLine_of_column hm₁ _) hread
    exact ⟨_, [], m', true, rfl, .inl rfl, hplain⟩
  | singleQuoted hfeed hprint hbs hsb =>
    have hend : ['\n'].head? ≠ some '\x27' := by decide
    obtain ⟨m', hread⟩ := readSingleQuoted_singleQuotedBody false hprint hfeed hbs hsb (.empty cs)
      (fun _ => hm₂) hend
    refine ⟨⟨.scalar .singleQuoted cs, m.advance 1, m'⟩, ['\n'], m', false, rfl, .inr rfl, ?_⟩
    exact run_token (approach_shallow rfl (by decide) 1 nofun) rfl
      ((readToken_quote _ (atDocumentLine_of_column hm₁ _)).trans (readQuoted_shallow hread))
  | doubleQuoted =>
    obtain ⟨m', hread⟩ := readDoubleQuoted_flatMap (g := .empty) cs rfl hm₂ ['\n']
    refine ⟨⟨.scalar .doubleQuoted cs, m.advance 1, m'⟩, ['\n'], m', false, rfl, .inr rfl, ?_⟩
    rw [if_neg (by nofun), inStyle, List.cons_append, List.cons_append, List.append_assoc]
    exact run_token (approach_shallow rfl (by decide) 1 nofun) rfl
      ((readToken_doubleQuote _ (atDocumentLine_of_column hm₁ _)).trans (readQuoted_shallow hread))
  | literal hne hprint =>
    obtain ⟨m', hread⟩ := readBlock_literal hne hprint ((m.advance 1).advance 1)
    refine ⟨⟨.scalar .literal cs, m.advance 1, m'⟩, [], m', true, rfl, .inl rfl, ?_⟩
    have hline : inStyle cs .literal ++
          (if Style.literal = .literal ∧ cs.getLast?.any isBreak then [] else ['\n']) =
        '|' :: (indentHint cs ++ chompingSign (chomping cs) ++
          '\n' :: (blockBody true cs ++ lineEnd cs)) := by
      simp [inStyle, lineEnd]
    rw [hline]
    exact run_token (approach_shallow rfl (by decide) 1 nofun) rfl
      ((readToken_bar _ rfl (atDocumentLine_of_column hm₁ _)).trans (readBlockScalar_shallow hread))

/-! ### The end -/

/-- At the end of the text, or at the end of its last line, there is no token to come. -/
theorem approach_end (hrest : rest = [] ∨ rest = ['\n']) (keyAllowed : Bool) (ts : List Token)
    (m : Mark) :
    ∃ m' keyAllowed', (shallow true ts ⟨rest, m⟩ none keyAllowed).approach =
      some (shallow true ts ⟨[], m'⟩ none keyAllowed') := by
  obtain rfl | rfl := hrest
  · exact ⟨m.advance 0, keyAllowed, rfl⟩
  · cases keyAllowed <;> exact ⟨((m.advance 0).newLine 1).advance 0, true, rfl⟩

/-- **The end of the text** ends the mapping. -/
theorem run_end (hrest : rest = [] ∨ rest = ['\n']) (keyAllowed : Bool) (ts : List Token)
    (m : Mark) :
    ∃ ts', ts'.map Token.kind = [.blockEnd, .streamEnd] ∧
      ∀ fuel, (shallow true ts ⟨rest, m⟩ none keyAllowed).run (fuel + 1) = some (ts ++ ts') := by
  obtain ⟨m', keyAllowed', happroach⟩ := approach_end hrest keyAllowed ts m
  let stop : Mark := if m'.column = 0 then m' else m'.newLine 0
  refine ⟨[⟨.blockEnd, stop, stop⟩, ⟨.streamEnd, stop, stop⟩], rfl, fun fuel => ?_⟩
  rw [run, happroach]
  change some ((ts ++ [_]) ++ [_]) = _
  rw [List.append_assoc]
  rfl

end Lexer

/-! ### Entries -/

/-- An **entry of scalars**: a plain key, and a value in some style. -/
structure ScalarEntry where
  key : List Char
  style : Style
  text : List Char

/-- What the tokens of an entry stand for. -/
def ScalarEntry.kinds (e : ScalarEntry) : List TokenKind :=
  [.key, .scalar .plain e.key, .value, .scalar e.style e.text]

namespace Lexer

variable {k w value : List Char} {style : Style}

/-- **An entry with a name as its value** is read to the end of its line. The first one opens the
mapping. -/
theorem run_entry (opened : Bool) (ts : List Token) (hk : IsKey k) (hw : IsKey w)
    (hrest : ∀ c ∈ rest.head?, isName c = true) (hm : m.column = 0) :
    ∃ ts' m', ts'.map Token.kind = (if opened then [] else [.blockMappingStart]) ++
        ScalarEntry.kinds ⟨k, .plain, w⟩ ∧ m'.column = 0 ∧
      ∀ fuel, (shallow opened ts ⟨k ++ ':' :: ' ' :: (w ++ '\n' :: rest), m⟩ none true).run
          (fuel + 3) = (shallow true (ts ++ ts') ⟨rest, m'⟩ none true).run fuel := by
  obtain ⟨ts₁, m₁, hkinds, hm₁, hkey⟩ := run_key opened ts hk
    (w ++ '\n' :: rest) hm
  obtain ⟨token, m₂, hkind, hm₂, hname⟩ := run_name (ts ++ ts₁) hw hrest hm₁
  refine ⟨ts₁ ++ [token], m₂, ?_, hm₂, fun fuel => ?_⟩
  · rw [List.map_append, hkinds, List.map_singleton, hkind, List.append_assoc]
    rfl
  · rw [hkey (fuel + 1), hname fuel, List.append_assoc]

/-- **The last entry** is read to the end of the text. -/
theorem run_lastEntry (opened : Bool) (ts : List Token) (hk : IsKey k)
    (hvalue : ReadsAs value (.scalar style cs)) (hm : m.column = 0) :
    ∃ ts', ts'.map Token.kind = (if opened then [] else [.blockMappingStart]) ++
        ScalarEntry.kinds ⟨k, style, cs⟩ ++ [.blockEnd, .streamEnd] ∧
      ∀ fuel, (shallow opened ts ⟨k ++ ':' :: ' ' :: value, m⟩ none true).run (fuel + 4) =
        some (ts ++ ts') := by
  obtain ⟨ts₁, m₁, hkinds₁, hm₁, hkey⟩ := run_key opened ts hk value hm
  obtain ⟨token, rest, m₂, keyAllowed, hkind, hrest, hscalar⟩ := hvalue (ts ++ ts₁) m₁ hm₁
  obtain ⟨ts₂, hkinds₂, hend⟩ := run_end hrest keyAllowed (ts ++ ts₁ ++ [token]) m₂
  refine ⟨ts₁ ++ [token] ++ ts₂, ?_, fun fuel => ?_⟩
  · rw [List.map_append, List.map_append, hkinds₁, hkinds₂, List.map_singleton, hkind,
      List.append_assoc _ _ [_]]
    rfl
  · rw [hkey (fuel + 2), hscalar (fuel + 1), hend fuel]
    simp only [List.append_assoc]

end Lexer

end RayTally.Yaml
