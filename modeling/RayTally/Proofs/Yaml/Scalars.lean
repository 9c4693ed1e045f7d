import Mathlib.Algebra.Group.Nat.Defs
import RayTally.Proofs.Text.Encoding
import RayTally.Yaml.Printer

/-!
# Scalars of one line or in quotes read back

A text is written plain, between single or between double quotes, and reads back from the left of
what follows it. Blanks and breaks inside are not read at once: they are a gap until the next
character shows what becomes of them. So what is read back is the gap so far and the text to come.

## Main results

* `Yaml.readSingleQuoted_singleQuotedBody`: between single quotes.
* `Yaml.readDoubleQuoted_flatMap`: between double quotes.
* `Yaml.readPlain_lineFeed`: plain, up to the end of a line.
-/

namespace RayTally.Yaml

open Printer

variable {c d : Char} {cs rest : List Char} {g : Gap} {m : Mark}

/-! ### Characters -/

/-- A character of a class is not one outside of it. -/
theorem ne_of_class {p : Char → Bool} (hc : p c = true) (hd : p d = false) : c ≠ d := by
  rintro rfl
  rw [hc] at hd
  cases hd

/-- A character that is written as it is may stand in a text. -/
theorem isAllowed_of_isPrintable (h : isPrintable c = true) : isAllowed c = true := by
  simp only [isPrintable, isAllowed, Bool.or_eq_true, Bool.and_eq_true, decide_eq_true_eq,
    beq_iff_eq] at h ⊢
  omega

/-- Of the blanks, only the space is written as it is. -/
theorem isBlank_of_isPrintable (h : isPrintable c = true) (hc : c ≠ ' ') : isBlank c = false := by
  have htab : c ≠ '\t' := ne_of_class h rfl
  simp [isBlank, hc, htab]

/-- A break that is written as it is reads as itself. -/
theorem breakOf?_of_isPrintable (h : isPrintable c = true) (hb : isBreak c = true) :
    breakOf? c = some c := by
  have hreturn : c ≠ '\r' := ne_of_class h rfl
  have hnext : c ≠ '\x85' := ne_of_class h rfl
  rw [isBreak] at hb
  unfold breakOf? at hb ⊢
  split
  · rename_i hc
    simp only [beq_iff_eq, hreturn, hnext, Bool.or_eq_true, or_false] at hc
    rw [hc]
  · rename_i hc
    rw [if_neg hc] at hb
    split
    · rfl
    · rename_i hc'
      rw [if_neg hc'] at hb
      cases hb

theorem breakOf?_of_not_isBreak (h : isBreak c = false) : breakOf? c = none :=
  Option.isNone_iff_eq_none.mp (by rw [← Option.not_isSome, ← isBreak, h]; rfl)

theorem ne_return_of_not_isBreak (h : isBreak c = false) : c ≠ '\r' :=
  (ne_of_class (p := isBreak) rfl h).symm

/-- A carriage return is not kept as it is. -/
theorem ne_return_of_breakOf? (h : breakOf? c = some c) : c ≠ '\r' := by
  rintro rfl
  cases h

theorem isBlank_of_breakOf? (h : breakOf? c = some c) : isBlank c = false := by
  rw [isBlank, Bool.or_eq_false_iff, beq_eq_false_iff_ne, beq_eq_false_iff_ne]
  constructor <;> rintro rfl <;> cases h

/-- Neighbours in a text are the first two characters and those behind the first one. -/
theorem hasNeighbours_cons {p : Char → Char → Bool} :
    hasNeighbours p (c :: cs) = false ↔
      (∀ d ∈ cs.head?, p c d = false) ∧ hasNeighbours p cs = false := by
  cases cs with
  | nil => simp [hasNeighbours]
  | cons d cs => simp [hasNeighbours]

/-- Within a line there is no line that starts or ends a document. -/
theorem atDocumentLine_of_column (hm : m.column ≠ 0) (cs : List Char) :
    Cursor.atDocumentLine ⟨cs, m⟩ = false := by
  simp [Cursor.atDocumentLine, Cursor.atRule, hm]

theorem column_advance_ne_zero (n : Nat) (hm : m.column ≠ 0) : (m.advance n).column ≠ 0 :=
  Nat.ne_of_gt (Nat.add_pos_left (Nat.pos_of_ne_zero hm) n)

/-- What is read behind a part of a scalar. -/
theorem behind_eq_some {α : Type} {front text : List Char} {x : α} {r : Option (List Char × α)}
    (h : r = some (text, x)) : behind front r = some (front ++ text, x) := by
  rw [h]
  rfl

/-- Within a line a blank more counts. -/
theorem Gap.addBlank_of_first (hg : g.first = none) (c : Char) :
    (g.addBlank c).first = none ∧ (g.addBlank c).text = g.text ++ [c] := by
  simp [Gap.addBlank, Gap.text, hg]

/-! ### Single quotes -/

theorem readSingleQuoted_break (hb : breakOf? c = some c) (cs : List Char) :
    readSingleQuoted g m (c :: cs) = readSingleQuoted (g.addBreak [c]) (m.newLine 1) cs := by
  have hquote : c ≠ '\x27' := by
    rintro rfl
    cases hb
  rw [readSingleQuoted, isBlank_of_breakOf? hb, if_neg Bool.false_ne_true, hb]
  · exact fun _ h => absurd h (ne_return_of_breakOf? hb)
  · exact fun _ h => absurd h hquote

/-- A character that is neither a blank nor a break nor a quote stands for itself. -/
theorem readSingleQuoted_char (hblank : isBlank c = false) (hb : isBreak c = false)
    (hquote : c ≠ '\x27') (hm : m.column ≠ 0) (cs : List Char) :
    readSingleQuoted g m (c :: cs) =
      behind (g.text ++ [c]) (readSingleQuoted .empty (m.advance 1) cs) := by
  rw [readSingleQuoted, hblank, if_neg Bool.false_ne_true, breakOf?_of_not_isBreak hb]
  · dsimp only
    rw [atDocumentLine_of_column hm, if_neg Bool.false_ne_true, if_neg hquote]
  · exact fun _ h => absurd h (ne_return_of_not_isBreak hb)
  · exact fun _ h => absurd h hquote

/-- The closing quote, which must not be doubled. -/
theorem readSingleQuoted_close (hrest : rest.head? ≠ some '\x27') (hm : m.column ≠ 0) :
    readSingleQuoted g m ('\x27' :: rest) = some (g.text, ⟨rest, m.advance 1⟩) := by
  rw [readSingleQuoted]
  · change (if Cursor.atDocumentLine ⟨'\x27' :: rest, m⟩ = true then _ else _) = _
    rw [atDocumentLine_of_column hm, if_neg Bool.false_ne_true]
    rfl
  · exact fun _ h => absurd h (by decide)
  · rintro cs - rfl
    exact hrest rfl

/-- The **gap before the text to come**, in a line or behind a break. Spaces are not next to a
break, where they would not count. -/
inductive SingleGap : Bool → Gap → List Char → Prop
  | inLine {blanks cs : List Char} (apart : blanks = [] ∨ ∀ c ∈ cs.head?, isBreak c = false) :
    SingleGap false ⟨blanks, none, []⟩ cs
  | newLine {b : Char} {further cs : List Char} (notLineFeed : b ≠ '\n')
    (apart : cs.head? ≠ some ' ') : SingleGap true ⟨[], some [b], further⟩ cs

namespace SingleGap

variable {fresh : Bool}

theorem empty (cs : List Char) : SingleGap false .empty cs := .inLine (.inl rfl)

/-- A space more, in a line. -/
theorem addBlank (hg : SingleGap fresh g (' ' :: cs))
    (hcs : hasSpaceThenBreak (' ' :: cs) = false) :
    SingleGap false (g.addBlank ' ') cs ∧ (g.addBlank ' ').text = g.text ++ [' '] := by
  cases hg with
  | inLine =>
    refine ⟨.inLine (.inr fun d hd => ?_), rfl⟩
    simpa using (hasNeighbours_cons.mp hcs).1 d hd
  | newLine _ hapart => exact absurd rfl hapart

/-- A break more. -/
theorem addBreak (hg : SingleGap fresh g (c :: cs)) (hb : isBreak c = true) (hc : c ≠ '\n')
    (hcs : hasBreakThenSpace (c :: cs) = false) :
    SingleGap true (g.addBreak [c]) cs ∧ (g.addBreak [c]).text = g.text ++ [c] := by
  have hhead : cs.head? ≠ some ' ' := by
    intro hspace
    have := (hasNeighbours_cons.mp hcs).1 ' ' hspace
    simp [hb] at this
  cases hg with
  | @inLine blanks _ hapart =>
    have hblanks : blanks = [] := hapart.resolve_right fun hno => by
      rw [hno c rfl] at hb
      cases hb
    subst hblanks
    refine ⟨.newLine hc hhead, ?_⟩
    simp [Gap.addBreak, Gap.text, hc]
  | @newLine b further _ hfirst _ =>
    refine ⟨.newLine hfirst hhead, ?_⟩
    simp [Gap.addBreak, Gap.text, hfirst]

/-- The indentation of a new line is passed over. -/
theorem read_indentation (hg : SingleGap fresh g cs) (hm : fresh = false → m.column ≠ 0)
    (text : List Char) :
    ∃ m', m'.column ≠ 0 ∧
      readSingleQuoted g m ((if fresh then indentation else []) ++ text) =
        readSingleQuoted g m' text := by
  cases hg with
  | inLine => exact ⟨m, hm rfl, rfl⟩
  | newLine => exact ⟨(m.advance 1).advance 1, Nat.succ_ne_zero _, rfl⟩

end SingleGap

/-- **A text between single quotes reads back.** The breaks in it are not line feeds, and no space
is next to one. -/
theorem readSingleQuoted_singleQuotedBody (fresh : Bool) (hprint : ∀ c ∈ cs, isPrintable c = true)
    (hfeed : '\n' ∉ cs) (hbs : hasBreakThenSpace cs = false) (hsb : hasSpaceThenBreak cs = false)
    (hg : SingleGap fresh g cs) (hm : fresh = false → m.column ≠ 0)
    (hrest : rest.head? ≠ some '\x27') :
    ∃ m', readSingleQuoted g m (singleQuotedBody fresh cs ++ rest) =
      some (g.text ++ cs, ⟨rest, m'⟩) := by
  induction cs generalizing fresh g m with
  | nil =>
    obtain ⟨m', hm', hread⟩ := hg.read_indentation hm ('\x27' :: rest)
    refine ⟨m'.advance 1, ?_⟩
    rw [singleQuotedBody, List.append_assoc, List.cons_append, List.nil_append, hread,
      List.append_nil]
    exact readSingleQuoted_close hrest hm'
  | cons c cs ih =>
    obtain ⟨hc, hprint'⟩ := List.forall_mem_cons.mp hprint
    obtain ⟨hfeedc, hfeed'⟩ := not_or.mp (mt List.mem_cons.mpr hfeed)
    have ih' (fresh : Bool) (g : Gap) (m : Mark) (hg : SingleGap fresh g cs)
        (hm : fresh = false → m.column ≠ 0) :=
      ih fresh hprint' hfeed' (hasNeighbours_cons.mp hbs).2 (hasNeighbours_cons.mp hsb).2 hg hm
    by_cases hb : isBreak c = true
    · obtain ⟨hg', htext⟩ := hg.addBreak hb (Ne.symm hfeedc) hbs
      obtain ⟨m', hread⟩ := ih' true _ (m.newLine 1) hg' nofun
      refine ⟨m', ?_⟩
      rw [singleQuotedBody, if_pos hb, List.cons_append,
        readSingleQuoted_break (breakOf?_of_isPrintable hc hb), hread, htext, List.append_assoc]
      rfl
    · obtain ⟨m₁, hm₁, hindent⟩ := hg.read_indentation hm
        ((if c = '\x27' then ['\x27', c] else [c]) ++ (singleQuotedBody false cs ++ rest))
      rw [singleQuotedBody, if_neg hb, List.append_assoc, List.append_assoc, hindent]
      have hblank (hspace : c ≠ ' ') := isBlank_of_isPrintable hc hspace
      have hnext (m : Mark) (hm : m.column ≠ 0) := ih' false .empty m (.empty cs) fun _ => hm
      by_cases hspace : c = ' '
      · subst hspace
        obtain ⟨hg', htext⟩ := hg.addBlank hsb
        obtain ⟨m', hread⟩ := ih' false _ _ hg' fun _ => column_advance_ne_zero 1 hm₁
        refine ⟨m', ?_⟩
        rw [htext, List.append_assoc] at hread
        exact hread
      by_cases hquote : c = '\x27'
      · subst hquote
        obtain ⟨m', hread⟩ := hnext _ (column_advance_ne_zero 2 hm₁)
        refine ⟨m', (behind_eq_some hread).trans ?_⟩
        rw [List.append_assoc]
        rfl
      · obtain ⟨m', hread⟩ := hnext _ (column_advance_ne_zero 1 hm₁)
        refine ⟨m', ?_⟩
        rw [if_neg hquote, List.cons_append, List.nil_append,
          readSingleQuoted_char (hblank hspace) (Bool.not_eq_true _ ▸ hb) hquote hm₁,
          behind_eq_some hread, List.append_assoc]
        rfl

/-! ### Double quotes -/

theorem hexDigit?_hexDigit : ∀ n < 16, hexDigit? (hexDigit n) = some n := by decide

/-- **A number is read from its hexadecimal digits**, if there are enough of them. -/
theorem hexValue?_hexDigits {k n : Nat} (hn : n < 16 ^ k) : hexValue? (hexDigits k n) = some n := by
  induction k generalizing n with
  | zero =>
    obtain rfl : n = 0 := Nat.lt_one_iff.mp hn
    rfl
  | succ k ih =>
    have hhigh : hexValue? (hexDigits k (n / 16)) = some (n / 16) :=
      ih (Nat.div_lt_of_lt_mul (by rwa [Nat.mul_comm, ← Nat.pow_succ]))
    have hlow := hexDigit?_hexDigit (n % 16) (Nat.mod_lt n (by decide))
    rw [hexValue?] at hhigh ⊢
    rw [hexDigits, List.foldl_append, hhigh]
    simp only [List.foldl_cons, List.foldl_nil, Option.bind_some, hlow, Option.map_some,
      Option.some.injEq]
    omega

theorem numberedChar?_hexDigits {k : Nat} (hc : c.toNat < 16 ^ k) :
    numberedChar? (hexDigits k c.toNat) = some c := by
  have hbounds := Utf8.toNat_bounds c
  rw [numberedChar?, hexValue?_hexDigits hc]
  dsimp only
  rw [if_pos (by omega), Char.ofNat_toNat]

/-- A character that was given by its number, with what is read behind it. -/
def readNumbered (g : Gap) (m : Mark) (cs : List Char) : Option Char → Option (List Char × Cursor)
  | some c => behind (g.text ++ [c]) (readDoubleQuoted .empty m cs)
  | none => none

/-- A character given by its number is read. -/
theorem readDoubleQuoted_numbered (g : Gap) (m : Mark) (c : Char) :
    ∃ m', m'.column ≠ 0 ∧ ∀ cs, readDoubleQuoted g m ('\\' :: numbered c ++ cs) =
      behind (g.text ++ [c]) (readDoubleQuoted .empty m' cs) := by
  have hbounds := Utf8.toNat_bounds c
  unfold numbered
  dsimp only
  split
  · refine ⟨m.advance 4, Nat.succ_ne_zero _, fun cs => ?_⟩
    have hchar : numberedChar? (hexDigits 2 c.toNat) = some c := numberedChar?_hexDigits (by omega)
    change readNumbered g (m.advance 4) cs (numberedChar? (hexDigits 2 c.toNat)) = _
    rw [hchar]
    rfl
  split
  · refine ⟨m.advance 6, Nat.succ_ne_zero _, fun cs => ?_⟩
    have hchar : numberedChar? (hexDigits 4 c.toNat) = some c := numberedChar?_hexDigits (by omega)
    change readNumbered g (m.advance 6) cs (numberedChar? (hexDigits 4 c.toNat)) = _
    rw [hchar]
    rfl
  · refine ⟨m.advance 10, Nat.succ_ne_zero _, fun cs => ?_⟩
    have hchar : numberedChar? (hexDigits 8 c.toNat) = some c := numberedChar?_hexDigits (by omega)
    change readNumbered g (m.advance 10) cs (numberedChar? (hexDigits 8 c.toNat)) = _
    rw [hchar]
    rfl

/-- **An escaped character** is read, whatever the character. -/
theorem readDoubleQuoted_escape (g : Gap) (m : Mark) (c : Char) :
    ∃ m', m'.column ≠ 0 ∧ ∀ cs, readDoubleQuoted g m ('\\' :: escape c ++ cs) =
      behind (g.text ++ [c]) (readDoubleQuoted .empty m' cs) := by
  unfold escape
  split
  case h_15 => exact readDoubleQuoted_numbered g m c
  all_goals exact ⟨m.advance 2, Nat.succ_ne_zero _, fun cs => rfl⟩

/-- A character that needs no escape and is no space stands for itself. -/
theorem readDoubleQuoted_char (hc : needsEscape c = false) (hspace : c ≠ ' ') (hm : m.column ≠ 0)
    (cs : List Char) :
    readDoubleQuoted g m (c :: cs) =
      behind (g.text ++ [c]) (readDoubleQuoted .empty (m.advance 1) cs) := by
  simp only [needsEscape, Bool.or_eq_false_iff, Bool.not_eq_false', beq_eq_false_iff_ne] at hc
  obtain ⟨⟨⟨hprint, hb⟩, hquote⟩, hbackslash⟩ := hc
  have hreturn : c ≠ '\r' := ne_of_class hprint rfl
  have hblank := isBlank_of_isPrintable hprint hspace
  rw [readDoubleQuoted.eq_def]
  split
  case h_8 h =>
    obtain ⟨rfl, rfl⟩ := List.cons.inj h
    rw [hblank, if_neg Bool.false_ne_true, breakOf?_of_not_isBreak hb]
    dsimp only
    rw [atDocumentLine_of_column hm, if_neg Bool.false_ne_true, if_neg hquote]
  case h_1 => contradiction
  case h_2 h => exact absurd (List.cons.inj h).1 hreturn
  all_goals exact absurd (List.cons.inj ‹_›).1 hbackslash

/-- **A text between double quotes reads back**, whatever the text. -/
theorem readDoubleQuoted_flatMap (cs : List Char) (hg : g.first = none) (hm : m.column ≠ 0)
    (rest : List Char) :
    ∃ m', readDoubleQuoted g m (cs.flatMap doubleQuotedChar ++ '"' :: rest) =
      some (g.text ++ cs, ⟨rest, m'⟩) := by
  induction cs generalizing g m with
  | nil =>
    refine ⟨m.advance 1, ?_⟩
    rw [List.append_nil]
    change (if Cursor.atDocumentLine ⟨'"' :: rest, m⟩ = true then _ else _) = _
    rw [atDocumentLine_of_column hm, if_neg Bool.false_ne_true]
    rfl
  | cons c cs ih =>
    rw [List.flatMap_cons, List.append_assoc, doubleQuotedChar]
    by_cases hescape : needsEscape c = true
    · obtain ⟨m₁, hm₁, hread⟩ := readDoubleQuoted_escape g m c
      obtain ⟨m', hrest⟩ := ih (g := .empty) rfl hm₁
      refine ⟨m', ?_⟩
      rw [if_pos hescape, hread, behind_eq_some hrest, List.append_assoc]
      rfl
    rw [if_neg hescape, List.cons_append, List.nil_append]
    have hm₁ := column_advance_ne_zero 1 hm
    by_cases hspace : c = ' '
    · subst hspace
      obtain ⟨hfirst, htext⟩ := Gap.addBlank_of_first hg ' '
      obtain ⟨m', hread⟩ := ih hfirst hm₁
      refine ⟨m', ?_⟩
      rw [htext, List.append_assoc] at hread
      exact hread
    · obtain ⟨m', hrest⟩ := ih (g := .empty) rfl hm₁
      refine ⟨m', ?_⟩
      rw [readDoubleQuoted_char (Bool.not_eq_true _ ▸ hescape) hspace hm, behind_eq_some hrest,
        List.append_assoc]
      rfl

/-! ### Plain -/

/-- Whether spacing follows is the same before the end of a line and before the end of a text. -/
theorem atSpacing_append_lineFeed (cs : List Char) : atSpacing (cs ++ ['\n']) = atSpacing cs := by
  cases cs <;> rfl

/-- A character that ends nothing stands for itself, outside of flow collections. -/
theorem readPlain_char {n : Nat} (hblank : isBlank c = false) (hb : isBreak c = false)
    (hline : Cursor.atDocumentLine ⟨c :: cs, m⟩ = false)
    (hgap : g.isEmpty = true ∨ n ≤ m.column ∧ c ≠ '#')
    (hcolon : (c == ':' && atSpacing cs) = false) :
    readPlain ⟨false, n⟩ g m (c :: cs) =
      behind (g.text ++ [c]) (readPlain ⟨false, n⟩ .empty (m.advance 1) cs) := by
  have hstops : stopsPlain ⟨false, n⟩ g m c cs = false := by
    obtain hempty | ⟨hcolumn, hsign⟩ := hgap
    · simp [stopsPlain, hempty, hline]
    · simp [stopsPlain, hsign, Nat.not_lt.mpr hcolumn, hline]
  have hends : endsPlain ⟨false, n⟩ c cs = false := by
    rw [endsPlain, hcolon]
    rfl
  rw [readPlain, hblank, if_neg Bool.false_ne_true, breakOf?_of_not_isBreak hb]
  · dsimp only
    rw [hstops, hends]
    rfl
  · exact fun _ h => absurd h (ne_return_of_not_isBreak hb)

theorem readPlain_space (hg : g.first = none) (cs : List Char) :
    readPlain ⟨false, 1⟩ g m (' ' :: cs) =
      readPlain ⟨false, 1⟩ (g.addBlank ' ') (m.advance 1) cs := by
  change (if (g.first.isSome && decide (m.column < 1) && ' ' == '\t') = true then none else _) = _
  rw [hg]
  rfl

/-- **A plain text** is read to the end of its line, behind a character `c` of it. It is a value in
a mapping that is not indented, so it goes on behind the first column. -/
theorem readPlain_append_lineFeed (hprint : ∀ c ∈ cs, isPrintable c = true ∧ isBreak c = false)
    (hinside : containsSyntax (c :: cs) = false) (hlast : (c :: cs).getLast? ≠ some ' ')
    (hg : g.first = none) (hblanks : g.isEmpty = true ∨ c = ' ') (hm : m.column ≠ 0) :
    ∃ m', readPlain ⟨false, 1⟩ g m (cs ++ ['\n']) = some (g.text ++ cs, ⟨⟨[], m'⟩, true⟩) := by
  induction cs generalizing c g m with
  | nil =>
    have hempty : g.isEmpty = true := hblanks.resolve_right fun hc => hlast (by rw [hc]; rfl)
    have htext : g.text = [] := by
      simpa [Gap.isEmpty, Gap.text, hg] using hempty
    have hbreak : (g.addBreak ['\n']).first.isSome = true := by simp [Gap.addBreak, hg]
    refine ⟨m.newLine 1, ?_⟩
    rw [htext, ← hbreak]
    rfl
  | cons d cs ih =>
    obtain ⟨hd, hprint'⟩ := List.forall_mem_cons.mp hprint
    simp only [containsSyntax, Bool.or_eq_false_iff] at hinside
    obtain ⟨⟨hcomment, hcolon⟩, hinside'⟩ := hinside
    have hlast' : (d :: cs).getLast? ≠ some ' ' := by rwa [List.getLast?_cons_cons] at hlast
    have hm₁ := column_advance_ne_zero 1 hm
    by_cases hspace : d = ' '
    · subst hspace
      obtain ⟨hfirst, htext⟩ := Gap.addBlank_of_first hg ' '
      obtain ⟨m', hread⟩ := ih hprint' hinside' hlast' hfirst (.inr rfl) hm₁
      refine ⟨m', ?_⟩
      rw [htext, List.append_assoc] at hread
      rw [List.cons_append, readPlain_space hg]
      exact hread
    · have hgap : g.isEmpty = true ∨ 1 ≤ m.column ∧ d ≠ '#' := by
        refine hblanks.imp_right fun hc => ⟨Nat.pos_of_ne_zero hm, fun hd => ?_⟩
        rw [hc, hd] at hcomment
        cases hcomment
      obtain ⟨m', hread⟩ := ih (g := .empty) hprint' hinside' hlast' rfl (.inl rfl) hm₁
      refine ⟨m', ?_⟩
      rw [List.cons_append, readPlain_char (isBlank_of_isPrintable hd.1 hspace) hd.2
        (atDocumentLine_of_column hm _) hgap (by rwa [atSpacing_append_lineFeed]),
        behind_eq_some hread, List.append_assoc]
      rfl

/-- What a plain text may **start** with: neither spacing nor an indicator. Three signs are
indicators only where they stand alone. -/
structure PlainStart (c : Char) (cs : List Char) : Prop where
  spacing : isSpacing c = false
  indicator : "#,[]\x7b\x7d&*!|>\x27\"%@\x60".toList.contains c = false
  alone : ((c == '-' || c == '?' || c == ':') && atSpacing cs) = false

namespace PlainStart

/-- It starts a plain text also with the end of its line behind. -/
theorem append_lineFeed (hc : PlainStart c cs) : PlainStart c (cs ++ ['\n']) := by
  refine ⟨hc.spacing, hc.indicator, ?_⟩
  rw [atSpacing_append_lineFeed]
  exact hc.alone

/-- None of the three signs stands alone. -/
theorem signs (hc : PlainStart c cs) : (c == '-' && atSpacing cs) = false ∧
    (c == '?' && atSpacing cs) = false ∧ (c == ':' && atSpacing cs) = false := by
  obtain h | h := Bool.and_eq_false_iff.mp hc.alone
  · rw [Bool.or_eq_false_iff, Bool.or_eq_false_iff] at h
    simp [h]
  · simp [h]

end PlainStart

/-- What is known of a text that may be plain, by its first character. -/
structure PlainText (c : Char) (cs : List Char) : Prop where
  standsForItself : standsForItself (c :: cs) = true
  written : ∀ d ∈ c :: cs, isPrintable d = true ∧ isBreak d = false
  start : PlainStart c cs
  last : (c :: cs).getLast? ≠ some ' '
  inside : containsSyntax (c :: cs) = false

theorem exists_plainText (hcs : allowsPlain cs = true) : ∃ c ds, cs = c :: ds ∧ PlainText c ds := by
  cases cs with
  | nil => exact absurd hcs (by decide)
  | cons c ds =>
    simp only [allowsPlain, Bool.and_eq_true, List.all_eq_true, Bool.not_eq_true',
      bne_iff_ne] at hcs
    obtain ⟨⟨⟨⟨⟨hself, hwritten⟩, hhead⟩, hlast⟩, hstart⟩, hinside⟩ := hcs
    obtain ⟨hprint, hb⟩ := hwritten c List.mem_cons_self
    have hblank := isBlank_of_isPrintable hprint fun h => hhead (by rw [h]; rfl)
    have hstart' : ("#,[]\x7b\x7d&*!|>\x27\"%@\x60".toList.contains c ||
        ((c == '-' || c == '?' || c == ':') && atSpacing ds)) = false := by
      unfold startsLikeSyntax at hstart
      split at hstart
      case h_3 h =>
        obtain ⟨rfl, rfl⟩ := List.cons.inj h
        exact hstart
      all_goals contradiction
    obtain ⟨hindicator, halone⟩ := Bool.or_eq_false_iff.mp hstart'
    have hspacing : isSpacing c = false := Bool.or_eq_false_iff.mpr ⟨hblank, hb⟩
    exact ⟨c, ds, rfl, hself, hwritten, ⟨hspacing, hindicator, halone⟩, hlast, hinside⟩

/-- **A text that may be plain reads back** from a line of its own. -/
theorem readPlain_lineFeed (hcs : allowsPlain cs = true) (hm : m.column ≠ 0) :
    ∃ m', readPlain ⟨false, 1⟩ .empty m (cs ++ ['\n']) = some (cs, ⟨⟨[], m'⟩, true⟩) := by
  obtain ⟨c, ds, rfl, htext⟩ := exists_plainText hcs
  obtain ⟨hblank, hb⟩ := Bool.or_eq_false_iff.mp htext.start.spacing
  obtain ⟨m', hread⟩ := readPlain_append_lineFeed (g := .empty)
    (List.forall_mem_cons.mp htext.written).2 htext.inside htext.last rfl (.inl rfl)
    (column_advance_ne_zero 1 hm)
  refine ⟨m', ?_⟩
  rw [List.cons_append, readPlain_char hblank hb (atDocumentLine_of_column hm _) (.inl rfl)
    htext.start.append_lineFeed.signs.2.2, behind_eq_some hread]
  rfl

end RayTally.Yaml
