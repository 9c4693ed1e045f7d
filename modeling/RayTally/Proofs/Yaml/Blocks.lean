import Mathlib.Data.List.TakeWhile
import RayTally.Proofs.Yaml.Scalars

/-!
# Blocks of lines read back

A block is a header, which says what becomes of the breaks at the end, and lines that are indented
by two columns. Between two lines the reader looks for the next one: it passes over breaks and then
over the indentation. A line is what stands before the next break.

## Main results

* `Yaml.readBlockHeader_written`: the header that is written.
* `Yaml.exists_findsLine`: from the start of a line to the next one that is not empty.
* `Yaml.readBlockLines_blockBody`: the lines, from one that is not empty.
* `Yaml.readBlock_literal`: the block.
-/

namespace RayTally.Yaml

open Printer

variable {c b : Char} {cs ds rest : List Char} {m : Mark}

/-! ### The header -/

/-- The indentation is given if the block starts with a space or a break. -/
def givenIndent (cs : List Char) : Option Nat := if indentHint cs = [] then none else some 2

/-- **The header** that is written is read, up to the end of its line. -/
theorem readBlockHeader_written (cs rest : List Char) (k : Chomping) (m : Mark) :
    ∃ m', m'.column = 0 ∧
      readBlockHeader ⟨indentHint cs ++ chompingSign k ++ '\n' :: rest, m⟩ =
        some (⟨k, givenIndent cs⟩, ⟨rest, m'⟩) := by
  have hhint : indentHint cs = [] ∨ indentHint cs = ['2'] := by
    unfold indentHint
    split
    · split
      · exact .inr rfl
      · exact .inl rfl
    · exact .inl rfl
  rw [givenIndent]
  obtain hhint | hhint := hhint <;> rw [hhint]
  · cases k <;> exact ⟨_, rfl, rfl⟩
  · cases k <;> exact ⟨_, rfl, rfl⟩

/-! ### Finding a line -/

/-- Behind a break a line starts. -/
theorem blockBody_break (hb : isBreak b = true) (fresh : Bool) (cs : List Char) :
    blockBody fresh (b :: cs) = b :: blockBody true cs := by
  rw [blockBody, if_pos hb]

/-- A line that is not empty is indented. -/
theorem blockBody_line (hc : isBreak c = false) (cs : List Char) :
    blockBody true (c :: cs) = indentation ++ blockBody false (c :: cs) := by
  simp [blockBody, hc]

theorem blockBody_char (hc : isBreak c = false) (cs : List Char) :
    blockBody false (c :: cs) = c :: blockBody false cs := by
  simp [blockBody, hc]

/-- The characters of a line stand as they are. -/
theorem blockBody_append {line : List Char} (hline : ∀ c ∈ line, isBreak c = false)
    (cs : List Char) : blockBody false (line ++ cs) = line ++ blockBody false cs := by
  induction line with
  | nil => rfl
  | cons c line ih =>
    obtain ⟨hc, hline⟩ := List.forall_mem_cons.mp hline
    rw [List.cons_append, blockBody_char hc, ih hline]
    rfl

theorem blockBody_of_line {line : List Char} (hline : ∀ c ∈ line, isBreak c = false) :
    blockBody false line = line := by
  have hbody := blockBody_append hline []
  rwa [List.append_nil, blockBody, List.append_nil] at hbody

/-- **The next line is found**: either the text is at its end, or its rest starts within a line,
which is indented. -/
inductive FindsLine (tail : List Char) : List Char → List Char → Cursor → Prop
  | atEnd {bs : List Char} {m : Mark} (last : tail = []) (breaks : ∀ b ∈ bs, isBreak b = true) :
    FindsLine tail bs bs ⟨[], m⟩
  | inLine (bs : List Char) {cs : List Char} {c : Char} {m : Mark} (here : isBreak c = false)
    (column : m.column = 2) :
    FindsLine tail (bs ++ c :: cs) bs ⟨blockBody false (c :: cs) ++ tail, m⟩

theorem readBlockBreaks_break (hb : breakOf? b = some b) (limit : Option Nat) (reached : Nat)
    (m : Mark) (rest : List Char) :
    readBlockBreaks limit reached m (b :: rest) =
      behind [b] (readBlockBreaks limit (max reached m.column) (m.newLine 1) rest) := by
  obtain ⟨hspace, htab⟩ := Bool.or_eq_false_iff.mp (isBlank_of_breakOf? hb)
  rw [readBlockBreaks, hspace, htab, hb]
  · rfl
  · exact fun _ h => absurd h (ne_return_of_breakOf? hb)

/-- A line that is not indented further starts behind the indentation. -/
theorem readBlockBreaks_stop (hb : isBreak c = false) {limit : Option Nat}
    (hlimit : limit.all (m.column < ·) = false ∨ isBlank c = false) (reached : Nat)
    (rest : List Char) :
    readBlockBreaks limit reached m (c :: rest) =
      some ([], max reached m.column, ⟨c :: rest, m⟩) := by
  have hblank (x : Char) (hx : isBlank c = false → (c == x) = false) :
      (c == x && limit.all (m.column < ·)) = false := by
    obtain h | h := hlimit
    · rw [h, Bool.and_false]
    · rw [hx h, Bool.false_and]
  have hspace := hblank ' ' fun h => (Bool.or_eq_false_iff.mp h).1
  have htab := hblank '\t' fun h => (Bool.or_eq_false_iff.mp h).2
  rw [readBlockBreaks, hspace, htab, breakOf?_of_not_isBreak hb]
  · rfl
  · exact fun _ h => absurd h (ne_return_of_not_isBreak hb)

/-- **The indentation** of a line is passed over, up to a limit, or as far as there are spaces. -/
theorem readBlockBreaks_line {limit : Option Nat} {tail : List Char} (hc : isBreak c = false)
    (hlimit : limit = some 2 ∨ limit = none ∧ isBlank c = false) (hm : m.column = 0)
    (reached : Nat) :
    readBlockBreaks limit reached m (blockBody true (c :: cs) ++ tail) =
      some ([], max reached 2, ⟨blockBody false (c :: cs) ++ tail, (m.advance 1).advance 1⟩) := by
  have hcolumn : ((m.advance 1).advance 1).column = 2 := by
    change m.column + 1 + 1 = 2
    rw [hm]
  have hindent (rest : List Char) : readBlockBreaks limit reached m (indentation ++ rest) =
      readBlockBreaks limit reached ((m.advance 1).advance 1) rest := by
    obtain ⟨i, l, k⟩ := m
    subst hm
    obtain rfl | ⟨rfl, -⟩ := hlimit <;> rfl
  have hstop : limit.all (((m.advance 1).advance 1).column < ·) = false ∨ isBlank c = false := by
    rw [hcolumn]
    obtain rfl | ⟨-, hblank⟩ := hlimit
    · exact .inl rfl
    · exact .inr hblank
  rw [blockBody_line hc, List.append_assoc, hindent, blockBody_char hc, List.cons_append,
    readBlockBreaks_stop hc hstop, hcolumn]

/-- **From the start of a line** the next line is found. -/
theorem exists_findsLine {tail : List Char} (hprint : ∀ c ∈ cs, isPrintable c = true)
    (htail : (∀ c ∈ cs, isBreak c = true) → tail = []) (reached : Nat) (hm : m.column = 0) :
    ∃ bs r cursor, readBlockBreaks (some 2) reached m (blockBody true cs ++ tail) =
      some (bs, r, cursor) ∧ FindsLine tail cs bs cursor := by
  induction cs generalizing reached m with
  | nil =>
    have htail := htail nofun
    subst htail
    exact ⟨[], _, _, rfl, .atEnd rfl nofun⟩
  | cons c cs ih =>
    obtain ⟨hc, hprint'⟩ := List.forall_mem_cons.mp hprint
    by_cases hb : isBreak c = true
    · have htail' (hcs : ∀ d ∈ cs, isBreak d = true) : tail = [] :=
        htail (List.forall_mem_cons.mpr ⟨hb, hcs⟩)
      obtain ⟨bs, r, cursor, hread, hfinds⟩ := ih hprint' htail' (max reached m.column)
        (m := m.newLine 1) rfl
      refine ⟨c :: bs, r, cursor, ?_, ?_⟩
      · rw [blockBody_break hb, List.cons_append,
          readBlockBreaks_break (breakOf?_of_isPrintable hc hb), behind_eq_some hread]
        rfl
      · cases hfinds with
        | atEnd hlast hbs => exact .atEnd hlast (List.forall_mem_cons.mpr ⟨hb, hbs⟩)
        | inLine bs here column => exact .inLine (c :: bs) here column
    · have hb' : isBreak c = false := Bool.not_eq_true _ ▸ hb
      exact ⟨[], _, _, readBlockBreaks_line hb' (.inl rfl) hm reached, .inLine [] hb' (by
        change m.column + 1 + 1 = 2
        rw [hm])⟩

/-! ### The breaks at the end -/

/-- What ends the last line: nothing if a break of the text does. -/
def lineEnd (cs : List Char) : List Char := if cs.getLast?.any isBreak then [] else ['\n']

theorem lineEnd_append (cs : List Char) (hds : ds ≠ []) : lineEnd (cs ++ ds) = lineEnd ds := by
  rw [lineEnd, lineEnd, List.getLast?_append_of_ne_nil _ hds]

theorem lineEnd_of_breaks (hds : ∀ c ∈ ds, isBreak c = true) (hne : ds ≠ []) : lineEnd ds = [] := by
  have hlast := hds _ (List.getLast_mem hne)
  rw [lineEnd, List.getLast?_eq_some_getLast hne, Option.any_some, if_pos hlast]

theorem lineEnd_of_line (hds : ∀ c ∈ ds, isBreak c = false) : lineEnd ds = ['\n'] := by
  rw [lineEnd, if_neg]
  intro hany
  obtain ⟨c, hc, hb⟩ := (Option.any_eq_true _ _).mp hany
  rw [hds c (List.mem_of_getLast? hc)] at hb
  cases hb

/-- Behind a line that no break ends, there is nothing to keep. -/
theorem chomping_of_line {line : List Char} (hline : ∀ c ∈ line, isBreak c = false) :
    chomping line = .strip := by
  have hmem : ∀ c ∈ line.reverse, isBreak c = false := fun c hc => hline c (List.mem_reverse.mp hc)
  rw [chomping]
  match line.reverse, hmem with
  | [], _ => rfl
  | c :: cs, hmem =>
    have hc := hmem c List.mem_cons_self
    cases cs <;> simp [hc]

/-- A text that ends in several breaks keeps them. -/
theorem chomping_of_breaks {bs : List Char} (hbs : ∀ b ∈ bs, isBreak b = true)
    (hlength : 2 ≤ bs.length) (cs : List Char) : chomping (cs ++ bs) = .keep := by
  have hmem : ∀ b ∈ bs.reverse, isBreak b = true := fun b hb => hbs b (List.mem_reverse.mp hb)
  rw [← List.length_reverse] at hlength
  rw [chomping, List.reverse_append]
  match bs.reverse, hmem, hlength with
  | b :: b' :: _, hmem, _ =>
    obtain ⟨hb, hmem⟩ := List.forall_mem_cons.mp hmem
    have hb' := hmem b' List.mem_cons_self
    simp [hb, hb']

/-- A text of nothing but breaks keeps them. -/
theorem chomping_of_only_breaks {bs : List Char} (hbs : ∀ b ∈ bs, isBreak b = true)
    (hne : bs ≠ []) : chomping bs = .keep := by
  match bs, hbs with
  | [], _ => exact absurd rfl hne
  | [b], hbs =>
    have hb := hbs b List.mem_cons_self
    simp [chomping, hb]
  | b :: b' :: bs, hbs => exact chomping_of_breaks hbs (Nat.le_add_left 2 bs.length) []

/-- **The breaks behind the last line** that is not empty remain. -/
theorem chomping_text_of_breaks {line bs : List Char} (hline : ∀ c ∈ line, isBreak c = false)
    (hne : line ≠ []) (hbs : ∀ d ∈ b :: bs, isBreak d = true) :
    (chomping (line ++ b :: bs)).text ⟨[b], bs⟩ = b :: bs := by
  cases bs with
  | nil =>
    have hb := hbs b List.mem_cons_self
    have hlast := hline _ (List.getLast_mem hne)
    have hclip : chomping (line ++ [b]) = .clip := by
      rw [← List.dropLast_append_getLast hne, chomping, List.reverse_append, List.reverse_append]
      simp [hb, hlast]
    rw [hclip]
    rfl
  | cons b' bs =>
    rw [chomping_of_breaks hbs (Nat.le_add_left 2 bs.length)]
    rfl

/-- Only what stands from the last line on counts. -/
theorem chomping_append (hc : isBreak c = false) (cs ds : List Char) :
    chomping (cs ++ c :: ds) = chomping (c :: ds) := by
  rw [chomping, chomping, List.reverse_append, List.reverse_cons, List.append_assoc]
  match ds.reverse with
  | [] => cases cs.reverse <;> simp [hc]
  | [_] => rfl
  | _ :: _ :: _ => rfl

/-! ### Lines -/

/-- A line is what stands before the next break. -/
theorem exists_line (cs : List Char) :
    ∃ line after, cs = line ++ after ∧ (∀ c ∈ line, isBreak c = false) ∧
      ∀ b ∈ after.head?, isBreak b = true := by
  refine ⟨cs.takeWhile fun c => !isBreak c, cs.dropWhile fun c => !isBreak c,
    List.takeWhile_append_dropWhile.symm, fun c hc => ?_, fun b hb => ?_⟩
  · simpa using List.mem_takeWhile_imp hc
  · have hhead := List.head?_dropWhile_not (fun c => !isBreak c) cs
    rw [hb] at hhead
    simpa using hhead

theorem readBreak_cons (hb : breakOf? b = some b) (rest : List Char) (m : Mark) :
    Cursor.readBreak ⟨b :: rest, m⟩ = ([b], ⟨rest, m.newLine 1⟩) := by
  unfold Cursor.readBreak
  split
  · rename_i h
    exact absurd (List.cons.inj h).1 (ne_return_of_breakOf? hb)
  · rename_i h
    obtain ⟨rfl, rfl⟩ := List.cons.inj h
    rw [hb]
  · contradiction

/-- **A line is read** with the break that ends it, and the next line is found. -/
theorem readBlockLines_line {line further : List Char} {r : Nat} {next : Cursor}
    (hline : ∀ d ∈ c :: line, isBreak d = false) (hb : breakOf? b = some b) (hm : m.column = 2)
    (hnext : readBlockBreaks (some 2) 0 ((m.advance (line.length + 1)).newLine 1) rest =
      some (further, r, next)) (fuel : Nat) (g : BlockGap) (blankBefore : Bool) :
    readBlockLines .literal 2 (fuel + 1) g blankBefore ⟨c :: line ++ b :: rest, m⟩ =
      behind (g.first ++ g.further ++ c :: line)
        (readBlockLines .literal 2 fuel ⟨[b], further⟩ (isBlank c) next) := by
  have hbreak : isBreak b = true := by
    rw [isBreak, hb]
    rfl
  have hrun : Cursor.run ⟨c :: line ++ b :: rest, m⟩ (fun x => !isBreak x) = c :: line := by
    rw [Cursor.run, List.takeWhile_append_of_pos fun d hd => by rw [hline d hd]; rfl]
    simp [hbreak]
  have hskip : Cursor.skipWhile ⟨c :: line ++ b :: rest, m⟩ (fun x => !isBreak x) =
      ⟨b :: rest, m.advance (line.length + 1)⟩ := by
    rw [Cursor.skipWhile, hrun, Cursor.advance, List.drop_left]
    rfl
  rw [readBlockLines, hrun, hskip, readBreak_cons hb]
  change (if m.column ≠ 2 then _ else _) = _
  rw [if_neg (not_not_intro hm)]
  dsimp only
  rw [hnext]
  rfl

/-- **A text is read** to its end: the lines, and what remains of the breaks behind them. -/
def ReadsBlock (r : Option (List Char × BlockEnd)) (k : Chomping) (cs : List Char) : Prop :=
  ∃ lines e, r = some (lines, e) ∧ e.cursor.rest = [] ∧ lines ++ k.text e.gap = cs

theorem ReadsBlock.atEnd (fuel : Nat) (g : BlockGap) (blankBefore : Bool) (m : Mark)
    (k : Chomping) :
    ReadsBlock (readBlockLines .literal 2 (fuel + 1) g blankBefore ⟨[], m⟩) k (k.text g) :=
  ⟨[], ⟨g, ⟨[], m⟩⟩, rfl, rfl, rfl⟩

theorem ReadsBlock.behind {r : Option (List Char × BlockEnd)} {k : Chomping}
    (h : ReadsBlock r k cs) (front : List Char) : ReadsBlock (behind front r) k (front ++ cs) := by
  obtain ⟨lines, e, rfl, hend, rfl⟩ := h
  exact ⟨front ++ lines, e, rfl, hend, List.append_assoc ..⟩

/-- **The lines of a block** are read, from one that is not empty to the end of the text. The breaks
before that one are read with them. -/
theorem readBlockLines_blockBody (hc : isBreak c = false)
    (hprint : ∀ d ∈ c :: cs, isPrintable d = true) {fuel : Nat} (hfuel : cs.length + 1 < fuel)
    (g : BlockGap) (blankBefore : Bool) (hm : m.column = 2) :
    ReadsBlock (readBlockLines .literal 2 fuel g blankBefore
      ⟨blockBody false (c :: cs) ++ lineEnd (c :: cs), m⟩) (chomping (c :: cs))
      (g.first ++ g.further ++ c :: cs) := by
  induction fuel generalizing c cs g blankBefore m with
  | zero => exact absurd hfuel (Nat.not_lt_zero _)
  | succ fuel ih =>
    obtain ⟨line, after, rfl, hline, hafter⟩ := exists_line cs
    have hline' : ∀ d ∈ c :: line, isBreak d = false := List.forall_mem_cons.mpr ⟨hc, hline⟩
    obtain ⟨fuel, rfl⟩ := Nat.exists_eq_add_of_le' (show 1 ≤ fuel by omega)
    cases after with
    | nil =>
      have hread : readBlockLines .literal 2 (fuel + 1 + 1) g blankBefore ⟨c :: line ++ ['\n'], m⟩ =
          behind (g.first ++ g.further ++ c :: line)
            (readBlockLines .literal 2 (fuel + 1) ⟨['\n'], []⟩ (isBlank c)
              ⟨[], (m.advance (line.length + 1)).newLine 1⟩) :=
        readBlockLines_line hline' rfl hm rfl (fuel + 1) g blankBefore
      have hend : ReadsBlock (readBlockLines .literal 2 (fuel + 1) ⟨['\n'], []⟩ (isBlank c)
          ⟨[], (m.advance (line.length + 1)).newLine 1⟩) .strip [] := .atEnd ..
      have hreads := hend.behind (g.first ++ g.further ++ c :: line)
      rw [List.append_nil] at hreads
      rw [List.append_nil, blockBody_of_line hline', lineEnd_of_line hline',
        chomping_of_line hline', hread]
      exact hreads
    | cons b ds =>
      have hb : isBreak b = true := hafter b rfl
      have hprint' : ∀ d ∈ b :: ds, isPrintable d = true := fun d hd =>
        hprint d (List.mem_cons_of_mem _ (List.mem_append_right _ hd))
      obtain ⟨hprintb, hprint'⟩ := List.forall_mem_cons.mp hprint'
      have hbody : blockBody false (c :: (line ++ b :: ds)) ++ lineEnd (c :: (line ++ b :: ds)) =
          c :: line ++ b :: (blockBody true ds ++ lineEnd (b :: ds)) := by
        rw [← List.cons_append, blockBody_append hline', blockBody_break hb, List.append_assoc,
          lineEnd_append _ (List.cons_ne_nil b ds)]
        rfl
      have htail (hds : ∀ d ∈ ds, isBreak d = true) : lineEnd (b :: ds) = [] :=
        lineEnd_of_breaks (List.forall_mem_cons.mpr ⟨hb, hds⟩) (List.cons_ne_nil b ds)
      obtain ⟨bs, r, next, hnext, hfinds⟩ := exists_findsLine hprint' htail 0
        (m := (m.advance (line.length + 1)).newLine 1) rfl
      rw [hbody, readBlockLines_line hline' (breakOf?_of_isPrintable hprintb hb) hm hnext,
        ← List.cons_append, ← List.append_assoc]
      refine ReadsBlock.behind ?_ _
      cases hfinds with
      | @atEnd _ m' _ hbs =>
        have hend := ReadsBlock.atEnd fuel ⟨[b], ds⟩ (isBlank c) m'
          (chomping (c :: line ++ b :: ds))
        rwa [chomping_text_of_breaks hline' (List.cons_ne_nil c line)
          (List.forall_mem_cons.mpr ⟨hb, hbs⟩)] at hend
      | @inLine _ cs c' m' hc' hcolumn =>
        have hprint'' : ∀ d ∈ c' :: cs, isPrintable d = true :=
          fun d hd => hprint' d (List.mem_append_right bs hd)
        have hreads := ih hc' hprint'' (by simp at hfuel; omega) ⟨[b], bs⟩ (isBlank c) hcolumn
        have hchomping : chomping (c :: line ++ b :: (bs ++ c' :: cs)) = chomping (c' :: cs) := by
          rw [← chomping_append hc' (c :: line ++ b :: bs) cs, List.append_assoc]
          rfl
        have hlast : lineEnd (b :: (bs ++ c' :: cs)) = lineEnd (c' :: cs) :=
          lineEnd_append (b :: bs) (List.cons_ne_nil c' cs)
        rw [hchomping, hlast]
        exact hreads

/-! ### Blocks -/

/-- No text loses characters as a block. -/
theorem length_le_blockBody (fresh : Bool) (cs : List Char) :
    cs.length ≤ (blockBody fresh cs).length := by
  induction cs generalizing fresh with
  | nil => exact Nat.zero_le _
  | cons c cs ih =>
    by_cases hb : isBreak c = true
    · rw [blockBody_break hb]
      exact Nat.succ_le_succ (ih true)
    · have hlength := ih false
      rw [blockBody, if_neg hb, List.length_append, List.length_cons, List.length_cons]
      omega

/-- **The first line** is found. It sets the indentation if that is not given. -/
theorem exists_firstLine (hne : cs ≠ []) (hprint : ∀ c ∈ cs, isPrintable c = true)
    (hm : m.column = 0) :
    ∃ bs r cursor, readBlockBreaks (givenIndent cs) 0 m (blockBody true cs ++ lineEnd cs) =
      some (bs, r, cursor) ∧ FindsLine (lineEnd cs) cs bs cursor ∧
      (givenIndent cs).getD (max r 1) = 2 := by
  rw [givenIndent]
  split
  · rename_i hhint
    match cs, hne with
    | c :: cs, _ =>
      have hspacing : ¬(c == ' ' || isBreak c) = true := by
        intro h
        rw [indentHint, if_pos h] at hhint
        cases hhint
      rw [Bool.or_eq_true, not_or, beq_iff_eq, Bool.not_eq_true] at hspacing
      have hblank := isBlank_of_isPrintable (hprint c List.mem_cons_self) hspacing.1
      have hcolumn : ((m.advance 1).advance 1).column = 2 := by
        change m.column + 1 + 1 = 2
        rw [hm]
      exact ⟨[], 2, _, readBlockBreaks_line hspacing.2 (.inr ⟨rfl, hblank⟩) hm 0,
        .inLine [] hspacing.2 hcolumn, rfl⟩
  · have htail (hcs : ∀ c ∈ cs, isBreak c = true) : lineEnd cs = [] := lineEnd_of_breaks hcs hne
    obtain ⟨bs, r, cursor, hread, hfinds⟩ := exists_findsLine hprint htail 0 hm
    exact ⟨bs, r, cursor, hread, hfinds, rfl⟩

/-- The lines are read from wherever the first one is found. -/
theorem FindsLine.readsBlock {bs : List Char} {cursor : Cursor} (hne : cs ≠ [])
    (hprint : ∀ c ∈ cs, isPrintable c = true) (hfinds : FindsLine (lineEnd cs) cs bs cursor) :
    ReadsBlock (readBlockLines .literal 2 (cursor.rest.length + 1) ⟨[], bs⟩ false cursor)
      (chomping cs) cs := by
  generalize htail : lineEnd cs = tail at hfinds
  cases hfinds with
  | @atEnd _ m _ hbs =>
    have hend := ReadsBlock.atEnd 0 ⟨[], cs⟩ false m .keep
    rw [chomping_of_only_breaks hbs hne]
    exact hend
  | @inLine _ ds c m hc hcolumn =>
    have hprint' : ∀ d ∈ c :: ds, isPrintable d = true :=
      fun d hd => hprint d (List.mem_append_right bs hd)
    have hlast := lineEnd_append bs (List.cons_ne_nil c ds)
    rw [← htail, hlast, chomping_append hc]
    refine readBlockLines_blockBody hc hprint' ?_ ⟨[], bs⟩ false hcolumn
    have hlength := length_le_blockBody false (c :: ds)
    rw [List.length_cons] at hlength
    rw [List.length_append]
    omega

/-- **A text that may be a block reads back**, in a mapping that is not indented. -/
theorem readBlock_literal (hne : cs ≠ []) (hprint : ∀ c ∈ cs, isPrintable c = true) (m : Mark) :
    ∃ m', readBlock .literal 0
        ⟨indentHint cs ++ chompingSign (chomping cs) ++
          '\n' :: (blockBody true cs ++ lineEnd cs), m⟩ =
      some (cs, ⟨[], m'⟩) := by
  obtain ⟨m₀, hm₀, hheader⟩ := readBlockHeader_written cs (blockBody true cs ++ lineEnd cs)
    (chomping cs) m
  obtain ⟨bs, r, cursor, hfirst, hfinds, hindent⟩ := exists_firstLine hne hprint hm₀
  obtain ⟨lines, e, hlines, hend, htext⟩ := hfinds.readsBlock hne hprint
  have hgiven : ((givenIndent cs).map fun n => (max (0 : Int) 0).toNat + n) = givenIndent cs := by
    rw [givenIndent]
    split <;> rfl
  refine ⟨e.cursor.mark, ?_⟩
  rw [readBlock, hheader]
  dsimp only
  rw [hgiven, hfirst]
  have hleast : max r (max (0 + 1 : Int).toNat 1) = max r 1 := rfl
  dsimp only
  rw [hleast, hindent, hlines]
  dsimp only
  rw [htext, ← hend]

end RayTally.Yaml
