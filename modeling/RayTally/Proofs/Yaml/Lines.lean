import RayTally.Proofs.Yaml.Blocks

/-!
# The lines of texts

A text is written in a style that it allows, and in any style with characters that may stand in a
document.

## Main results

* `Yaml.Printer.styled_style`: what is known of a text by its style.
* `Yaml.Printer.isAllowed_line`: the characters of a line may stand in a document.
-/

namespace RayTally.Yaml.Printer

variable {cs : List Char}

/-! ### Styles -/

/-- What is known of a text by the **style** it is written in. -/
inductive Styled (cs : List Char) : Style → Prop
  | plain (allowed : allowsPlain cs = true) : Styled cs .plain
  | singleQuoted (noLineFeed : '\n' ∉ cs) (printable : ∀ c ∈ cs, isPrintable c = true)
    (breakThenSpace : hasBreakThenSpace cs = false)
    (spaceThenBreak : hasSpaceThenBreak cs = false) : Styled cs .singleQuoted
  | doubleQuoted : Styled cs .doubleQuoted
  | literal (nonempty : cs ≠ []) (printable : ∀ c ∈ cs, isPrintable c = true) : Styled cs .literal

theorem styled_style (cs : List Char) : Styled cs (style cs) := by
  rw [style]
  by_cases hfeed : '\n' ∈ cs
  · rw [if_pos (List.contains_iff_mem.mpr hfeed)]
    split
    · rename_i hcs
      simp only [allowsBlock, Bool.and_eq_true, List.all_eq_true] at hcs
      exact .literal (List.ne_nil_of_mem hfeed) hcs.1.1
    · exact .doubleQuoted
  · rw [if_neg (mt List.contains_iff_mem.mp hfeed)]
    split
    · exact .plain ‹_›
    split
    · rename_i hcs
      simp only [allowsSingleQuotes, Bool.and_eq_true, List.all_eq_true, Bool.not_eq_true'] at hcs
      exact .singleQuoted hfeed hcs.1.1 hcs.1.2 hcs.2
    · exact .doubleQuoted

/-! ### Characters -/

theorem isAllowed_singleQuotedBody (hprint : ∀ c ∈ cs, isPrintable c = true) (fresh : Bool) :
    ∀ c ∈ singleQuotedBody fresh cs, isAllowed c = true := by
  induction cs generalizing fresh with
  | nil => cases fresh <;> exact List.all_eq_true.mp rfl
  | cons c cs ih =>
    obtain ⟨hc, hprint⟩ := List.forall_mem_cons.mp hprint
    have hc := isAllowed_of_isPrintable hc
    have hindentation : ∀ d ∈ (if fresh then indentation else []), isAllowed d = true := by
      cases fresh <;> exact List.all_eq_true.mp rfl
    rw [singleQuotedBody]
    split
    · exact List.forall_mem_cons.mpr ⟨hc, ih hprint true⟩
    · refine List.forall_mem_append.mpr
        ⟨List.forall_mem_append.mpr ⟨hindentation, ?_⟩, ih hprint false⟩
      split
      · exact List.forall_mem_cons.mpr ⟨rfl, List.forall_mem_singleton.mpr hc⟩
      · exact List.forall_mem_singleton.mpr hc

theorem isAllowed_blockBody (hprint : ∀ c ∈ cs, isPrintable c = true) (fresh : Bool) :
    ∀ c ∈ blockBody fresh cs, isAllowed c = true := by
  induction cs generalizing fresh with
  | nil => nofun
  | cons c cs ih =>
    obtain ⟨hc, hprint⟩ := List.forall_mem_cons.mp hprint
    have hc := isAllowed_of_isPrintable hc
    have hindentation : ∀ d ∈ (if fresh then indentation else []), isAllowed d = true := by
      cases fresh <;> exact List.all_eq_true.mp rfl
    rw [blockBody]
    split
    · exact List.forall_mem_cons.mpr ⟨hc, ih hprint true⟩
    · exact List.forall_mem_append.mpr
        ⟨hindentation, List.forall_mem_cons.mpr ⟨hc, ih hprint false⟩⟩

theorem isAllowed_hexDigits (k n : Nat) : ∀ c ∈ hexDigits k n, isAllowed c = true := by
  have hdigit : ∀ n < 16, isAllowed (hexDigit n) = true := by decide
  induction k generalizing n with
  | zero => nofun
  | succ k ih =>
    refine List.forall_mem_append.mpr ⟨ih _, List.forall_mem_singleton.mpr ?_⟩
    exact hdigit _ (Nat.mod_lt n (by decide))

theorem isAllowed_escape (c : Char) : ∀ d ∈ escape c, isAllowed d = true := by
  unfold escape
  split
  case h_15 =>
    unfold numbered
    dsimp only
    split
    · exact List.forall_mem_cons.mpr ⟨rfl, isAllowed_hexDigits _ _⟩
    split
    · exact List.forall_mem_cons.mpr ⟨rfl, isAllowed_hexDigits _ _⟩
    · exact List.forall_mem_cons.mpr ⟨rfl, isAllowed_hexDigits _ _⟩
  all_goals exact List.forall_mem_singleton.mpr rfl

theorem isAllowed_doubleQuotedChar (c : Char) : ∀ d ∈ doubleQuotedChar c, isAllowed d = true := by
  rw [doubleQuotedChar]
  split
  · exact List.forall_mem_cons.mpr ⟨rfl, isAllowed_escape c⟩
  · rename_i hno
    simp only [needsEscape, Bool.or_eq_true, not_or, Bool.not_eq_true', Bool.not_eq_false] at hno
    exact List.forall_mem_singleton.mpr (isAllowed_of_isPrintable hno.1.1.1)

/-- The first line of a block. -/
theorem isAllowed_blockHeader (cs : List Char) (k : Chomping) :
    ∀ c ∈ indentHint cs ++ chompingSign k, isAllowed c = true := by
  refine List.forall_mem_append.mpr ⟨?_, ?_⟩
  · unfold indentHint
    split
    · split <;> exact List.all_eq_true.mp rfl
    · nofun
  · cases k <;> exact List.all_eq_true.mp rfl

/-- Every character of a text written as a value **may stand in a document**. -/
theorem isAllowed_line (cs : List Char) : ∀ c ∈ line cs, isAllowed c = true := by
  have hend (p : Prop) [Decidable p] : ∀ c ∈ (if p then [] else ['\n']), isAllowed c = true := by
    split
    · nofun
    · exact List.all_eq_true.mp rfl
  refine List.forall_mem_append.mpr ⟨?_, hend _⟩
  have hstyled := styled_style cs
  generalize style cs = st at hstyled
  cases hstyled with
  | plain hcs =>
    obtain ⟨c, ds, rfl, htext⟩ := exists_plainText hcs
    exact fun d hd => isAllowed_of_isPrintable (htext.written d hd).1
  | singleQuoted _ hprint =>
    exact List.forall_mem_cons.mpr ⟨rfl, isAllowed_singleQuotedBody hprint false⟩
  | doubleQuoted =>
    refine List.forall_mem_append.mpr
      ⟨List.forall_mem_cons.mpr ⟨rfl, fun d hd => ?_⟩, List.all_eq_true.mp rfl⟩
    obtain ⟨c, -, hd⟩ := List.mem_flatMap.mp hd
    exact isAllowed_doubleQuotedChar c d hd
  | literal _ hprint =>
    refine List.forall_mem_cons.mpr ⟨rfl, List.forall_mem_append.mpr
      ⟨isAllowed_blockHeader cs (chomping cs), List.forall_mem_cons.mpr ⟨rfl, ?_⟩⟩⟩
    exact isAllowed_blockBody hprint true

end RayTally.Yaml.Printer
