/-!
# Blanks

The characters that Unicode calls white space, and the removal of blanks from both ends of a text.

## Main results

* `Text.trim_eq_self`: a text that neither starts nor ends with a blank is left as it is.
-/

namespace RayTally.Text

/-- The Unicode property **White_Space**, for all characters. -/
def isBlank (c : Char) : Bool :=
  let n := c.toNat
  (9 ≤ n && n ≤ 13) || n == 0x20 || n == 0x85 || n == 0xA0 || n == 0x1680
    || (0x2000 ≤ n && n ≤ 0x200A) || n == 0x2028 || n == 0x2029 || n == 0x202F || n == 0x205F
    || n == 0x3000

/-- The text without the blanks at its start. -/
def trimLeft (cs : List Char) : List Char := cs.dropWhile isBlank

/-- The text without the blanks at its end. -/
def trimRight (cs : List Char) : List Char := (cs.reverse.dropWhile isBlank).reverse

/-- The text without the blanks at both ends. -/
def trim (cs : List Char) : List Char := trimRight (trimLeft cs)

/-- Splits a text at the first occurrence of a character; `none` if it does not occur. -/
def splitAtFirst (sep : Char) : List Char → Option (List Char × List Char)
  | [] => none
  | c :: cs =>
    if c = sep then some ([], cs)
    else (splitAtFirst sep cs).map fun (before, after) => (c :: before, after)

theorem trimLeft_eq_self {c : Char} {cs : List Char} (h : isBlank c = false) :
    trimLeft (c :: cs) = c :: cs := by
  simp [trimLeft, h]

theorem trimRight_eq_self {c : Char} {cs : List Char} (h : isBlank c = false) :
    trimRight (cs ++ [c]) = cs ++ [c] := by
  simp [trimRight, h]

/-- What has no blank at either end is kept as it is. -/
theorem trim_eq_self {cs : List Char} (hh : ∀ c, cs.head? = some c → isBlank c = false)
    (hl : ∀ c, cs.getLast? = some c → isBlank c = false) : trim cs = cs := by
  cases cs with
  | nil => rfl
  | cons c cs =>
    have hc := hh c rfl
    rw [trim, trimLeft_eq_self hc]
    obtain ⟨ds, d, hd⟩ : ∃ ds d, c :: cs = ds ++ [d] :=
      ⟨(c :: cs).dropLast, (c :: cs).getLast (by simp),
        (List.dropLast_concat_getLast (by simp)).symm⟩
    rw [hd] at hl ⊢
    exact trimRight_eq_self (hl d (by simp))

end RayTally.Text
