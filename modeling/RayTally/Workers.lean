import RayTally.Update

/-!
# Workers

Several workers share the counters, each with a script of updates. Each addition is atomic, and the
additions of different workers can be made in any order that keeps the order within each script: an
interleaving.

## Main results

* `Interleaving.flatten`: making the scripts' additions one script after the other is an
  interleaving.
-/

namespace RayTally

/-- The updates of one worker, in order. -/
abbrev Script := List Update

/-- The additions of a script behind a gate. -/
def Script.additions (g : Gate) (s : Script) : List Addition := s.flatMap (Update.additions g)

/-- The lists `ls` can be **interleaved** to `l`: again and again one of them gives up its first
element. -/
inductive Interleaving {α : Type} : List (List α) → List α → Prop
  | done {ls : List (List α)} (h : ∀ l ∈ ls, l = []) : Interleaving ls []
  | step {before after : List (List α)} {x : α} {xs l : List α}
    (h : Interleaving (before ++ xs :: after) l) :
      Interleaving (before ++ (x :: xs) :: after) (x :: l)

/-- The tally after all scripts, one after the other. -/
def Tally.work (t : Tally) (g : Gate) (scripts : List Script) : Tally :=
  t.apply (scripts.flatMap (Script.additions g))

/-- An empty list more does not matter. -/
theorem Interleaving.cons_nil {α : Type} {ls : List (List α)} {l : List α}
    (h : Interleaving ls l) : Interleaving ([] :: ls) l := by
  induction h with
  | done h => exact .done (by simpa using h)
  | @step before after x xs l _ ih => exact @Interleaving.step α ([] :: before) after x xs l ih

/-- **One after the other** is an interleaving. -/
theorem Interleaving.flatten {α : Type} (ls : List (List α)) : Interleaving ls ls.flatten := by
  induction ls with
  | nil => exact .done (by simp)
  | cons xs ls ih =>
    induction xs with
    | nil => simpa using ih.cons_nil
    | cons x xs ihx => exact @Interleaving.step α [] ls x xs _ ihx

end RayTally
