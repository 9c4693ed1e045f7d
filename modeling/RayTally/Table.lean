/-!
# Tables

Keys with values, kept as a list. What is put in replaces what was there under the same key.

## Main results

* `Table.lookup_insert`: what is put in under a key is found there, and no other key changes.
* `Table.lookup_erase`: what is erased is not found, and no other key changes.
-/

namespace RayTally

/-- **Values by key**. -/
abbrev Table (α β : Type) := List (α × β)

namespace Table

variable {α β : Type} [BEq α]

/-- The table without a key. -/
def erase (t : Table α β) (k : α) : Table α β := t.filter fun e => e.1 != k

/-- The table with a value put in under a key. -/
def insert (t : Table α β) (k : α) (v : β) : Table α β := (k, v) :: erase t k

/-- **Looking up after erasing**. -/
theorem lookup_erase [LawfulBEq α] (t : Table α β) (k l : α) :
    (erase t k).lookup l = if l == k then none else t.lookup l := by
  induction t with
  | nil => simp [erase]
  | cons e t ih =>
    obtain ⟨m, v⟩ := e
    rw [erase] at ih
    by_cases hm : m = k
    · subst hm
      by_cases hl : l = m
      · subst hl; simpa [erase] using ih
      · have hb : (l == m) = false := by simpa using hl
        simp [erase, List.lookup_cons, ih, hb]
    · have hk : (m != k) = true := by simpa using hm
      by_cases hl : l = m
      · subst hl; simp [erase, hk, hm]
      · have hb : (l == m) = false := by simpa using hl
        simp [erase, hk, List.lookup_cons, hb, ih]

/-- **Looking up after putting in**. -/
theorem lookup_insert [LawfulBEq α] (t : Table α β) (k l : α) (v : β) :
    (insert t k v).lookup l = if l == k then some v else t.lookup l := by
  cases hb : l == k <;> simp [insert, List.lookup_cons, hb, lookup_erase]

end Table

end RayTally
