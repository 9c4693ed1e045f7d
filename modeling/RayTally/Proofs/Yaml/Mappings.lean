import Mathlib.Data.List.Forall2
import RayTally.Proofs.Yaml.Tokens
import RayTally.Yaml.Node

/-!
# Mappings of scalars

A mapping whose keys and values are scalars is read from its tokens, entry by entry.

## Main results

* `Yaml.readBlockMapping_entries`: the entries of a mapping.
* `Yaml.Document.ofText_entries`: the document of a text with two of them.
-/

namespace RayTally.Yaml

open Printer

/-! ### Entries -/

namespace ScalarEntry

/-- The nodes of an entry, at some places. -/
def IsRead (e : ScalarEntry) (n : Node × Node) : Prop :=
  ∃ m m', n = (.scalar m ⟨e.key, .plain, none⟩, .scalar m' ⟨e.text, e.style, none⟩)

theorem length_flatMap_kinds (es : List ScalarEntry) :
    (es.flatMap kinds).length = 4 * es.length := by
  induction es with
  | nil => rfl
  | cons e es ih =>
    rw [List.flatMap_cons, List.length_append, ih, List.length_cons, Nat.mul_succ, Nat.add_comm]
    rfl

end ScalarEntry

variable {style : Style} {cs : List Char} {t : Token} {ts : List Token} {ks : List TokenKind}

theorem Reading.peek_cons {k : TokenKind} (ht : t.kind = k) (ts : List Token)
    (names : Table (List Char) Nat) (anchored : Table Nat (Head × Mark)) :
    Reading.peek ⟨t :: ts, names, anchored⟩ = some k := congrArg some ht

theorem readNode_scalar (ht : t.kind = .scalar style cs) (handles : Handles) (fuel : Nat)
    (place : Place) (s : Reading) :
    readNode handles (fuel + 1) place { s with tokens := t :: ts } =
      some (.scalar t.start ⟨cs, style, none⟩, { s with tokens := ts }) := by
  rw [readNode]
  simp only [Reading.peek_cons ht, readProperties, resolveTag]
  rfl

/-- A scalar is neither the end of a mapping nor part of its frame. -/
theorem readOptional_scalar (ht : t.kind = .scalar style cs) (handles : Handles) (fuel : Nat)
    (place : Place) (m : Mark) (s : Reading) :
    readOptional handles (fuel + 2) place [.key, .value, .blockEnd] m { s with tokens := t :: ts } =
      some (.scalar t.start ⟨cs, style, none⟩, { s with tokens := ts }) := by
  have hat : Reading.at? { s with tokens := t :: ts } [.key, .value, .blockEnd] = false := by
    rw [Reading.at?, Reading.peek_cons ht]
    rfl
  rw [readOptional, hat, if_neg Bool.false_ne_true, readNode_scalar ht]

/-- **An entry** is read, and what is behind it remains. -/
theorem readBlockMapping_entry {e : ScalarEntry} (hkinds : ts.map Token.kind = e.kinds ++ ks) :
    ∃ (n : Node × Node) (ts' : List Token), e.IsRead n ∧ ts'.map Token.kind = ks ∧
      ∀ (handles : Handles) (fuel : Nat) (s : Reading),
      readBlockMapping handles (fuel + 3) { s with tokens := ts } =
        (readBlockMapping handles (fuel + 2) { s with tokens := ts' }).map
          fun (ns, s) => (n :: ns, s) := by
  obtain ⟨t₁, _, rfl, hkey, hkinds⟩ := List.map_eq_cons_iff.mp hkinds
  obtain ⟨t₂, _, rfl, hname, hkinds⟩ := List.map_eq_cons_iff.mp hkinds
  obtain ⟨t₃, _, rfl, hcolon, hkinds⟩ := List.map_eq_cons_iff.mp hkinds
  obtain ⟨t₄, ts', rfl, hvalue, hkinds⟩ := List.map_eq_cons_iff.mp hkinds
  refine ⟨_, ts', ⟨t₂.start, t₄.start, rfl⟩, hkinds, fun handles fuel s => ?_⟩
  have hskip (t : Token) (ts : List Token) :
      Reading.skip { s with tokens := t :: ts } = { s with tokens := ts } := rfl
  rw [readBlockMapping]
  simp only [Reading.peek_cons hkey, hskip, readOptional_scalar hname, Reading.peek_cons hcolon,
    readOptional_scalar hvalue]

/-- **The entries of a mapping** are read to its end. -/
theorem readBlockMapping_entries {es : List ScalarEntry}
    (hkinds : ts.map Token.kind = es.flatMap ScalarEntry.kinds ++ .blockEnd :: ks) :
    ∃ (ns : List (Node × Node)) (ts' : List Token),
      List.Forall₂ ScalarEntry.IsRead es ns ∧ ts'.map Token.kind = ks ∧
        ∀ (handles : Handles) (fuel : Nat) (s : Reading),
          readBlockMapping handles (fuel + es.length + 3) { s with tokens := ts } =
            some (ns, { s with tokens := ts' }) := by
  induction es generalizing ts with
  | nil =>
    obtain ⟨t, ts', rfl, hend, hkinds⟩ := List.map_eq_cons_iff.mp hkinds
    refine ⟨[], ts', .nil, hkinds, fun handles fuel s => ?_⟩
    rw [readBlockMapping, Reading.peek_cons hend]
    rfl
  | cons e es ih =>
    rw [List.flatMap_cons, List.append_assoc] at hkinds
    obtain ⟨n, ts₁, hn, hkinds₁, hentry⟩ := readBlockMapping_entry hkinds
    obtain ⟨ns, ts', hns, hkinds', hread⟩ := ih hkinds₁
    refine ⟨n :: ns, ts', .cons hn hns, hkinds', fun handles fuel s => ?_⟩
    have hrest := hread handles fuel s
    rw [List.length_cons, ← Nat.add_assoc, hentry handles (fuel + es.length + 1) s, hrest]
    rfl

namespace Document

/-- **A mapping of scalars** is the root of its document. -/
theorem ofTokens_entries {es : List ScalarEntry}
    (hkinds : ts.map Token.kind =
      .blockMappingStart :: (es.flatMap ScalarEntry.kinds ++ [.blockEnd, .streamEnd])) :
    ∃ m ns, List.Forall₂ ScalarEntry.IsRead es ns ∧
      ofTokens ts = some ⟨some (.mapping m ns), []⟩ := by
  obtain ⟨t, ts', rfl, hstart, hkinds⟩ := List.map_eq_cons_iff.mp hkinds
  obtain ⟨ns, rest, hns, hrest, hread⟩ := readBlockMapping_entries hkinds
  have hlength : es.length ≤ (t :: ts').length := by
    have hcount := congrArg List.length hkinds
    rw [List.length_map, List.length_append, ScalarEntry.length_flatMap_kinds] at hcount
    rw [List.length_cons]
    omega
  have hfuel : 4 * (t :: ts').length + 3 =
      (4 * (t :: ts').length - es.length) + es.length + 3 := by omega
  have hnode : readNode defaultHandles (4 * (t :: ts').length + 4) .block { tokens := t :: ts' } =
      some (.mapping t.start ns, { tokens := rest }) := by
    have hmapping := hread defaultHandles (4 * (t :: ts').length - es.length) { tokens := [] }
    rw [← hfuel] at hmapping
    rw [readNode]
    simp only [Reading.peek_cons hstart, readProperties, resolveTag]
    change (readBlockMapping defaultHandles (4 * (t :: ts').length + 3) { tokens := ts' }).map _ = _
    rw [hmapping]
    rfl
  have hend : atEnd rest = true := by
    obtain ⟨t, _, rfl, hstop, -⟩ := List.map_eq_cons_iff.mp hrest
    rw [atEnd, hstop]
  refine ⟨t.start, ns, hns, ?_⟩
  have hhead : (t :: ts').head?.map Token.kind = some .blockMappingStart := congrArg some hstart
  rw [ofTokens, hhead]
  change readRoot defaultHandles { tokens := t :: ts' } = _
  rw [readRoot, hnode]
  simp only [hend, if_true]

end Document

/-! ### Texts -/

/-- A mark for the order of bytes is no name. -/
theorem Lexer.skipByteOrderMark_of_isName {c : Char} (hc : isName c = true) (cs : List Char) :
    (Lexer.start (c :: cs)).skipByteOrderMark = Lexer.start (c :: cs) := by
  unfold skipByteOrderMark
  split
  · rename_i h
    exact absurd (List.cons.inj h).1 (ne_of_class hc rfl)
  · rfl

variable {k₁ k₂ w value : List Char}

theorem IsKey.isAllowed (hw : IsKey w) : ∀ c ∈ w, isAllowed c = true :=
  fun c hc => isAllowed_of_isName (hw.name c hc)

/-- **Two entries**, the first of which has a name as its value, are read token by token. -/
theorem Token.ofText_entries (hk₁ : IsKey k₁) (hw : IsKey w) (hk₂ : IsKey k₂)
    (hvalue : Lexer.ReadsAs value (.scalar style cs)) (hallowed : ∀ c ∈ value, isAllowed c = true) :
    ∃ ts, Token.ofText (k₁ ++ ':' :: ' ' :: (w ++ '\n' :: (k₂ ++ ':' :: ' ' :: value))) = some ts ∧
      ts.map Token.kind = .blockMappingStart ::
        ([⟨k₁, .plain, w⟩, ⟨k₂, style, cs⟩].flatMap ScalarEntry.kinds ++
          [.blockEnd, .streamEnd]) := by
  have hall : (k₁ ++ ':' :: ' ' :: (w ++ '\n' :: (k₂ ++ ':' :: ' ' :: value))).all isAllowed =
      true := by
    simp only [List.all_eq_true, List.forall_mem_append, List.forall_mem_cons]
    exact ⟨hk₁.isAllowed, rfl, rfl, hw.isAllowed, rfl, hk₂.isAllowed, rfl, rfl, hallowed⟩
  have hnext : ∀ c ∈ (k₂ ++ ':' :: ' ' :: value).head?, isName c = true := by
    obtain ⟨c, ds, rfl⟩ := List.exists_cons_of_ne_nil hk₂.nonempty
    rintro _ ⟨⟩
    exact hk₂.name c List.mem_cons_self
  obtain ⟨ts₁, m₁, hkinds₁, hm₁, hrun₁⟩ :=
    Lexer.run_entry (m := .start) false [] hk₁ hw hnext rfl
  obtain ⟨ts₂, hkinds₂, hrun₂⟩ := Lexer.run_lastEntry true ([] ++ ts₁) hk₂ hvalue hm₁
  refine ⟨[] ++ ts₁ ++ ts₂, ?_, by rw [List.map_append, List.nil_append, hkinds₁, hkinds₂]; simp⟩
  have hfuel : 6 ≤ (k₁ ++ ':' :: ' ' :: (w ++ '\n' :: (k₂ ++ ':' :: ' ' :: value))).length := by
    have hpos := List.length_pos_of_ne_nil hw.nonempty
    simp only [List.length_append, List.length_cons]
    omega
  rw [Token.ofText, if_pos hall, ← Nat.sub_add_cancel hfuel]
  obtain ⟨c, ds, rfl⟩ := List.exists_cons_of_ne_nil hk₁.nonempty
  rw [List.cons_append, Lexer.skipByteOrderMark_of_isName (hk₁.name c List.mem_cons_self)]
  exact (hrun₁ _).trans (hrun₂ _)

/-- **The document of two entries**, the first of which has a name as its value. -/
theorem Document.ofText_entries {k₁ k₂ : String} (hk₁ : IsKey k₁.toList) (hw : IsKey w)
    (hk₂ : IsKey k₂.toList) (hvalue : Lexer.ReadsAs value (.scalar style cs))
    (hallowed : ∀ c ∈ value, isAllowed c = true) :
    ∃ m ns, List.Forall₂ ScalarEntry.IsRead
        [⟨k₁.toList, .plain, w⟩, ⟨k₂.toList, style, cs⟩] ns ∧
      Document.ofText (entry k₁ (w ++ ['\n']) ++ entry k₂ value) =
        some ⟨some (.mapping m ns), []⟩ := by
  obtain ⟨ts, htokens, hkinds⟩ := Token.ofText_entries hk₁ hw hk₂ hvalue hallowed
  obtain ⟨m, ns, hns, hdocument⟩ := ofTokens_entries hkinds
  refine ⟨m, ns, hns, ?_⟩
  rw [← hdocument, Document.ofText]
  simp only [entry, List.append_assoc, List.cons_append, List.nil_append, htokens, Option.bind_some]

end RayTally.Yaml
