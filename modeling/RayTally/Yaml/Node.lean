import RayTally.Table
import RayTally.Yaml.Token

/-!
# Nodes of YAML

A document is a tree of scalars, sequences and mappings, in which an alias may stand for a node
that bears an anchor. Anchors are numbered by how many names are known when they are met, and an
alias stands for the last node that was given its number.

`Document.ofTokens` reads the tokens of a text that holds at most one document. The recursion is
bounded by the number of tokens: it descends at most four times between two of them.
-/

namespace RayTally.Yaml

/-- A **scalar**: its text, how it is written, and its tag if it has one. -/
structure Scalar where
  text : List Char
  style : Style
  tag : Option (List Char)
  deriving DecidableEq, Repr

/-- What a node is, without what it contains. -/
inductive Head
  | scalar (s : Scalar)
  | sequence
  | mapping
  deriving DecidableEq, Repr

/-- A **node** with the place where it starts. -/
inductive Node
  | scalar (start : Mark) (s : Scalar)
  | sequence (start : Mark) (items : List Node)
  | mapping (start : Mark) (entries : List (Node × Node))
  | alias (start : Mark) (number : Nat)

/-- A **document**: its root, which a text without any document lacks, and the nodes that bear
anchors, by number, the latest first. -/
structure Document where
  root : Option Node
  anchored : Table Nat (Head × Mark)

/-! ### Reading -/

/-- The handles of tags and what they stand for. -/
abbrev Handles := List (List Char × List Char)

/-- The handles that every document knows. -/
def defaultHandles : Handles :=
  [("!".toList, "!".toList), ("!!".toList, "tag:yaml.org,2002:".toList)]

/-- The **state of reading nodes**: the tokens to come, the numbers of the anchors' names, and the
nodes by number. -/
structure Reading where
  tokens : List Token
  names : Table (List Char) Nat := []
  anchored : Table Nat (Head × Mark) := []

namespace Reading

/-- The kind of the next token. -/
def peek (s : Reading) : Option TokenKind := s.tokens.head?.map Token.kind

/-- Where the next token starts. -/
def startMark (s : Reading) : Mark := (s.tokens.head?.map Token.start).getD .start

/-- Where the next token ends. -/
def stopMark (s : Reading) : Mark := (s.tokens.head?.map Token.stop).getD .start

/-- The state behind the next token. -/
def skip (s : Reading) : Reading := { s with tokens := s.tokens.drop 1 }

/-- Whether the next token is one of some kinds. -/
def at? (s : Reading) (kinds : List TokenKind) : Bool := s.peek.any kinds.contains

/-- Numbers an anchor if a node bears one. -/
def register (s : Reading) (name : Option (List Char)) (h : Head) (m : Mark) : Reading :=
  match name with
  | none => s
  | some name =>
    let n := s.names.length
    { s with
      names := Table.insert s.names name n
      anchored := (n, h, m) :: s.anchored }

end Reading

/-- What stands before a node: an anchor and a tag, in either order, and where they start. -/
structure Properties where
  anchor : Option (List Char) := none
  tag : Option (List Char × List Char) := none
  start : Mark

/-- Reads what stands before a node. -/
def readProperties (s : Reading) : Properties × Reading :=
  match s.peek with
  | some (.anchor name) =>
    let next := s.skip
    match next.peek with
    | some (.tag h x) => (⟨some name, some (h, x), s.startMark⟩, next.skip)
    | _ => (⟨some name, none, s.startMark⟩, next)
  | some (.tag h x) =>
    let next := s.skip
    match next.peek with
    | some (.anchor name) => (⟨some name, some (h, x), s.startMark⟩, next.skip)
    | _ => (⟨none, some (h, x), s.startMark⟩, next)
  | _ => ({ start := s.startMark }, s)

/-- The tag that a handle and a suffix make; `none` if the handle is unknown. -/
def resolveTag (handles : Handles) : Option (List Char × List Char) → Option (Option (List Char))
  | none => some none
  | some ([], suffix) => some (some suffix)
  | some (handle, suffix) => (handles.lookup handle).map fun uri => some (uri ++ suffix)

/-- A scalar that is missing. -/
def Node.missing (m : Mark) : Node := .scalar m ⟨[], .plain, none⟩

/-- Passes over the comma before an entry of a flow collection, which only the first one lacks. -/
def skipComma (isFirst : Bool) (s : Reading) : Option Reading :=
  if isFirst then some s
  else
    match s.peek with
    | some .flowEntry => some s.skip
    | _ => none

/-- Where a node stands: anywhere in a block collection, as a key or value of one, or in a flow
collection. As a key or value it may be a sequence that is indented no further than the mapping. -/
inductive Place
  | block
  | entry
  | flow
  deriving DecidableEq, Repr

mutual

/-- Reads a node: an alias, a scalar, or a collection to its end. What has an anchor or a tag may
lack a text. -/
def readNode (handles : Handles) : Nat → Place → Reading → Option (Node × Reading)
  | 0, _, _ => none
  | fuel + 1, place, s =>
    match s.peek with
    | some (.alias name) => (s.names.lookup name).map fun n => (.alias s.startMark n, s.skip)
    | _ =>
      let (props, s) := readProperties s
      match resolveTag handles props.tag with
      | none => none
      | some tag =>
        let m := props.start
        let seq (s : Reading) : Reading := s.register props.anchor .sequence m
        let map (s : Reading) : Reading := s.register props.anchor .mapping m
        let scalar (x : Scalar) (s : Reading) : Option (Node × Reading) :=
          some (.scalar m x, s.register props.anchor (.scalar x) m)
        match s.peek, place with
        | some (.scalar style cs), _ =>
          scalar ⟨cs, style, if tag = some ['!'] then none else tag⟩ s.skip
        | some .blockEntry, .entry =>
          (readPlainSequence handles fuel (seq s)).map fun (ns, s) => (.sequence m ns, s)
        | some .flowSequenceStart, _ =>
          (readFlowSequence handles fuel true (seq s.skip)).map fun (ns, s) => (.sequence m ns, s)
        | some .flowMappingStart, _ =>
          (readFlowMapping handles fuel true (map s.skip)).map fun (es, s) => (.mapping m es, s)
        | some .blockSequenceStart, .block | some .blockSequenceStart, .entry =>
          (readBlockSequence handles fuel (seq s.skip)).map fun (ns, s) => (.sequence m ns, s)
        | some .blockMappingStart, .block | some .blockMappingStart, .entry =>
          (readBlockMapping handles fuel (map s.skip)).map fun (es, s) => (.mapping m es, s)
        | _, _ => if props.anchor.isSome || tag.isSome then scalar ⟨[], .plain, tag⟩ s else none

/-- Reads a node unless the next token is one of some kinds, in which case it is missing at `m`. -/
def readOptional (handles : Handles) :
    Nat → Place → List TokenKind → Mark → Reading → Option (Node × Reading)
  | 0, _, _, _, _ => none
  | fuel + 1, place, kinds, m, s =>
    if s.at? kinds then some (.missing m, s) else readNode handles fuel place s

/-- Reads the items of a block sequence, each behind a dash. -/
def readBlockSequence (handles : Handles) : Nat → Reading → Option (List Node × Reading)
  | 0, _ => none
  | fuel + 1, s =>
    match s.peek with
    | some .blockEntry =>
      match readOptional handles fuel .block [.blockEntry, .blockEnd] s.stopMark s.skip with
      | some (n, s) => (readBlockSequence handles fuel s).map fun (ns, s) => (n :: ns, s)
      | none => none
    | some .blockEnd => some ([], s.skip)
    | _ => none

/-- Reads the items of a sequence that is indented no further than the mapping around it. -/
def readPlainSequence (handles : Handles) : Nat → Reading → Option (List Node × Reading)
  | 0, _ => none
  | fuel + 1, s =>
    match s.peek with
    | some .blockEntry =>
      match readOptional handles fuel .block [.blockEntry, .key, .value, .blockEnd] s.stopMark
        s.skip with
      | some (n, s) => (readPlainSequence handles fuel s).map fun (ns, s) => (n :: ns, s)
      | none => none
    | _ => some ([], s)

/-- Reads the entries of a block mapping. A key or a value may be missing. -/
def readBlockMapping (handles : Handles) : Nat → Reading → Option (List (Node × Node) × Reading)
  | 0, _ => none
  | fuel + 1, s =>
    match s.peek with
    | some .key =>
      match readOptional handles fuel .entry [.key, .value, .blockEnd] s.stopMark s.skip with
      | none => none
      | some (k, s) =>
        let value :=
          match s.peek with
          | some .value =>
            readOptional handles fuel .entry [.key, .value, .blockEnd] s.stopMark s.skip
          | _ => some (.missing s.startMark, s)
        match value with
        | some (v, s) => (readBlockMapping handles fuel s).map fun (es, s) => ((k, v) :: es, s)
        | none => none
    | some .blockEnd => some ([], s.skip)
    | _ => none

/-- Reads the value of an entry in a flow collection that ends with `close`. -/
def readFlowValue (handles : Handles) : Nat → TokenKind → Reading → Option (Node × Reading)
  | 0, _, _ => none
  | fuel + 1, close, s =>
    match s.peek with
    | some .value => readOptional handles fuel .flow [.flowEntry, close] s.skip.startMark s.skip
    | _ => some (.missing s.startMark, s)

/-- Reads the items of a flow sequence. An item with a key is a mapping with one entry; where that
key is missing, the token in its place is passed over. -/
def readFlowSequence (handles : Handles) : Nat → Bool → Reading → Option (List Node × Reading)
  | 0, _, _ => none
  | fuel + 1, isFirst, s =>
    if s.at? [.flowSequenceEnd] then some ([], s.skip)
    else
      match skipComma isFirst s with
      | none => none
      | some s =>
        let item :=
          match s.peek with
          | some .key =>
            let m := s.startMark
            let s := s.skip
            let key :=
              if s.at? [.value, .flowEntry, .flowSequenceEnd] then
                some (.missing s.stopMark, s.skip)
              else readNode handles fuel .flow s
            match key with
            | none => none
            | some (k, s) =>
              (readFlowValue handles fuel .flowSequenceEnd s).map fun (v, s) =>
                (.mapping m [(k, v)], s)
          | _ => readNode handles fuel .flow s
        if s.at? [.flowSequenceEnd] then some ([], s.skip)
        else
          match item with
          | some (n, s) => (readFlowSequence handles fuel false s).map fun (ns, s) => (n :: ns, s)
          | none => none

/-- Reads the entries of a flow mapping. -/
def readFlowMapping (handles : Handles) :
    Nat → Bool → Reading → Option (List (Node × Node) × Reading)
  | 0, _, _ => none
  | fuel + 1, isFirst, s =>
    if s.at? [.flowMappingEnd] then some ([], s.skip)
    else
      match skipComma isFirst s with
      | none => none
      | some s =>
        let entry :=
          match s.peek with
          | some .key =>
            let s := s.skip
            match readOptional handles fuel .flow [.value, .flowEntry, .flowMappingEnd] s.startMark
              s with
            | none => none
            | some (k, s) =>
              (readFlowValue handles fuel .flowMappingEnd s).map fun (v, s) => ((k, v), s)
          | _ =>
            (readNode handles fuel .flow s).map fun (k, s) => ((k, .missing s.startMark), s)
        if s.at? [.flowMappingEnd] then some ([], s.skip)
        else
          match entry with
          | some (e, s) => (readFlowMapping handles fuel false s).map fun (es, s) => (e :: es, s)
          | none => none

end

/-! ### Documents -/

/-- The directives before a document: the handles they define, and whether the version is given. -/
structure Directives where
  handles : Handles := []
  hasVersion : Bool := false

/-- Reads directives. The version must be 1.1 or 1.2, and nothing may be given twice. -/
def readDirectives (d : Directives) : List Token → Option (Directives × List Token)
  | [] => some (d, [])
  | t :: ts =>
    match t.kind with
    | .versionDirective major minor =>
      if d.hasVersion || major != 1 || !(minor == 1 || minor == 2) then none
      else readDirectives { d with hasVersion := true } ts
    | .tagDirective handle uri =>
      if (d.handles.lookup handle).isSome then none
      else readDirectives { d with handles := d.handles ++ [(handle, uri)] } ts
    | _ => some (d, t :: ts)

namespace Document

/-- The end of the text, behind any number of document ends. -/
def atEnd : List Token → Bool
  | [] => false
  | t :: ts =>
    match t.kind with
    | .documentEnd => atEnd ts
    | .streamEnd => true
    | _ => false

/-- Reads the root of a document and the end of the text behind it. -/
def readRoot (handles : Handles) (s : Reading) : Option Document :=
  match readNode handles (4 * s.tokens.length + 4) .block s with
  | some (n, s) => if atEnd s.tokens then some ⟨some n, s.anchored⟩ else none
  | none => none

/-- The **document of a text**. There must not be a second one. -/
def ofTokens (ts : List Token) : Option Document :=
  match ts.head?.map Token.kind with
  | some .streamEnd => some ⟨none, []⟩
  | some .documentStart | some (.versionDirective _ _) | some (.tagDirective _ _) =>
    match readDirectives {} ts with
    | none => none
    | some (d, ts) =>
      let s : Reading := { tokens := ts }
      if s.peek ≠ some .documentStart then none
      else
        let s := s.skip
        match s.peek with
        | some .documentStart | some .documentEnd | some .streamEnd
        | some (.versionDirective _ _) | some (.tagDirective _ _) =>
          if atEnd s.tokens then some ⟨some (.missing s.startMark), []⟩ else none
        | _ => readRoot (d.handles ++ defaultHandles) s
  | _ => readRoot defaultHandles { tokens := ts }

/-- The document of a text; `none` if the text is not well formed. -/
def ofText (cs : List Char) : Option Document := (Token.ofText cs).bind ofTokens

end Document

end RayTally.Yaml
