import RayTally.Yaml.Scalar

/-!
# Tokens of YAML

A document is a sequence of tokens. Most of them stand in the text; the starts and ends of block
collections follow from the indentation.

A key that is not marked by `?` is known as one only once its colon is met. A place where such a
key may start is therefore kept as a *candidate*, one for each level of flow collections, with the
number of tokens before it; when the colon comes, a key token is put in at that number. A
candidate is given up when its line ends or after 1024 characters. It must not be given up where
the indentation demands a key.
-/

namespace RayTally.Yaml

/-- What a token **stands for**. -/
inductive TokenKind
  | versionDirective (major minor : Nat)
  | tagDirective (handle uri : List Char)
  | documentStart
  | documentEnd
  | streamEnd
  | blockSequenceStart
  | blockMappingStart
  | blockEnd
  | flowSequenceStart
  | flowSequenceEnd
  | flowMappingStart
  | flowMappingEnd
  | blockEntry
  | flowEntry
  | key
  | value
  | alias (name : List Char)
  | anchor (name : List Char)
  | tag (handle suffix : List Char)
  | scalar (style : Style) (text : List Char)
  deriving DecidableEq, Repr

/-- A token with the places where it starts and ends. -/
structure Token where
  kind : TokenKind
  start : Mark
  stop : Mark

/-- A place where a key may have started, with the number of tokens before it. -/
structure Candidate where
  mark : Mark
  number : Nat
  required : Bool

/-- The **state of reading tokens**: the cursor, the tokens so far, the indentation of the current
block collection and of those around it, a candidate for each level of flow collections, the
innermost first, and whether a key may start here. -/
structure Lexer where
  cursor : Cursor
  tokens : List Token := []
  indent : Int := -1
  outer : List Int := []
  candidates : List (Option Candidate) := [none]
  keyAllowed : Bool := true

namespace Lexer

/-- The state at the start of a text. -/
def start (cs : List Char) : Lexer := { cursor := ⟨cs, .start⟩ }

/-- Whether the cursor is inside a flow collection. -/
def inFlow (s : Lexer) : Bool := 1 < s.candidates.length

/-- The column of the cursor. -/
def column (s : Lexer) : Nat := s.cursor.mark.column

/-- The state with a token more. -/
def emit (s : Lexer) (kind : TokenKind) (start stop : Mark) : Lexer :=
  { s with tokens := s.tokens ++ [⟨kind, start, stop⟩] }

/-- The state with a token put in behind the first `n`. -/
def insert (s : Lexer) (n : Nat) (kind : TokenKind) (m : Mark) : Lexer :=
  { s with tokens := s.tokens.take n ++ ⟨kind, m, m⟩ :: s.tokens.drop n }

/-- Reads an indicator of `n` characters as a token. -/
def indicator (s : Lexer) (kind : TokenKind) (n : Nat) : Lexer :=
  let next := s.cursor.advance n
  { s.emit kind s.cursor.mark next.mark with cursor := next }

/-! ### Candidates for keys -/

/-- Whether a candidate is too far back for a key that ends here. -/
def isStale (m : Mark) (k : Candidate) : Bool :=
  k.mark.line < m.line || k.mark.index + 1024 < m.index

/-- Gives up a candidate; `none` if it was required. -/
def giveUp : Option Candidate → Option (Option Candidate)
  | some k => if k.required then none else some none
  | none => some none

/-- Gives up the candidates that are too far back. -/
def dropStale (s : Lexer) : Option Lexer :=
  let check (k : Option Candidate) : Option (Option Candidate) :=
    if k.any (isStale s.cursor.mark) then giveUp k else some k
  (s.candidates.mapM check).map fun ks => { s with candidates := ks }

/-- Gives up the innermost candidate. -/
def dropCandidate (s : Lexer) : Option Lexer :=
  match s.candidates with
  | [] => some s
  | k :: ks => (giveUp k).map fun k => { s with candidates := k :: ks }

/-- Makes the cursor's place a candidate, if a key may start here. -/
def addCandidate (s : Lexer) : Option Lexer :=
  if s.keyAllowed then
    (s.dropCandidate).map fun s =>
      let k : Candidate :=
        { mark := s.cursor.mark, number := s.tokens.length
          required := !s.inFlow && s.indent == (s.column : Int) }
      { s with candidates := some k :: s.candidates.drop 1 }
  else some s

/-! ### Indentation -/

/-- Starts a block collection if the column `n` is further in than the current one. Its token is
put in behind the first `number` tokens, or last. -/
def indentTo (s : Lexer) (n : Nat) (number : Option Nat) (kind : TokenKind) (m : Mark) : Lexer :=
  if !s.inFlow && s.indent < (n : Int) then
    let s : Lexer := { s with indent := n, outer := s.indent :: s.outer }
    match number with
    | some k => s.insert k kind m
    | none => s.emit kind m m
  else s

/-- Ends the block collections that stand further in than `column`. -/
def unindentTo (column : Int) (m : Mark) : Int → List Int → List Token → Int × List Int × List Token
  | indent, [], tokens => (indent, [], tokens)
  | indent, i :: outer, tokens =>
    if column < indent then unindentTo column m i outer (tokens ++ [⟨.blockEnd, m, m⟩])
    else (indent, i :: outer, tokens)

/-- Ends the block collections that stand further in than `column`, outside of flow collections. -/
def unindent (s : Lexer) (column : Int) : Lexer :=
  if s.inFlow then s
  else
    let (indent, outer, tokens) := unindentTo column s.cursor.mark s.indent s.outer s.tokens
    { s with indent, outer, tokens }

/-! ### Between tokens -/

/-- Passes over blanks, comments and line breaks up to the next token. A tab counts as a blank
where no key may start. Outside of flow collections a key may start on a new line. -/
def skipToToken : Nat → Lexer → Lexer
  | 0, s => s
  | fuel + 1, s =>
    let blank (c : Char) : Bool := c == ' ' || ((s.inFlow || !s.keyAllowed) && c == '\t')
    let c := s.cursor.skipWhile blank
    let c := match c.rest with
      | '#' :: _ => c.skipWhile fun x => !isBreak x
      | _ => c
    match c.rest with
    | x :: _ =>
      if isBreak x then
        skipToToken fuel
          { s with cursor := c.readBreak.2, keyAllowed := s.keyAllowed || !s.inFlow }
      else { s with cursor := c }
    | [] => { s with cursor := c }

/-- Passes over a byte order mark at the start of the text. -/
def skipByteOrderMark (s : Lexer) : Lexer :=
  match s.cursor.rest with
  | '\uFEFF' :: _ => { s with cursor := s.cursor.advance 1 }
  | _ => s

/-! ### Directives -/

/-- Reads a decimal numeral of at most nine digits. -/
def readNumeral (c : Cursor) : Option (Nat × Cursor) :=
  let ds := c.run Char.isDigit
  if ds.isEmpty || 9 < ds.length then none
  else some (ds.foldl (fun n d => n * 10 + (d.toNat - 48)) 0, c.advance ds.length)

/-- Reads the two numbers of a version. -/
def readVersion (c : Cursor) : Option (TokenKind × Cursor) :=
  match readNumeral (c.skipWhile isBlank) with
  | none => none
  | some (major, c) =>
    match c.rest with
    | '.' :: _ =>
      (readNumeral (c.advance 1)).map fun (minor, c) => (.versionDirective major minor, c)
    | _ => none

/-- Reads the handle of a tag: `!`, or a word between two of them. In a directive it is nothing
else; before a tag it may also be a word behind `!`. -/
def readTagHandle (directive : Bool) (c : Cursor) : Option (List Char × Cursor) :=
  match c.rest with
  | '!' :: _ =>
    let w := (c.advance 1).run isWord
    let c := c.advance (1 + w.length)
    match c.rest with
    | '!' :: _ => some ('!' :: w ++ ['!'], c.advance 1)
    | _ => if directive && !w.isEmpty then none else some ('!' :: w, c)
  | _ => none

/-- Whether a character may stand in the URI of a tag; brackets and commas only where nothing else
could be meant. -/
def isUri (wide : Bool) (c : Char) : Bool :=
  isWord c || ";/?:@&=+$.%!~*\x27()".toList.contains c || (wide && ",[]".toList.contains c)

/-- Reads two hexadecimal digits behind a percent sign as a byte. -/
def readUriByte : List Char → Option (UInt8 × List Char)
  | '%' :: a :: b :: cs => (hexValue? [a, b]).map fun n => (n.toUInt8, cs)
  | _ => none

/-- How many bytes a character has that starts with a byte. -/
def utf8Width (b : UInt8) : Nat :=
  if b < 0x80 then 1 else if b < 0xC0 then 0 else if b < 0xE0 then 2 else if b < 0xF0 then 3
  else if b < 0xF8 then 4 else 0

/-- Reads `n` more bytes that continue a character. -/
def readUriTail : Nat → List Char → Option (Bytes × List Char)
  | 0, cs => some ([], cs)
  | n + 1, cs =>
    match readUriByte cs with
    | some (b, cs) =>
      if 0x80 ≤ b && b < 0xC0 then (readUriTail n cs).map fun (bs, cs) => (b :: bs, cs) else none
    | none => none

/-- Reads a character that is given by its bytes. -/
def readUriEscape (cs : List Char) : Option (List Char × List Char) :=
  match readUriByte cs with
  | none => none
  | some (b, cs) =>
    if utf8Width b = 0 then none
    else
      match readUriTail (utf8Width b - 1) cs with
      | some (bs, cs) => some (Utf8.decodeLossy (b :: bs), cs)
      | none => none

/-- Reads the characters of a URI. Gives the URI, how many characters it took, and the rest. -/
def readUriChars (wide : Bool) : Nat → List Char → Option (List Char × Nat × List Char)
  | 0, cs => some ([], 0, cs)
  | fuel + 1, cs =>
    match cs with
    | [] => some ([], 0, [])
    | c :: rest =>
      if !isUri wide c then some ([], 0, c :: rest)
      else if c == '%' then
        match readUriEscape (c :: rest) with
        | none => none
        | some (ds, rest') =>
          (readUriChars wide fuel rest').map fun (us, n, cs) =>
            (ds ++ us, n + (rest.length + 1 - rest'.length), cs)
      else (readUriChars wide fuel rest).map fun (us, n, cs) => (c :: us, n + 1, cs)

/-- Reads the URI of a tag, which continues the handle `head` if that is given. It must not be
empty. -/
def readTagUri (wide : Bool) (head : List Char) (c : Cursor) : Option (List Char × Cursor) :=
  match readUriChars wide (c.rest.length + 1) c.rest with
  | none => none
  | some (us, n, _) =>
    if head.isEmpty && n = 0 then none else some (head.drop 1 ++ us, c.advance n)

/-- Reads a handle and what it stands for. -/
def readTagDirective (c : Cursor) : Option (TokenKind × Cursor) :=
  match readTagHandle true (c.skipWhile isBlank) with
  | none => none
  | some (handle, c) =>
    match c.rest with
    | x :: _ =>
      if isBlank x then
        match readTagUri true [] (c.skipWhile isBlank) with
        | some (uri, c) => if atSpacing c.rest then some (.tagDirective handle uri, c) else none
        | none => none
      else none
    | [] => none

/-- Reads a directive, up to the end of its line. -/
def readDirective (c : Cursor) : Option (TokenKind × Mark × Cursor) :=
  let name := (c.advance 1).run isWord
  let c := c.advance (1 + name.length)
  if name.isEmpty || !atSpacing c.rest then none
  else
    let body :=
      if name = "YAML".toList then readVersion c
      else if name = "TAG".toList then readTagDirective c
      else none
    match body with
    | some (kind, c) => (skipLineEnd c).map fun next => (kind, c.mark, next)
    | none => none

/-! ### Names and tags -/

/-- Reads the name of an anchor or alias behind its indicator. -/
def readName (c : Cursor) : Option (List Char × Cursor) :=
  let name := c.run isWord
  let c := c.advance name.length
  let ends := atSpacing c.rest || match c.rest with
    | x :: _ => "?:,]\x7d%@\x60".toList.contains x
    | [] => true
  if name.isEmpty || !ends then none else some (name, c)

/-- Reads a tag: a URI between angle brackets, or a handle and a suffix. -/
def readTag (inFlow : Bool) (c : Cursor) : Option (TokenKind × Cursor) :=
  let body : Option (TokenKind × Cursor) :=
    match c.rest with
    | '!' :: '<' :: _ =>
      match readTagUri true [] (c.advance 2) with
      | some (uri, c) =>
        match c.rest with
        | '>' :: _ => some (.tag [] uri, c.advance 1)
        | _ => none
      | none => none
    | _ =>
      match readTagHandle false c with
      | none => none
      | some (handle, c) =>
        if 1 < handle.length && handle.getLast? == some '!' then
          (readTagUri false [] c).map fun (uri, c) => (.tag handle uri, c)
        else
          (readTagUri false handle c).map fun (uri, c) =>
            (if uri.isEmpty then .tag [] ['!'] else .tag ['!'] uri, c)
  match body with
  | some (kind, c) =>
    match c.rest with
    | x :: _ => if isSpacing x || (inFlow && x == ',') then some (kind, c) else none
    | [] => some (kind, c)
  | none => none

/-! ### Tokens -/

/-- Adds a token that was read, behind which no key may start. -/
def read (s : Lexer) : Option (TokenKind × Cursor) → Option Lexer
  | some (kind, c) =>
    some { s.emit kind s.cursor.mark c.mark with cursor := c, keyAllowed := false }
  | none => none

/-- A line that starts or ends a document. -/
def readDocumentLine (s : Lexer) (kind : TokenKind) : Option Lexer :=
  ((s.unindent (-1)).dropCandidate).map fun s => { s.indicator kind 3 with keyAllowed := false }

/-- An opening bracket. It may start a key, as may what follows it. -/
def openFlow (s : Lexer) (kind : TokenKind) : Option Lexer :=
  (s.addCandidate).map fun s =>
    { s.indicator kind 1 with candidates := none :: s.candidates, keyAllowed := true }

/-- A closing bracket. -/
def closeFlow (s : Lexer) (kind : TokenKind) : Option Lexer :=
  (s.dropCandidate).map fun s =>
    let candidates := if s.inFlow then s.candidates.drop 1 else s.candidates
    { s.indicator kind 1 with candidates, keyAllowed := false }

/-- A comma. -/
def readFlowEntry (s : Lexer) : Option Lexer :=
  (s.dropCandidate).map fun s => { s.indicator .flowEntry 1 with keyAllowed := true }

/-- The dash of a sequence. -/
def readBlockEntry (s : Lexer) : Option Lexer :=
  if !s.inFlow && !s.keyAllowed then none
  else
    ((s.indentTo s.column none .blockSequenceStart s.cursor.mark).dropCandidate).map fun s =>
      { s.indicator .blockEntry 1 with keyAllowed := true }

/-- The question mark of a key. -/
def readKey (s : Lexer) : Option Lexer :=
  if !s.inFlow && !s.keyAllowed then none
  else
    ((s.indentTo s.column none .blockMappingStart s.cursor.mark).dropCandidate).map fun s =>
      { s.indicator .key 1 with keyAllowed := !s.inFlow }

/-- The colon of a value. If there is a candidate, the key starts there. -/
def readValue (s : Lexer) : Option Lexer :=
  match s.candidates with
  | some k :: ks =>
    let s := (s.insert k.number .key k.mark).indentTo k.mark.column (some k.number)
      .blockMappingStart k.mark
    some { s.indicator .value 1 with candidates := none :: ks, keyAllowed := false }
  | _ =>
    if !s.inFlow && !s.keyAllowed then none
    else
      let s := s.indentTo s.column none .blockMappingStart s.cursor.mark
      some { s.indicator .value 1 with keyAllowed := !s.inFlow }

/-- The name behind an indicator, as an anchor or an alias. -/
def readNamed (s : Lexer) (kind : List Char → TokenKind) : Option Lexer :=
  match s.addCandidate with
  | some s => s.read ((readName (s.cursor.advance 1)).map fun (name, c) => (kind name, c))
  | none => none

/-- A scalar between quotes. -/
def readQuoted (s : Lexer) (style : Style) : Option Lexer :=
  match s.addCandidate with
  | some s =>
    let c := s.cursor.advance 1
    let body :=
      if style = .singleQuoted then readSingleQuoted .empty c.mark c.rest
      else readDoubleQuoted .empty c.mark c.rest
    s.read (body.map fun (cs, c) => (.scalar style cs, c))
  | none => none

/-- A block of lines. A key may start behind it. -/
def readBlockScalar (s : Lexer) (style : Style) : Option Lexer :=
  match s.dropCandidate with
  | some s =>
    (s.read ((readBlock style s.indent (s.cursor.advance 1)).map fun (cs, c) =>
      (.scalar style cs, c))).map fun s => { s with keyAllowed := true }
  | none => none

/-- A plain scalar. A key may start behind it if a line ended before that place. -/
def readPlainScalar (s : Lexer) : Option Lexer :=
  match s.addCandidate with
  | some s =>
    match readPlain ⟨s.inFlow, (s.indent + 1).toNat⟩ .empty s.cursor.mark s.cursor.rest with
    | some (cs, e) =>
      (s.read (some (.scalar .plain cs, e.cursor))).map fun s =>
        { s with keyAllowed := e.afterBreak }
    | none => none
  | none => none

/-- Whether a plain scalar may start with `c`, before `cs`. -/
def startsPlain (inFlow : Bool) (c : Char) (cs : List Char) : Bool :=
  !(isSpacing c || "-?:,[]\x7b\x7d#&*!|>\x27\"%@\x60".toList.contains c)
    || (c == '-' && !(cs.head?.any isBlank))
    || (!inFlow && (c == '?' || c == ':') && !atSpacing cs)

/-- The end of the text. -/
def finish (s : Lexer) : Option Lexer :=
  let m := if s.column = 0 then s.cursor.mark else s.cursor.mark.newLine 0
  let s : Lexer := { s with cursor := ⟨[], m⟩ }
  ((s.unindent (-1)).dropCandidate).map fun s =>
    { s.emit .streamEnd s.cursor.mark s.cursor.mark with keyAllowed := false }

/-- Reads the token that starts with `c`, before `cs`. -/
def readToken (s : Lexer) (c : Char) (cs : List Char) : Option Lexer :=
  if c == '%' && s.column == 0 then
    match (s.unindent (-1)).dropCandidate, readDirective s.cursor with
    | some s, some (kind, stop, next) =>
      some { s.emit kind s.cursor.mark stop with cursor := next, keyAllowed := false }
    | _, _ => none
  else if s.cursor.atRule '-' then s.readDocumentLine .documentStart
  else if s.cursor.atRule '.' then s.readDocumentLine .documentEnd
  else if c == '[' then s.openFlow .flowSequenceStart
  else if c == '\x7b' then s.openFlow .flowMappingStart
  else if c == ']' then s.closeFlow .flowSequenceEnd
  else if c == '\x7d' then s.closeFlow .flowMappingEnd
  else if c == ',' then s.readFlowEntry
  else if c == '-' && atSpacing cs then s.readBlockEntry
  else if c == '?' && (s.inFlow || atSpacing cs) then s.readKey
  else if c == ':' && (s.inFlow || atSpacing cs) then s.readValue
  else if c == '*' then s.readNamed .alias
  else if c == '&' then s.readNamed .anchor
  else if c == '!' then
    match s.addCandidate with
    | some s => s.read (readTag s.inFlow s.cursor)
    | none => none
  else if c == '|' && !s.inFlow then s.readBlockScalar .literal
  else if c == '>' && !s.inFlow then s.readBlockScalar .folded
  else if c == '\x27' then s.readQuoted .singleQuoted
  else if c == '"' then s.readQuoted .doubleQuoted
  else if startsPlain s.inFlow c cs then s.readPlainScalar
  else none

/-- Goes to the next token: what is in between is passed over, candidates too far back are given up,
and collections end that stand further in. -/
def approach (s : Lexer) : Option Lexer :=
  let s := s.skipToToken (s.cursor.rest.length + 1)
  (s.dropStale).map fun s => s.unindent s.column

/-- Reads tokens to the end of the text. Each takes at least one character. -/
def run : Nat → Lexer → Option (List Token)
  | 0, _ => none
  | fuel + 1, s =>
    match s.approach with
    | none => none
    | some s =>
      match s.cursor.rest with
      | [] => s.finish.map Lexer.tokens
      | c :: cs =>
        match s.readToken c cs with
        | some s => run fuel s
        | none => none

end Lexer

/-- The **tokens of a text**; `none` if some character is not allowed or fits nowhere. -/
def Token.ofText (cs : List Char) : Option (List Token) :=
  if cs.all isAllowed then (Lexer.start cs).skipByteOrderMark.run (cs.length + 1) else none

end RayTally.Yaml
