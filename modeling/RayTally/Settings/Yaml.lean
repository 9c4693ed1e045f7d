import RayTally.Settings.Basic
import RayTally.Stream.Failure
import RayTally.Yaml.Printer

/-!
# Settings as YAML

Settings are a mapping with two keys, both of which may be missing. Keys of other names are
ignored with whatever they hold; a text without a document, or with an empty one, holds the
defaults. An alias stands for the node with its anchor.

A text that is not well formed is told apart from a document that does not hold settings. The latter
is reported with the key concerned and the place.
-/

namespace RayTally

/-- How YAML documents speak of what they hold. -/
def Yaml.wording : Wording := ⟨"unit value", .positional⟩

namespace Settings

/-- The **part of a document** that does not hold what is expected: the whole of it, the value of
a key, or the value of a key that is an alias. -/
inductive Part
  | whole
  | valueOf (key : List Char)
  | valueOfAlias
  deriving DecidableEq, Repr

/-- The words that lead to a part. -/
def Part.lead : Part → String
  | whole => ""
  | valueOf key => String.ofList key ++ ": "
  | valueOfAlias => "?: "

/-- A mismatch in a document, with the part concerned and the place. -/
structure Misfit where
  part : Part
  why : Mismatch
  place : Yaml.Mark

/-- The words for a place, counted from one. The start of the document is not named. -/
def placeText (m : Yaml.Mark) : String :=
  if m.line = 0 ∧ m.column = 0 then ""
  else " at line " ++ Decimal.text (m.line + 1) ++ " column " ++ Decimal.text (m.column + 1)

/-- The words for a mismatch in a document. -/
def Misfit.message (e : Misfit) : String :=
  e.part.lead ++ e.why.message Yaml.wording ++ placeText e.place

/-- Why a YAML text holds **no settings**. -/
inductive YamlError
  | unreadable (why : Failure)
  | malformed
  | misfit (e : Misfit)

/-- The words for why a text, which may come from a file, holds no settings. -/
def YamlError.message (file : Option Path) (e : YamlError) : String :=
  "Invalid stats settings" ++
    (match file with
      | some p => " in '" ++ p.shown ++ "'"
      | none => "") ++
    match e with
    | unreadable why => ": " ++ why.message
    | malformed => ""
    | misfit e => ": " ++ e.message

/-! ### Values -/

/-- What a node is, without what it contains, and its place. An alias leads to the node with its
anchor. -/
def headOf (d : Yaml.Document) : Yaml.Node → Option (Yaml.Head × Yaml.Mark)
  | .scalar m s => some (.scalar s, m)
  | .sequence m _ => some (.sequence, m)
  | .mapping m _ => some (.mapping, m)
  | .alias _ n => d.anchored.lookup n

/-- Why a node is not of the type expected. -/
def wrongType (h : Yaml.Head) (expected : String) : Mismatch :=
  match h with
  | .scalar s =>
    match s.found with
    | .ok f => .type f expected
    | .error e => e
  | .sequence => .type .sequence expected
  | .mapping => .type .mapping expected

/-- Whether a scalar may stand for a boolean: it is plain, or a block with the tag of booleans. -/
def mayBeBoolean (s : Yaml.Scalar) : Bool :=
  s.style == .plain || (s.style == .literal && s.tag == some (Yaml.ScalarType.tag .boolean))

/-- The value of whether to collect. -/
def enabledOfHead (h : Yaml.Head) : Except Mismatch Bool :=
  match h with
  | .scalar s =>
    match if mayBeBoolean s then Yaml.Plain.boolean? s.text else none with
    | some b => .ok b
    | none => .error (wrongType h "a boolean")
  | h => .error (wrongType h "a boolean")

/-- Whether a scalar stands for no path. Only plain ones do; with the tag of nothing they must. -/
def isNoPath (s : Yaml.Scalar) : Except Mismatch Bool :=
  if s.style ≠ .plain then .ok false
  else
    match s.tag with
    | none => .ok (s.text.isEmpty || Yaml.Plain.isNull s.text)
    | some tag =>
      if tag ≠ Yaml.ScalarType.tag .null then .ok false
      else if Yaml.Plain.isNull s.text then .ok true
      else .error (.value (.text s.text) (Yaml.ScalarType.description .null))

/-! ### Mappings -/

/-- What was read from the entries of a mapping so far. -/
structure Entries where
  enabled : Option Bool := none
  outputPath : Option (Option Path) := none

/-- The settings that entries make; what is missing is as in the defaults. -/
def Entries.settings (e : Entries) : Settings := ⟨e.enabled.getD false, e.outputPath.getD none⟩

/-- The text of a key. -/
def keyOf (d : Yaml.Document) (k : Yaml.Node) : Except Misfit (List Char × Part) :=
  match headOf d k with
  | some (.scalar s, _) =>
    .ok (s.text, match k with
      | .alias _ _ => .valueOfAlias
      | _ => .valueOf s.text)
  | some (h, m) => .error ⟨.whole, wrongType h "field identifier", m⟩
  | none => .ok ([], .valueOfAlias)

/-- Reads the value of whether to collect. -/
def readEnabled (d : Yaml.Document) (part : Part) (v : Yaml.Node) : Except Misfit Bool :=
  match headOf d v with
  | some (h, m) =>
    match enabledOfHead h with
    | .ok b => .ok b
    | .error e => .error ⟨part, e, m⟩
  | none => .ok false

/-- Reads the value of the path, in a mapping that starts at `start`. -/
def readOutputPath (d : Yaml.Document) (start : Yaml.Mark) (part : Part) (v : Yaml.Node) :
    Except Misfit (Option Path) :=
  match headOf d v with
  | some (.scalar s, _) =>
    match isNoPath s with
    | .ok true => .ok none
    | .ok false => .ok (some ⟨Utf8.encode s.text⟩)
    | .error e => .error ⟨.whole, e, start⟩
  | some (h, m) => .error ⟨part, wrongType h "path string", m⟩
  | none => .ok none

/-- Reads an entry of a mapping that starts at `start`. No key may be given twice. -/
def readEntry (d : Yaml.Document) (start : Yaml.Mark) (es : Entries) (k v : Yaml.Node) :
    Except Misfit Entries :=
  match keyOf d k with
  | .error e => .error e
  | .ok (key, part) =>
    if key = "enabled".toList then
      if es.enabled.isSome then .error ⟨.whole, .duplicateField "enabled", start⟩
      else (readEnabled d part v).map fun b => { es with enabled := some b }
    else if key = "output_path".toList then
      if es.outputPath.isSome then .error ⟨.whole, .duplicateField "output_path", start⟩
      else (readOutputPath d start part v).map fun p => { es with outputPath := some p }
    else .ok es

/-- Reads the entries of a mapping that starts at `start`. -/
def ofEntries (d : Yaml.Document) (start : Yaml.Mark) (es : Entries) :
    List (Yaml.Node × Yaml.Node) → Except Misfit Settings
  | [] => .ok es.settings
  | (k, v) :: rest =>
    match readEntry d start es k v with
    | .error e => .error e
    | .ok es => ofEntries d start es rest

/-! ### Documents -/

/-- The **settings that a document holds**. -/
def ofDocument (d : Yaml.Document) : Except Misfit Settings :=
  match d.root with
  | none => .ok default
  | some (.mapping m es) => ofEntries d m {} es
  | some (.scalar m s) =>
    if s.style = .plain ∧ s.text.isEmpty then .ok default
    else .error ⟨.whole, wrongType (.scalar s) "struct StatsSettings", m⟩
  | some (.sequence m _) => .error ⟨.whole, wrongType .sequence "struct StatsSettings", m⟩
  | some (.alias m _) => .error ⟨.whole, .type .nothing "struct StatsSettings", m⟩

/-- The **settings that a YAML text holds**. -/
def ofYaml (cs : List Char) : Except YamlError Settings :=
  match Yaml.Document.ofText cs with
  | none => .error .malformed
  | some d => (ofDocument d).mapError .misfit

/-- The settings as YAML: a line for each of the two keys. -/
def toYaml (s : Settings) : Except PathError (List Char) :=
  let document (path : List Char) : List Char :=
    Yaml.Printer.entry "enabled" (Yaml.Printer.booleanLine s.enabled) ++
      Yaml.Printer.entry "output_path" path
  match s.outputPath with
  | none => .ok (document Yaml.Printer.nullLine)
  | some p =>
    match p.text? with
    | some cs => .ok (document (Yaml.Printer.line cs))
    | none => .error .notUtf8

end Settings

end RayTally
