import RayTally.Json.Reader
import RayTally.Settings.Basic

/-!
# Settings as JSON

Settings are an object with two members, or an array of their values in that order. A missing
value is the default one, members of other names are ignored, and what the path is must be a text
or nothing.
-/

namespace RayTally

namespace Settings

/-- The value of whether to collect. -/
def enabledOfJson : Json → Except Mismatch Bool
  | .boolean b => .ok b
  | v => .error (.type v.found "a boolean")

/-- The value of the path. -/
def outputPathOfJson : Json → Except Mismatch (Option Path)
  | .null => .ok none
  | .string cs => .ok (some ⟨Utf8.encode cs⟩)
  | v => .error (.type v.found "path string")

/-- Reads a value unless it is missing. -/
def optional {α : Type} (default : α) (read : Json → Except Mismatch α) :
    Option Json → Except Mismatch α
  | none => .ok default
  | some v => read v

/-- The settings whose values are given, in order. -/
def ofJsonValues (enabled outputPath : Option Json) : Except Mismatch Settings :=
  match optional false enabledOfJson enabled with
  | .error e => .error e
  | .ok enabled =>
    match optional none outputPathOfJson outputPath with
    | .error e => .error e
    | .ok outputPath => .ok ⟨enabled, outputPath⟩

/-- The **settings that a JSON value holds**. -/
def ofJson : Json → Except Mismatch Settings
  | .object ms => ofJsonValues (Json.member? "enabled" ms) (Json.member? "output_path" ms)
  | .array vs =>
    match ofJsonValues vs[0]? vs[1]? with
    | .error e => .error e
    | .ok s =>
      if vs.length ≤ 2 then .ok s else .error (.length vs.length "fewer elements in array")
  | v => .error (.type v.found "struct StatsSettings")

/-- The settings as a JSON object. -/
def toJson (s : Settings) : Except PathError Json :=
  let object (path : Json) : Json :=
    .object [("enabled".toList, .boolean s.enabled), ("output_path".toList, path)]
  match s.outputPath with
  | none => .ok (object .null)
  | some p =>
    match p.text? with
    | some cs => .ok (object (.string cs))
    | none => .error .notUtf8

end Settings

end RayTally
