import RayTally.Files.Load
import RayTally.Settings.Yaml

/-!
# Settings in files

Settings are loaded from a file that holds them as YAML. A file that is not UTF-8 is as malformed
as one that is not YAML.
-/

namespace RayTally.Settings

/-- The settings that the bytes of a YAML text hold. -/
def ofYamlBytes (bs : Bytes) : Except YamlError Settings :=
  match Utf8.decode bs with
  | some cs => ofYaml cs
  | none => .error .malformed

/-- Reads settings from a source. -/
def readSource (s : Source) : Except YamlError Settings :=
  match s.allBytes with
  | .ok bs => ofYamlBytes bs
  | .error why => .error (.unreadable why)

/-- **Loads** settings from a file. -/
def load (fs : FileSystem) (p : Path) : Except (LoadError YamlError) Settings :=
  fs.load p readSource

/-- The words for why no settings could be loaded. -/
def loadMessage (e : LoadError YamlError) : String :=
  e.message fun p why => why.message (some p)

end RayTally.Settings
