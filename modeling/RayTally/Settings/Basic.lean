import RayTally.Files.Path
import RayTally.Gate

/-!
# Settings

Whether statistics are collected, and where the export goes.
-/

namespace RayTally

/-- The **choices of the host**: whether to collect, and a path for the export if it has one. -/
structure Settings where
  enabled : Bool := false
  outputPath : Option Path := none
  deriving DecidableEq, Repr

/-- A path that is not UTF-8 has no text, so it cannot be written into a document. -/
inductive PathError
  | notUtf8
  deriving DecidableEq, Repr

/-- The words for a path that cannot be written. -/
def PathError.message : PathError → String
  | notUtf8 => "path contains invalid UTF-8 characters"

namespace Settings

/-- The environment variable that holds the path of the export. -/
def outputVariable : String := "VULKAN_SIM_RAY_STATS_FILE"

/-- The file to which the export goes unless a path is given. -/
def defaultOutputFile : String := "ray_intersection_stats.csv"

/-- Nothing is collected, and the export has no path of its own. -/
def default : Settings := {}

/-- The settings for the values of the two environment variables. -/
def ofEnvironment (enable file : Option Bytes) : Settings where
  enabled := (Gate.ofEnvironment enable).isEnabled
  outputPath := file.map Path.mk

/-- The gate that the settings ask for. -/
def gate (s : Settings) : Gate := ⟨s.enabled⟩

/-- Where the export goes. -/
def resolvedOutputPath (s : Settings) : Path :=
  s.outputPath.getD (.ofString defaultOutputFile)

end Settings

end RayTally
