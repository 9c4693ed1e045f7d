import RayTally.Text.Utf8

/-!
# The gate

Whether statistics are collected is decided once, by a setting or by an environment variable, and a
recorder asks the gate before it counts anything.

## Main results

* `Gate.isEnabled_resolve`: exactly three values of the variable open the gate.
-/

namespace RayTally

/-- Whether **statistics are collected**. -/
structure Gate where
  isEnabled : Bool
  deriving DecidableEq, Repr

namespace Gate

/-- The gate that lets everything pass. -/
def enabled : Gate := ⟨true⟩

/-- The gate that lets nothing pass. -/
def disabled : Gate := ⟨false⟩

/-- The environment variable that opens the gate. -/
def enableVariable : String := "VULKAN_SIM_ENABLE_RAY_STATS"

/-- The values of the variable that open the gate. -/
def truthy : List String := ["1", "true", "TRUE"]

/-- The gate for a value of the variable, which may be unset. -/
def resolve : Option String → Gate
  | some value => ⟨truthy.contains value⟩
  | none => disabled

/-- The gate for the bytes of the variable. A value that is not UTF-8 leaves the gate closed. -/
def ofEnvironment (value : Option Bytes) : Gate :=
  resolve ((value.bind Utf8.decode).map String.ofList)

/-- Exactly three values of the variable open the gate. -/
theorem isEnabled_resolve {value : Option String} :
    (resolve value).isEnabled ↔ value = some "1" ∨ value = some "true" ∨ value = some "TRUE" := by
  cases value <;> simp [resolve, truthy, disabled]

end Gate

end RayTally
