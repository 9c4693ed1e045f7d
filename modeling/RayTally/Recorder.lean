import RayTally.Update

/-!
# Recorders

Workers report events by calling recorders. Each counter has two of its own, named for the event
that it counts: one is raw and one passes the gate. Each category has one more, which is told the
outcome and counts it together with the total.

## Main results

* `Recorder.ofName?_raw`, `Recorder.ofName?_gated`: the recorders of a counter count that counter.
* `Recorder.ofCategoryName?_name`: the recorder of a category counts its total and the outcome.
-/

namespace RayTally

/-- The **event that a counter counts**, as the names of recorders have it. -/
def Counter.event : Counter → String
  | boxTests => "ray_box_test"
  | boxHits => "ray_box_hit"
  | boxMisses => "ray_box_miss"
  | triangleTests => "ray_triangle_test"
  | triangleHits => "ray_triangle_hit"
  | triangleMisses => "ray_triangle_miss"
  | nodes => "bvh_node_visited"
  | leafNodes => "leaf_node_visited"
  | innerNodes => "inner_node_visited"
  | rays => "ray_traced"
  | raysHit => "ray_with_hit"
  | raysMissed => "ray_without_hit"

namespace Recorder

/-- The name of the recorder that counts raw. -/
def rawName (c : Counter) : String := "increment_" ++ c.event

/-- The name of the recorder that passes the gate. -/
def gatedName (c : Counter) : String := "record_" ++ c.event

/-- The name of the recorder that counts events of a category with their outcome. -/
def categoryName : Category → String
  | .rayBox => "record_box_test"
  | .rayTriangle => "record_triangle_test"
  | .traversal => "record_node_visit"
  | .ray => "record_ray"

/-- The update that a counter's recorder makes, by the recorder's name. -/
def ofName? (name : String) : Option Update :=
  Counter.all.findSome? fun c =>
    if name = rawName c then some (.increment c)
    else if name = gatedName c then some (.record (.single c))
    else none

/-- The update that a category's recorder makes, by the recorder's name and the outcome it is
told. -/
def ofCategoryName? (name : String) (first : Bool) : Option Update :=
  (Category.all.find? fun k => name = categoryName k).map fun k => .record (.outcome k first)

/-- The raw recorder of a counter counts that counter. -/
theorem ofName?_raw (c : Counter) : ofName? (rawName c) = some (.increment c) := by
  cases c <;> decide

/-- The gated recorder of a counter counts that counter. -/
theorem ofName?_gated (c : Counter) : ofName? (gatedName c) = some (.record (.single c)) := by
  cases c <;> decide

/-- The recorder of a category counts its total and the outcome that it is told. -/
theorem ofCategoryName?_name (k : Category) (first : Bool) :
    ofCategoryName? (categoryName k) first = some (.record (.outcome k first)) := by
  cases k <;> rfl

end Recorder

end RayTally
