/-!
# Counters

A traversal is described by twelve counters in four categories. Every category has a total
and two outcomes whose sum the total should be: tests that hit and tests that missed, leaf
nodes and inner nodes, rays that hit and rays that missed.

`Counter.all` is the order in which exports list the counters, and `Counter.name` the name
under which they are exported.

## Main results

* `Counter.index_all`: the position of a counter in `Counter.all` is its index.
* `Counter.ofName?_eq_some_iff`: reading a name accepts the twelve export names only, and
  gives back the counter that bears it.
-/

namespace RayTally

/-- The **quantities counted** while rays are traced through a bounding volume hierarchy. -/
inductive Counter
  | boxTests
  | boxHits
  | boxMisses
  | triangleTests
  | triangleHits
  | triangleMisses
  | nodes
  | leafNodes
  | innerNodes
  | rays
  | raysHit
  | raysMissed
  deriving DecidableEq, Repr

/-- The **four groups** of counters, one for each kind of event. -/
inductive Category
  | rayBox
  | rayTriangle
  | traversal
  | ray
  deriving DecidableEq, Repr

namespace Counter

/-- All counters, in export order. -/
def all : List Counter :=
  [boxTests, boxHits, boxMisses, triangleTests, triangleHits, triangleMisses,
    nodes, leafNodes, innerNodes, rays, raysHit, raysMissed]

/-- The place of a counter in export order. -/
def index : Counter → Fin 12
  | boxTests => 0
  | boxHits => 1
  | boxMisses => 2
  | triangleTests => 3
  | triangleHits => 4
  | triangleMisses => 5
  | nodes => 6
  | leafNodes => 7
  | innerNodes => 8
  | rays => 9
  | raysHit => 10
  | raysMissed => 11

/-- The name under which a counter is exported. -/
def name : Counter → String
  | boxTests => "ray_box_tests_total"
  | boxHits => "ray_box_hits"
  | boxMisses => "ray_box_misses"
  | triangleTests => "ray_triangle_tests_total"
  | triangleHits => "ray_triangle_hits"
  | triangleMisses => "ray_triangle_misses"
  | nodes => "bvh_nodes_visited"
  | leafNodes => "leaf_nodes_visited"
  | innerNodes => "inner_nodes_visited"
  | rays => "rays_traced_total"
  | raysHit => "rays_with_hits"
  | raysMissed => "rays_without_hits"

/-- The category a counter belongs to. -/
def category : Counter → Category
  | boxTests | boxHits | boxMisses => .rayBox
  | triangleTests | triangleHits | triangleMisses => .rayTriangle
  | nodes | leafNodes | innerNodes => .traversal
  | rays | raysHit | raysMissed => .ray

/-- The counter exported under a name, if there is one. -/
def ofName? (s : String) : Option Counter :=
  all.find? fun c => c.name == s

/-! ### Order and names -/

/-- Export order lists every counter. -/
theorem mem_all (c : Counter) : c ∈ all := by
  cases c <;> decide

/-- Export order lists no counter twice. -/
theorem nodup_all : all.Nodup := by
  decide

/-- The **index** of a counter is its place in export order. -/
theorem index_all (c : Counter) : all[c.index]? = some c := by
  cases c <;> rfl

/-- Counters are told apart by their index. -/
theorem index_injective {c d : Counter} (h : c.index = d.index) : c = d := by
  cases c <;> cases d <;> first | rfl | exact absurd h (by decide)

/-- Counters are told apart by their name. -/
theorem name_injective {c d : Counter} (h : c.name = d.name) : c = d := by
  cases c <;> cases d <;> first | rfl | exact absurd h (by decide)

/-- **Names read back**: exactly the export name of a counter is read as that counter. -/
theorem ofName?_eq_some_iff {s : String} {c : Counter} : ofName? s = some c ↔ s = c.name := by
  constructor
  · intro h
    have := List.find?_some h
    exact (beq_iff_eq.mp this).symm
  · rintro rfl
    cases c <;> decide

end Counter

namespace Category

/-- All categories, in the order in which reports treat them. -/
def all : List Category :=
  [rayBox, rayTriangle, traversal, ray]

/-- The counter of all events of a category. -/
def total : Category → Counter
  | rayBox => .boxTests
  | rayTriangle => .triangleTests
  | traversal => .nodes
  | ray => .rays

/-- The counter of the first outcome: a hit, or a leaf. -/
def first : Category → Counter
  | rayBox => .boxHits
  | rayTriangle => .triangleHits
  | traversal => .leafNodes
  | ray => .raysHit

/-- The counter of the second outcome: a miss, or an inner node. -/
def second : Category → Counter
  | rayBox => .boxMisses
  | rayTriangle => .triangleMisses
  | traversal => .innerNodes
  | ray => .raysMissed

/-- The counter of the outcome that a flag chooses: the first one if it is set. -/
def outcome (k : Category) (flag : Bool) : Counter :=
  if flag then k.first else k.second

end Category

end RayTally
