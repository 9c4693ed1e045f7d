import RayTally.Settings.Json
import RayTally.Tally.Json

/-!
# Shapes of JSON values

Tallies and settings are read from JSON values of two shapes each: an object with members of certain
names, or an array of what these members hold. Such a shape is a relation between values and what is
read from them, with a constructor for the object and one for the array. Non-negative integers of 64
bits are exactly the values `Json.unsigned`.

## Main results

* `Tally.ofJson_eq_ok_iff`: what a tally is read from.
* `Settings.ofJson_eq_ok_iff`: what settings are read from.
* `Json.member?_known`: members of other names do not count.
* `json_shapes`: all of it, for every JSON value.
-/

namespace RayTally

namespace Json

variable {keys : List String} {ms : List (List Char × Json)}

/-- The members of an object that have **one of the names** in a list. -/
def known (keys : List String) (ms : List (List Char × Json)) : List (List Char × Json) :=
  ms.filter fun m => (keys.map String.toList).contains m.1

/-- A member is found among those of its name, **whatever else there is**. -/
theorem member?_known {key : String} (hkey : key ∈ keys) (ms : List (List Char × Json)) :
    member? key (known keys ms) = member? key ms := by
  have hcontains : (keys.map String.toList).contains key.toList = true :=
    List.contains_iff_mem.mpr (List.mem_map_of_mem hkey)
  rw [member?, member?, known]
  induction ms with
  | nil => rfl
  | cons m ms ih =>
    obtain ⟨k, v⟩ := m
    by_cases hk : k = key.toList
    · subst hk
      rw [List.filter_cons, if_pos hcontains, List.lookup_cons_self, List.lookup_cons_self]
    · have hne : (key.toList == k) = false := beq_eq_false_iff_ne.mpr (Ne.symm hk)
      rw [List.lookup_cons, hne, List.filter_cons]
      split
      · rw [List.lookup_cons, hne]
        exact ih
      · exact ih

end Json

/-! ### Tallies -/

namespace Tally

variable {t : Tally} {v : Json} {vs : List Json} {ns : List UInt64}

/-- A JSON value **has the shape of a tally** with certain values. -/
inductive HasShape (ns : List UInt64) : Json → Prop
  | object {ms : List (List Char × Json)}
      (h : Json.member? "values" ms = some (.array (ns.map .unsigned))) : HasShape ns (.object ms)
  | array : HasShape ns (.array [.array (ns.map .unsigned)])

/-- Only what is written as a non-negative integer is a value. -/
theorem valueOfJson_eq_ok_iff {n : UInt64} : valueOfJson v = .ok n ↔ v = .unsigned n := by
  cases v with
  | unsigned m => simp [valueOfJson]
  | _ => simp [valueOfJson]

/-- **As many values as are asked for** are taken, and what is behind them is not looked at. -/
theorem takeValues_eq_ok_iff {i n : Nat} :
    takeValues i n vs = .ok ns ↔ ns.length = n ∧ ∃ rest, vs = ns.map .unsigned ++ rest := by
  induction n generalizing i vs ns with
  | zero =>
    rw [takeValues, List.length_eq_zero_iff, Except.ok.injEq, eq_comm]
    constructor
    · rintro rfl
      exact ⟨rfl, vs, rfl⟩
    · exact fun h => h.1
  | succ n ih =>
    cases vs with
    | nil =>
      refine iff_of_false ?_ ?_
      · rintro ⟨⟩
      · rintro ⟨hlen, rest, hrest⟩
        obtain ⟨hmap, -⟩ := List.append_eq_nil_iff.mp hrest.symm
        rw [List.map_eq_nil_iff.mp hmap] at hlen
        cases hlen
    | cons v vs =>
      constructor
      · intro h
        rw [takeValues] at h
        cases hv : valueOfJson v with
        | error e =>
          rw [hv] at h
          cases h
        | ok x =>
          cases htake : takeValues (i + 1) n vs with
          | error e =>
            rw [hv, htake] at h
            cases h
          | ok xs =>
            rw [hv, htake] at h
            cases h
            obtain ⟨hlen, rest, rfl⟩ := ih.mp htake
            rw [valueOfJson_eq_ok_iff.mp hv]
            exact ⟨congrArg (· + 1) hlen, rest, rfl⟩
      · rintro ⟨hlen, rest, hrest⟩
        cases ns with
        | nil => cases hlen
        | cons x xs =>
          obtain ⟨hv, hvs⟩ := List.cons.inj hrest
          have htake : takeValues (i + 1) n vs = .ok xs :=
            ih.mpr ⟨Nat.succ.inj hlen, rest, hvs⟩
          rw [takeValues, valueOfJson_eq_ok_iff.mpr hv, htake]
          rfl

/-- A tally has twelve values. -/
theorem ofList?_eq_some_iff : ofList? ns = some t ↔ t.values.toList = ns := by
  rw [ofList?]
  constructor
  · intro h
    split at h
    · cases h
      rfl
    · cases h
  · rintro rfl
    rw [dif_pos t.values.length_toList]
    rfl

/-- **The values of a tally** are read from an array of just these values. -/
theorem ofJsonValues_eq_ok_iff :
    ofJsonValues v = .ok t ↔ v = .array (t.values.toList.map .unsigned) := by
  constructor
  · intro h
    cases v with
    | array vs =>
      rw [ofJsonValues] at h
      split at h
      · cases h
      · rename_i xs htake
        obtain ⟨hlen, rest, rfl⟩ := takeValues_eq_ok_iff.mp htake
        split at h
        · rename_i t' hlist hshort
          cases h
          rw [decide_eq_true_eq, List.length_append, List.length_map, hlen] at hshort
          have hrest : rest = [] := List.length_eq_zero_iff.mp (by omega)
          rw [ofList?_eq_some_iff.mp hlist, hrest, List.append_nil]
        · cases h
    | _ => cases h
  · rintro rfl
    have htake : takeValues 0 12 (t.values.toList.map .unsigned) = .ok t.values.toList :=
      takeValues_eq_ok_iff.mpr ⟨t.values.length_toList, [], (List.append_nil _).symm⟩
    have hlength : (t.values.toList.map Json.unsigned).length ≤ 12 :=
      Nat.le_of_eq (by rw [List.length_map, t.values.length_toList])
    rw [ofJsonValues, htake]
    simp only [ofList?_eq_some_iff.mpr rfl, hlength, decide_true]

/-- **What a tally is read from**: a value with the shape of a tally, which holds its values. -/
theorem ofJson_eq_ok_iff : ofJson v = .ok t ↔ HasShape t.values.toList v := by
  constructor
  · intro h
    rw [ofJson.eq_def] at h
    split at h
    · split at h
      · rename_i w hw
        exact .object (hw.trans (congrArg some (ofJsonValues_eq_ok_iff.mp h)))
      · cases h
    · cases h
    · split at h
      · cases h
      · rename_i w ws t' hw
        split at h
        · rename_i hnil
          cases h
          rw [ofJsonValues_eq_ok_iff.mp hw, List.isEmpty_iff.mp hnil]
          exact .array
        · cases h
    · cases h
  · rintro (hmember | -)
    · rw [ofJson, hmember]
      exact ofJsonValues_eq_ok_iff.mpr rfl
    · rw [ofJson, ofJsonValues_eq_ok_iff.mpr rfl]
      rfl

/-- **A tally is read** exactly if the values that there are are twelve. -/
theorem exists_ofJson_eq_ok_iff :
    (∃ t, ofJson v = .ok t) ↔ ∃ ns : List UInt64, ns.length = 12 ∧ HasShape ns v := by
  constructor
  · rintro ⟨t, h⟩
    exact ⟨_, t.values.length_toList, ofJson_eq_ok_iff.mp h⟩
  · rintro ⟨ns, hlen, hshape⟩
    have hlist : ofList? ns = some ⟨⟨ns.toArray, by simpa using hlen⟩⟩ := dif_pos hlen
    rw [← ofList?_eq_some_iff.mp hlist] at hshape
    exact ⟨_, ofJson_eq_ok_iff.mpr hshape⟩

end Tally

/-! ### Settings -/

namespace Settings

variable {s : Settings} {v : Json} {enabled outputPath : Option Json}

/-- What **whether to collect** is read from. Nothing is collected unless it says so. -/
inductive HoldsEnabled : Option Json → Bool → Prop
  | absent : HoldsEnabled none false
  | boolean (b : Bool) : HoldsEnabled (some (.boolean b)) b

/-- What **the path of the export** is read from. There is none unless it is given. -/
inductive HoldsPath : Option Json → Option Path → Prop
  | absent : HoldsPath none none
  | null : HoldsPath (some .null) none
  | string (cs : List Char) : HoldsPath (some (.string cs)) (some ⟨Utf8.encode cs⟩)

/-- A JSON value **has the shape of settings**. -/
inductive HasShape (s : Settings) : Json → Prop
  | object {ms : List (List Char × Json)} (he : HoldsEnabled (Json.member? "enabled" ms) s.enabled)
      (hp : HoldsPath (Json.member? "output_path" ms) s.outputPath) : HasShape s (.object ms)
  | array {vs : List Json} (hlen : vs.length ≤ 2) (he : HoldsEnabled vs[0]? s.enabled)
      (hp : HoldsPath vs[1]? s.outputPath) : HasShape s (.array vs)

theorem optional_enabledOfJson_eq_ok_iff {b : Bool} :
    optional false enabledOfJson enabled = .ok b ↔ HoldsEnabled enabled b := by
  constructor
  · intro h
    cases enabled with
    | none =>
      cases h
      exact .absent
    | some v =>
      cases v with
      | boolean b' =>
        cases h
        exact .boolean b
      | _ => cases h
  · rintro (- | -)
    · rfl
    · rfl

theorem optional_outputPathOfJson_eq_ok_iff {p : Option Path} :
    optional none outputPathOfJson outputPath = .ok p ↔ HoldsPath outputPath p := by
  constructor
  · intro h
    cases outputPath with
    | none =>
      cases h
      exact .absent
    | some v =>
      cases v with
      | null =>
        cases h
        exact .null
      | string cs =>
        cases h
        exact .string cs
      | _ => cases h
  · rintro (- | - | -)
    · rfl
    · rfl
    · rfl

/-- **Settings are read** if each of their values is, and have these values. -/
theorem ofJsonValues_eq_ok_iff :
    ofJsonValues enabled outputPath = .ok s ↔
      HoldsEnabled enabled s.enabled ∧ HoldsPath outputPath s.outputPath := by
  rw [← optional_enabledOfJson_eq_ok_iff, ← optional_outputPathOfJson_eq_ok_iff, ofJsonValues]
  cases optional false enabledOfJson enabled with
  | error e => simp
  | ok b =>
    cases optional none outputPathOfJson outputPath with
    | error e => simp
    | ok p =>
      simp only [Except.ok.injEq]
      constructor
      · rintro rfl
        exact ⟨rfl, rfl⟩
      · rintro ⟨rfl, rfl⟩
        rfl

/-- **What settings are read from**: a value with the shape of settings, which holds their
values. -/
theorem ofJson_eq_ok_iff : ofJson v = .ok s ↔ HasShape s v := by
  constructor
  · intro h
    cases v with
    | object ms =>
      obtain ⟨he, hp⟩ := ofJsonValues_eq_ok_iff.mp h
      exact .object he hp
    | array vs =>
      rw [ofJson] at h
      split at h
      · cases h
      · rename_i s' hvalues
        split at h
        · rename_i hlen
          cases h
          obtain ⟨he, hp⟩ := ofJsonValues_eq_ok_iff.mp hvalues
          exact .array hlen he hp
        · cases h
    | _ => cases h
  · rintro (⟨he, hp⟩ | ⟨hlen, he, hp⟩)
    · rw [ofJson]
      exact ofJsonValues_eq_ok_iff.mpr ⟨he, hp⟩
    · rw [ofJson, ofJsonValues_eq_ok_iff.mpr ⟨he, hp⟩]
      exact if_pos hlen

end Settings

/-! ### Both -/

/-- **What tallies and settings are read from**, for every JSON value.

* A tally is read exactly from an object whose member `values` is an array of twelve 64-bit numbers,
  or from an array with such an array as its only item, and has these values in order.
* Settings are read exactly from an object whose member `enabled` is a boolean or missing, and whose
  member `output_path` is a text, nothing or missing, or from an array of at most two items that are
  just that in this order.
* Objects that differ in members of other names only are read alike, also where reading fails. -/
theorem json_shapes (v : Json) :
    (∀ t, Tally.ofJson v = .ok t ↔ Tally.HasShape t.values.toList v) ∧
    ((∃ t, Tally.ofJson v = .ok t) ↔ ∃ ns : List UInt64, ns.length = 12 ∧ Tally.HasShape ns v) ∧
    (∀ s, Settings.ofJson v = .ok s ↔ Settings.HasShape s v) ∧
    ∀ ms ms',
      (Json.known ["values"] ms = Json.known ["values"] ms' →
        Tally.ofJson (.object ms) = Tally.ofJson (.object ms')) ∧
      (Json.known ["enabled", "output_path"] ms = Json.known ["enabled", "output_path"] ms' →
        Settings.ofJson (.object ms) = Settings.ofJson (.object ms')) := by
  refine ⟨fun t => Tally.ofJson_eq_ok_iff, Tally.exists_ofJson_eq_ok_iff,
    fun s => Settings.ofJson_eq_ok_iff, fun ms ms' => ⟨fun hsame => ?_, fun hsame => ?_⟩⟩
  · have hvalues : Json.member? "values" ms = Json.member? "values" ms' := by
      rw [← Json.member?_known List.mem_cons_self ms, hsame, Json.member?_known List.mem_cons_self]
    rw [Tally.ofJson, Tally.ofJson, hvalues]
  · have hmember {key : String} (hkey : key ∈ ["enabled", "output_path"]) :
        Json.member? key ms = Json.member? key ms' := by
      rw [← Json.member?_known hkey ms, hsame, Json.member?_known hkey]
    rw [Settings.ofJson, Settings.ofJson, hmember List.mem_cons_self,
      hmember (List.mem_cons_of_mem _ List.mem_cons_self)]

/-- With a member of another name before it and one behind it, a switch is read as without them. -/
theorem json_shapes_members :
    Settings.ofJson (.object [("a".toList, .null), ("enabled".toList, .boolean true),
        ("z".toList, .array [])]) =
      Settings.ofJson (.object [("enabled".toList, .boolean true)]) ∧
    Tally.ofJson (.object [("a".toList, .null)]) = Tally.ofJson (.object []) := by
  obtain ⟨-, -, -, hmembers⟩ := json_shapes .null
  exact ⟨(hmembers _ _).2 rfl, (hmembers _ _).1 rfl⟩

end RayTally
