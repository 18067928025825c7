/-
# VpsDashboard.Foundation.JsObject — objects of JavaScript as lists of members

An object is the list of the members written to it, the latest last, so a spread
`{ ...a, ...b }` is `a ++ b` and reading a property takes the last member of its name:

* `get_append` — a later object hides the properties it has and no other;
* `Has.append` — spreading never loses a property.

A `JsMap` keeps its entries in the order in which their keys were first set, and reads the
value that was set last (`get_set`).

A property whose value is `undefined` is one the object does not have: both read as
`undefined`, and `JSON.stringify` leaves both out.
-/
import VpsDashboard.Foundation.Go

namespace VpsDashboard.Foundation

set_option autoImplicit false

/-- The own enumerable properties of an object. -/
abbrev JsObject := List (String × Json)

namespace JsObject

/-- `o[key]`, or `none` for `undefined`. -/
def get (o : JsObject) (key : String) : Option Json := List.lookup key o.reverse

/-- `o[key] = value`, also for an `undefined` value. -/
def set (o : JsObject) (key : String) : Option Json → JsObject
  | some value => o ++ [(key, value)]
  | none => o.filter fun member => member.1 != key

/-- Whether the object has every property of `other`. -/
def Has (o other : JsObject) : Prop := ∀ key, (other.get key).isSome → (o.get key).isSome

theorem get_append (a b : JsObject) (key : String) :
    (a ++ b).get key = (b.get key).or (a.get key) := by
  rw [get, List.reverse_append, List.lookup_append]
  rfl

theorem get_append_of_some {b : JsObject} {key : String} {value : Json}
    (own : b.get key = some value) (a : JsObject) : (a ++ b).get key = some value := by
  rw [get_append, own]
  rfl

theorem get_append_of_none {b : JsObject} {key : String} (missing : b.get key = none)
    (a : JsObject) : (a ++ b).get key = a.get key := by
  rw [get_append, missing]
  rfl

theorem get_single (key : String) (value : Json) (name : String) :
    get [(key, value)] name = if name = key then some value else none := by
  by_cases same : name = key
  · simp [get, same]
  · have other : (name == key) = false := by simpa using same
    simp [get, List.lookup_cons, same, other]

theorem has_refl (o : JsObject) : o.Has o := fun _ own => own

/-- What is spread on top never takes a property away. -/
theorem Has.append {o other : JsObject} (has : o.Has other) (top : JsObject) :
    JsObject.Has (o ++ top) other := by
  intro key own
  rw [get_append, Option.isSome_or, has key own, Bool.or_true]

/-- Spread on top of an object it has everything of, an object is unchanged. -/
theorem Has.get_append {o other : JsObject} (has : o.Has other) (key : String) :
    (other ++ o).get key = o.get key := by
  rw [JsObject.get_append]
  cases own : o.get key with
  | some value => rfl
  | none =>
      have missing : other.get key = none := by
        by_contra present
        have found := has key (Option.isSome_iff_ne_none.mpr present)
        rw [own] at found
        cases found
      rw [missing]
      rfl

end JsObject

namespace Json

/-- `json[key]` for a name that neither arrays nor strings have; reading a property of
`null` throws. -/
def property (json : Json) (key : String) : Option Json :=
  match json with
  | .obj members => JsObject.get members key
  | _ => none

/-- The own properties that `{ ...json }` copies; characters stand for UTF-16 units. -/
def ownProperties : Json → JsObject
  | .obj members => members
  | .arr items => items.zipIdx.map fun (item, i) => (toString i, item)
  | .str s => s.toList.zipIdx.map fun (c, i) => (toString i, .str c.toString)
  | _ => []

/-- `left ?? right`. -/
def nullish (left : Option Json) (right : Json) : Json :=
  match left with
  | none => right
  | some .null => right
  | some value => value

/-- Whether a value counts as true. -/
def truthy : Json → Bool
  | .null => false
  | .bool b => b
  | .int n => n != 0
  | .decimal literal =>
      (literal.toList.takeWhile fun c => c != 'e' && c != 'E').any fun c => '1' ≤ c && c ≤ '9'
  | .str s => s != ""
  | .arr _ | .obj _ => true

/-- `json.slice(0, n)`, which only texts and arrays have; characters stand for UTF-16 units. -/
def slice (n : Nat) : Json → Option Json
  | .str s => some (.str (String.ofList (s.toList.take n)))
  | .arr items => some (.arr (items.take n))
  | _ => none

/-- `json === text`. -/
def isText (text : String) : Json → Bool
  | .str s => s == text
  | _ => false

end Json

/-! ## Maps -/

/-- A `Map`, its entries in the order in which their keys were first set. -/
abbrev JsMap (κ ω : Type) := List (κ × ω)

namespace JsMap

variable {κ ω : Type} [DecidableEq κ]

def has (map : JsMap κ ω) (key : κ) : Bool := map.any fun entry => entry.1 == key

def get (map : JsMap κ ω) (key : κ) : Option ω := map.lookup key

/-- A new key comes last, one that is set again keeps its place. -/
def set : JsMap κ ω → κ → ω → JsMap κ ω
  | [], key, value => [(key, value)]
  | entry :: rest, key, value =>
      if entry.1 = key then (key, value) :: rest else entry :: set rest key value

theorem has_eq_true_iff {map : JsMap κ ω} {key : κ} :
    map.has key = true ↔ key ∈ map.map Prod.fst := by
  simp [has]

@[simp] theorem get_nil (key : κ) : get ([] : JsMap κ ω) key = none := rfl

@[simp] theorem get_cons (entry : κ × ω) (map : JsMap κ ω) (key : κ) :
    get (entry :: map) key = if key = entry.1 then some entry.2 else get map key := by
  obtain ⟨name, value⟩ := entry
  by_cases same : key = name
  · simp [get, same]
  · have other : (key == name) = false := by simpa using same
    simp [get, List.lookup_cons, same, other]

/-- The value that was set last is read. -/
theorem get_set (map : JsMap κ ω) (key key' : κ) (value : ω) :
    (map.set key value).get key' = if key' = key then some value else map.get key' := by
  induction map with
  | nil => simp [set]
  | cons entry map ih =>
      rw [set]
      by_cases here : entry.1 = key
      · by_cases same : key' = key <;> simp [here, same]
      · by_cases same : key' = entry.1 <;> simp [here, same, ih]

theorem set_fresh {map : JsMap κ ω} {key : κ} (fresh : key ∉ map.map Prod.fst) (value : ω) :
    map.set key value = map ++ [(key, value)] := by
  induction map with
  | nil => rfl
  | cons entry map ih =>
      rw [List.map_cons, List.mem_cons, not_or] at fresh
      rw [set, if_neg (Ne.symm fresh.1), ih fresh.2]
      rfl

end JsMap

end VpsDashboard.Foundation
