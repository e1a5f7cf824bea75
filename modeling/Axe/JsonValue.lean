import Mathlib.Tactic.Common

namespace Axe

/-!
# JSON values

A JSON value over some kind of numbers.  An object is a finite map; its fields
are listed in the order of their keys, so that equal objects are equal values
whatever the order in which they were written.
-/

/-- A JSON value over some type of numbers. -/
inductive Json (Number : Type) where
  | null
  | bool (value : Bool)
  | number (value : Number)
  | text (value : String)
  | array (items : List (Json Number))
  | object (fields : List (String × Json Number))

namespace Json

section Equality

variable {Number : Type} [DecidableEq Number]

mutual

/-- Whether two values are equal. -/
def same : Json Number → Json Number → Bool
  | .null, .null => true
  | .bool first, .bool second => first = second
  | .number first, .number second => first = second
  | .text first, .text second => first = second
  | .array first, .array second => sameItems first second
  | .object first, .object second => sameFields first second
  | _, _ => false

def sameItems : List (Json Number) → List (Json Number) → Bool
  | [], [] => true
  | first :: rest, second :: more => same first second && sameItems rest more
  | _, _ => false

def sameFields : List (String × Json Number) → List (String × Json Number) → Bool
  | [], [] => true
  | (key, first) :: rest, (name, second) :: more =>
    key = name && same first second && sameFields rest more
  | _, _ => false

end

mutual

theorem same_iff (first second : Json Number) : same first second = true ↔ first = second := by
  cases first with
  | null => cases second <;> simp [same]
  | bool value => cases second <;> simp [same]
  | number value => cases second <;> simp [same]
  | text value => cases second <;> simp [same]
  | array items =>
    cases second with
    | array others => simp [same, sameItems_iff items others]
    | _ => simp [same]
  | object fields =>
    cases second with
    | object others => simp [same, sameFields_iff fields others]
    | _ => simp [same]

theorem sameItems_iff (first second : List (Json Number)) :
    sameItems first second = true ↔ first = second := by
  match first, second with
  | [], [] => simp [sameItems]
  | [], _ :: _ => simp [sameItems]
  | _ :: _, [] => simp [sameItems]
  | first :: rest, second :: more =>
    simp [sameItems, same_iff first second, sameItems_iff rest more]

theorem sameFields_iff (first second : List (String × Json Number)) :
    sameFields first second = true ↔ first = second := by
  match first, second with
  | [], [] => simp [sameFields]
  | [], _ :: _ => simp [sameFields]
  | _ :: _, [] => simp [sameFields]
  | (key, first) :: rest, (name, second) :: more =>
    simp [sameFields, same_iff first second, sameFields_iff rest more, and_assoc]

end

instance decidableEqJson : DecidableEq (Json Number) := fun first second =>
  decidable_of_iff _ (same_iff first second)

end Equality

variable {Number : Type}

/-- A field of an object, or null. -/
def field (json : Json Number) (name : String) : Json Number :=
  match json with
  | .object fields => (fields.lookup name).getD .null
  | _ => .null

def asArray : Json Number → Option (List (Json Number))
  | .array items => some items
  | _ => none

def asStr : Json Number → Option String
  | .text value => some value
  | _ => none

def asBool : Json Number → Option Bool
  | .bool value => some value
  | _ => none

@[simp] theorem asArray_eq_some {json : Json Number} {items : List (Json Number)} :
    json.asArray = some items ↔ json = .array items := by
  cases json <;> simp [asArray]

end Json

end Axe
