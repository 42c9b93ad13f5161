import SwiftClient.Json.Number
import SwiftClient.Sorted

/-!
# JSON values

The fields of an object stand in the order of their keys, each key once. Objects are built by
`ofFields`, which keeps this, and of fields with one key the last counts.
-/
namespace SwiftClient

inductive Json where
  | null
  | bool (value : Bool)
  | number (value : Json.Number)
  | string (value : String)
  | array (items : List Json)
  | object (fields : List (String × Json))
  deriving Repr, Inhabited

namespace Json

def ofFields (fields : List (String × Json)) : Json := .object (Sorted.ofList fields)

/-- An object without the fields that have no value. -/
def ofPresent (fields : List (String × Option Json)) : Json :=
  ofFields (fields.filterMap fun f => f.2.map (f.1, ·))

def ofNat (n : Nat) : Json := .number (.whole n)

def ofOption (encode : α → Json) : Option α → Json
  | none => .null
  | some a => encode a

def ofList (encode : α → Json) (items : List α) : Json := .array (items.map encode)

def ofStrings (items : List String) : Json := ofList .string items

def get? (key : String) : Json → Option Json
  | .object fields => fields.lookup key
  | _ => none

def getPath? : List String → Json → Option Json
  | [], value => some value
  | key :: rest, value => (value.get? key).bind (getPath? rest)

mutual

/-- Brackets around a value that is not a container are none. -/
def depth : Json → Nat
  | .array items => depthOfItems items + 1
  | .object fields => depthOfFields fields + 1
  | _ => 0

def depthOfItems : List Json → Nat
  | [] => 0
  | item :: rest => max (depth item) (depthOfItems rest)

def depthOfFields : List (String × Json) → Nat
  | [] => 0
  | (_, value) :: rest => max (depth value) (depthOfFields rest)

end

mutual

/-- Every object has its keys in strictly ascending order. -/
def Ordered : Json → Prop
  | .array items => OrderedItems items
  | .object fields => (fields.map (·.1)).Pairwise (· < ·) ∧ OrderedFields fields
  | _ => True

def OrderedItems : List Json → Prop
  | [] => True
  | item :: rest => Ordered item ∧ OrderedItems rest

def OrderedFields : List (String × Json) → Prop
  | [] => True
  | (_, value) :: rest => Ordered value ∧ OrderedFields rest

end

end Json

end SwiftClient
