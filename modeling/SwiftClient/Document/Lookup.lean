import SwiftClient.Document.Basic

/-!
# Finding schemas

A schema is found by the names from the top of the document down to it, where the first schema of
a name counts at each level. All schemas of a forest are listed each before those nested in it.
-/
namespace SwiftClient

namespace Schema

/-- Goes down a path of names; the empty path leads nowhere. -/
def find? : List Schema → ScopedName → Option Schema
  | _, [] => none
  | forest, [name] => forest.find? (·.name == name)
  | forest, name :: rest => do find? (← forest.find? (·.name == name)).nested rest

mutual

def flatten : Schema → List Schema
  | s@⟨_, _, _, _, _, _, nested⟩ => s :: flattenAll nested

def flattenAll : List Schema → List Schema
  | [] => []
  | s :: rest => flatten s ++ flattenAll rest

end

mutual

/-- Every schema with the names of the schemas around it and its own. -/
def located (around : ScopedName) : Schema → List (ScopedName × Schema)
  | s@⟨name, _, _, _, _, _, nested⟩ =>
    (around ++ [name], s) :: locatedAll (around ++ [name]) nested

def locatedAll (around : ScopedName) : List Schema → List (ScopedName × Schema)
  | [] => []
  | s :: rest => located around s ++ locatedAll around rest

end

end Schema

namespace Document

def find? (d : Document) (name : ScopedName) : Option Schema := Schema.find? d.schemas name

def has (d : Document) (name : ScopedName) : Bool := (d.find? name).isSome

def allSchemas (d : Document) : List Schema := Schema.flattenAll d.schemas

end Document

end SwiftClient
