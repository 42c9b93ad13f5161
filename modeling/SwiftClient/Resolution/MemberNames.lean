import SwiftClient.Document.Lookup
import SwiftClient.Naming.Unique
import SwiftClient.Resolution.SwiftTyping

/-!
# Names of oneOf members

Members without a name are named after their type. The names of nested types and of the other
members are taken, and identifiers with them, so that no two cases of an enum agree.
-/
namespace SwiftClient

/-- Names the members in order, each in the scope that those before it leave. -/
def nameMembers (package : Option String) (context : String) :
    Naming.Scope → List Member → Except Failure (List Member)
  | _, [] => .ok []
  | scope, ⟨some name, type⟩ :: rest => do
    return ⟨some name, type⟩ :: (← nameMembers package context scope rest)
  | scope, ⟨none, type⟩ :: rest => do
    let swiftType ← type.swiftType package context
    let (name, scope) :=
      Naming.uniqueName swiftType.suggestedName type.classification type.purpose scope
    return ⟨some name, type⟩ :: (← nameMembers package context scope rest)

/-- The names that members without one may not get. -/
def takenNames (nested : List Schema) (members : List Member) : Naming.Scope :=
  Naming.Scope.ofList (nested.map (Naming.className ·.name)
    ++ (members.filterMap (·.name)).flatMap fun n => [Naming.identifier n, n])

namespace SchemaKind

def nameMembers (package : Option String) (context : String) (nested : List Schema) :
    SchemaKind → Except Failure SchemaKind
  | oneOf o => do
    let members ←
      SwiftClient.nameMembers package context (takenNames nested o.members) o.members
    return oneOf { o with members }
  | other => .ok other

end SchemaKind

namespace Schema

mutual

/-- Names the members of a schema once those of the schemas nested in it are named. -/
def nameMembers (package : Option String) : Schema → Except Failure Schema
  | ⟨name, scopedName, description, purpose, nullable, kind, nested⟩ => do
    let nested ← nameAllMembers package nested
    let kind ← kind.nameMembers package scopedName.dotted nested
    return ⟨name, scopedName, description, purpose, nullable, kind, nested⟩

def nameAllMembers (package : Option String) : List Schema → Except Failure (List Schema)
  | [] => .ok []
  | s :: rest => do return (← nameMembers package s) :: (← nameAllMembers package rest)

end

end Schema

def Document.nameMembers (d : Document) (package : Option String) : Except Failure Document := do
  return { d with schemas := ← Schema.nameAllMembers package d.schemas }

end SwiftClient
