import SwiftClient.Naming.Basic
import SwiftClient.Document.Basic

/-!
# Unique names

A suggested name is taken as it is when it is free, and otherwise with the smallest number after it
that makes it free. A name is free when neither it nor its identifier is in the scope, and taking
it puts both there.
-/
namespace SwiftClient.Naming

/-- The name suggested for a schema of this purpose. Enums keep their name. -/
def suggestedSchemaName (name : String) (classification : Classification) (purpose : Purpose) :
    String :=
  if classification = .enum then name
  else
    match purpose with
    | .interface => name ++ "_protocol"
    | .abstractImplementation => "abstract_" ++ name
    | .implementation => name ++ "_impl"
    | .model => name
    | .unknown => name

/-- The names in use, each once. -/
abbrev Scope := List String

namespace Scope

def ofList (names : List String) : Scope := names.foldl (fun scope n => scope.insert n) []

def isFree (scope : Scope) (name : String) : Bool :=
  !scope.contains name && !scope.contains (identifier name)

def take (scope : Scope) (name : String) : Scope := (scope.insert (identifier name)).insert name

/-- The name with a number after it, or as it is for zero. -/
def numbered (base : String) : Nat → String
  | 0 => base
  | n + 1 => base ++ toString (n + 1)

/-- Each name in the scope excludes at most one number by itself and one by its identifier. -/
def freeNumber (scope : Scope) (base : String) : Nat :=
  ((List.range (2 * scope.length + 1)).find? fun n => scope.isFree (numbered base n)).getD 0

end Scope

def uniqueName (suggested : String) (classification : Classification) (purpose : Purpose)
    (scope : Scope) : String × Scope :=
  let base := className (suggestedSchemaName suggested classification purpose)
  let name := Scope.numbered base (scope.freeNumber base)
  (name, scope.take name)

end SwiftClient.Naming
