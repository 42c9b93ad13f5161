import SwiftClient.Document.Lookup
import SwiftClient.Resolution.Resolved

/-!
# Resolved properties

Properties and parameters get their types and starting values. A property that overrides an
inherited one must keep its type, its nullability and whether it is required.
-/
namespace SwiftClient

/-- What resolution looks things up in. -/
structure Resolution where
  document : Document
  package : Option String
  enumStyle : Naming.EnumStyle

namespace Resolution

/-- The starting values of a usage: the default that the document gives, and the initial value. -/
def startingValues (r : Resolution) (ctx : LiteralContext) (default : Option Json) :
    Traced (Option Literal.Default × Option Literal.Default) := do
  let given ← Literal.given r.enumStyle ctx default
  let initial ← Literal.initial r.enumStyle ctx given
  return (given, initial)

def property (r : Resolution) (context : String) (p : Property) : Traced Resolved.Property := do
  let ctx ← p.type.literalContext r.package (context ++ "." ++ p.name) p.required
  let (default, initial) ← r.startingValues ctx p.default
  return {
    name := p.name
    identifier := Naming.identifier p.name
    serializedName := p.wireName
    description := p.description
    required := p.required
    nullable := p.type.nullable
    classification := p.type.classification
    type := ctx.type
    default, initial }

def parameter (r : Resolution) (context : String) (p : Parameter) : Traced Resolved.Parameter := do
  let ctx ← p.type.literalContext r.package (context ++ "." ++ p.name) p.required
  let (default, initial) ← r.startingValues ctx p.default
  return {
    name := p.name
    identifier := Naming.identifier p.name
    place := p.place
    required := p.required
    nullable := p.type.nullable
    description := p.description
    classification := p.type.classification
    type := ctx.type
    default, initial }

end Resolution

namespace Resolved.Property

/-- How `child` differs from the property that it overrides, if it does. -/
def incompatibility? (parent child : Property) : Option Incompatibility :=
  if parent.type.expression ≠ child.type.expression then
    some (.type child.type.expression parent.type.expression)
  else if parent.nullable ≠ child.nullable then some (.nullable child.nullable parent.nullable)
  else if parent.required ≠ child.required then some (.required child.required parent.required)
  else none

def compatible (parent child : Property) : Bool := (incompatibility? parent child).isNone

end Resolved.Property

namespace Resolution

def checkOverride (r : Resolution) (child parent : Schema) (properties : List Resolved.Property)
    (inherited : Property) : Traced Unit := do
  match properties.find? (·.name == inherited.name) with
  | none => return
  | some p =>
    let inherited ← r.property parent.scopedName.dotted inherited
    match inherited.incompatibility? p with
    | none => return
    | some reason =>
      Traced.fail (.incompatibleProperty child.scopedName.dotted parent.scopedName.dotted p.name
        reason)

/-- Compares the properties of a schema with those that `parent` declares. -/
def checkOverrides (r : Resolution) (child : Schema) (properties : List Resolved.Property)
    (parent : ScopedName) : Traced Unit := do
  match r.document.find? parent with
  | none => Traced.fail (.unknownSchema parent.dotted)
  | some p => p.properties.forM (r.checkOverride child p properties)

end Resolution

end SwiftClient
