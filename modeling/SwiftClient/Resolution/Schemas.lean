import SwiftClient.Resolution.Properties
import SwiftClient.Strategy

/-!
# Resolved schemas

Schemas are resolved from the top inwards, each before those nested in it. Interfaces may only
stand at the top.
-/
namespace SwiftClient.Resolution

/-- The case that a mapping decodes to: the member of its schema if it has a name, else the last
part of the schema's own name. -/
def mappedName (members : List Member) (m : Mapping) : String :=
  let named := (members.find? fun member => member.type.scopedName == some m.scopedName).bind
    (·.name)
  (named <|> m.scopedName.getLast?).getD m.value

def mapping (r : Resolution) (members : List Member) (m : Mapping) : Resolved.Mapping where
  value := m.value
  type := m.scopedName.swiftType r.package
  memberName := Naming.identifier (mappedName members m)

def discriminator (r : Resolution) (members : List Member) (d : Discriminator) :
    Resolved.Discriminator where
  name := d.name
  identifier := Naming.identifier d.name
  serializedName := d.wireName
  mappings := d.mappings.map (r.mapping members)

def valueText : Json → String
  | .string s => s
  | other => other.text

def enumMember (r : Resolution) (ctx : LiteralContext) (value : Json) :
    Traced Resolved.EnumMember := do
  let literal ← Literal.write r.enumStyle ctx value
  return ⟨Naming.memberName r.enumStyle (valueText value), value, literal⟩

def member (r : Resolution) (context : String) (m : Member) : Except Failure Resolved.Member := do
  let type ← m.type.swiftType r.package context
  let name := m.name.getD type.suggestedName
  return ⟨name, Naming.identifier name, m.type.classification, type⟩

def kind (r : Resolution) (s : Schema) : Traced Resolved.SchemaKind := do
  let context := s.scopedName.dotted
  let swiftType := ScopedName.swiftType r.package
  match s.kind with
  | .object o =>
    let properties ← o.properties.mapM (r.property context)
    (o.parent.toList ++ o.implements).forM (r.checkOverrides s properties)
    return .object properties (o.parent.map swiftType) (o.implements.map swiftType)
      (o.discriminator.map (r.discriminator []))
  | .enum e =>
    let ctx ← e.valueType.literalContext r.package context true
    return .enum ctx.type (← e.values.mapM (r.enumMember ctx))
  | .interface i =>
    let properties ← i.properties.mapM (r.property context)
    i.parents.forM (r.checkOverrides s properties)
    return .interface properties (i.parents.map swiftType) (i.implementation.map swiftType)
  | .hierarchy h =>
    let properties ← h.properties.mapM (r.property context)
    return .hierarchy properties (r.discriminator [] h.discriminator) (h.members.map swiftType)
  | .wrapper w => return .wrapper (← r.property context w.property)
  | .oneOf o =>
    let members ← Traced.ofExcept (o.members.mapM (r.member context))
    return .oneOf members (o.discriminator.map (r.discriminator o.members))

def isInterface : SchemaKind → Bool
  | .interface _ => true
  | _ => false

mutual

def schema (r : Resolution) (inside : Bool) : Schema → Traced Resolved.Schema
  | s@⟨name, scopedName, description, purpose, nullable, kind, nested⟩ => do
    if inside && isInterface kind && !Strategy.swift.nestsInterfaces then
      Traced.fail (.nestedInterface scopedName.dotted)
    let resolvedKind ← r.kind s
    let resolvedNested ← r.schemas true nested
    return {
      name, scopedName, description, purpose, nullable
      className := Naming.className name
      classification := kind.classification
      type := scopedName.swiftType r.package
      kind := resolvedKind
      nested := resolvedNested }

def schemas (r : Resolution) (inside : Bool) : List Schema → Traced (List Resolved.Schema)
  | [] => pure []
  | s :: rest => do return (← r.schema inside s) :: (← r.schemas inside rest)

end

def allSchemas (r : Resolution) : Traced (List Resolved.Schema) :=
  r.schemas false r.document.schemas

end SwiftClient.Resolution
