import SwiftClient.Document.Writing
import SwiftClient.Resolution.Resolved

/-!
# Writing resolved documents

The form in which templates see a resolved document. Types are written as their expressions, and
what is absent is null.
-/
namespace SwiftClient
open Json (ofFields ofList ofOption ofStrings)

def SwiftType.toJson (t : SwiftType) : Json := .string t.expression

def SwiftUsage.toJson (u : SwiftUsage) : Json := .string u.expression

namespace Resolved

def descriptionJson (description : Option String) : Json := ofOption .string description

def Property.toJson (p : Property) : Json :=
  ofFields
    [("name", .string p.name), ("identifier", .string p.identifier),
      ("serializedName", .string p.serializedName), ("description", descriptionJson p.description),
      ("required", .bool p.required), ("nullable", .bool p.nullable),
      ("schemaType", p.classification.toJson), ("nativeType", p.type.toJson),
      ("usageType", p.usage.toJson), ("defaultValue", ofOption Literal.Default.toJson p.default),
      ("initialValue", ofOption Literal.Default.toJson p.initial)]

def Mapping.toJson (m : Mapping) : Json :=
  ofFields
    [("value", .string m.value), ("nativeType", m.type.toJson),
      ("memberName", .string m.memberName)]

def Discriminator.toJson (d : Discriminator) : Json :=
  ofFields
    [("name", .string d.name), ("identifier", .string d.identifier),
      ("serializedName", .string d.serializedName), ("mappings", ofList Mapping.toJson d.mappings)]

def EnumMember.toJson (m : EnumMember) : Json :=
  ofFields [("name", .string m.name), ("value", m.value), ("literalValue", .string m.literal)]

def Member.toJson (m : Member) : Json :=
  ofFields
    [("name", .string m.name), ("identifier", .string m.identifier),
      ("schemaType", m.classification.toJson), ("nativeType", m.type.toJson)]

namespace SchemaKind

def tag : SchemaKind → String
  | object _ _ _ _ => "object"
  | enum _ _ => "enum"
  | interface _ _ _ => "interface"
  | hierarchy _ _ _ => "hierarchy"
  | wrapper _ => "wrapper"
  | oneOf _ _ => "oneOf"

def fields : SchemaKind → List (String × Json)
  | object ps parent implements discriminator =>
    [("properties", ofList Property.toJson ps), ("parent", ofOption SwiftType.toJson parent),
      ("implements", ofList SwiftType.toJson implements),
      ("discriminator", ofOption Discriminator.toJson discriminator)]
  | enum valueType members =>
    [("valueNativeType", valueType.toJson), ("members", ofList EnumMember.toJson members)]
  | interface ps parents implementation =>
    [("properties", ofList Property.toJson ps), ("parents", ofList SwiftType.toJson parents),
      ("implementation", ofOption SwiftType.toJson implementation)]
  | hierarchy ps discriminator members =>
    [("properties", ofList Property.toJson ps), ("discriminator", discriminator.toJson),
      ("members", ofList SwiftType.toJson members)]
  | wrapper property => [("property", property.toJson)]
  | oneOf members discriminator =>
    [("members", ofList Member.toJson members),
      ("discriminator", ofOption Discriminator.toJson discriminator)]

end SchemaKind

namespace Schema

mutual

def toJson : Schema → Json
  | ⟨name, className, scopedName, description, purpose, nullable, classification, type, kind,
      nested⟩ =>
    ofFields
      ([("name", .string name), ("className", .string className),
        ("scopedName", scopedName.toJson), ("description", descriptionJson description),
        ("purpose", purpose.toJson), ("nullable", .bool nullable),
        ("schemaType", classification.toJson), ("nativeType", type.toJson),
        ("kind", .string kind.tag), ("nested", .array (listJson nested))] ++ kind.fields)

def listJson : List Schema → List Json
  | [] => []
  | s :: rest => toJson s :: listJson rest

end

end Schema

def Parameter.toJson (p : Parameter) : Json :=
  ofFields
    [("name", .string p.name), ("identifier", .string p.identifier),
      ("location", .string p.place.name), ("required", .bool p.required),
      ("nullable", .bool p.nullable), ("description", descriptionJson p.description),
      ("schemaType", p.classification.toJson), ("nativeType", p.type.toJson),
      ("usageType", p.usage.toJson), ("defaultValue", ofOption Literal.Default.toJson p.default),
      ("initialValue", ofOption Literal.Default.toJson p.initial)]

def RequestBody.toJson (b : RequestBody) : Json :=
  ofFields
    [("required", .bool b.required), ("mediaType", .string b.mediaType),
      ("nativeType", b.type.toJson), ("usageType", b.usage.toJson)]

def Response.toJson (r : Response) : Json :=
  ofFields
    [("code", ofOption Json.ofNat r.code), ("isSuccess", .bool r.isSuccess),
      ("description", .string r.description), ("mediaType", ofOption .string r.mediaType),
      ("nativeType", ofOption SwiftType.toJson r.type)]

def Operation.toJson (o : Operation) : Json :=
  ofFields
    [("name", .string o.name), ("methodName", .string o.methodName),
      ("httpMethod", .string o.method.name), ("fullPath", .string o.fullPath),
      ("path", .string o.path), ("summary", ofOption .string o.summary),
      ("description", descriptionJson o.description), ("deprecated", .bool o.deprecated),
      ("parameters", ofList Parameter.toJson o.parameters),
      ("requestBody", ofOption RequestBody.toJson o.requestBody),
      ("responses", ofList Response.toJson o.responses),
      ("returnType", ofOption SwiftType.toJson o.returnType),
      ("securityRequirements", ofList SecurityRequirement.toJson o.securityRequirements)]

def Group.toJson (g : Group) : Json :=
  ofFields
    [("name", .string g.name), ("className", .string g.className), ("path", .string g.path),
      ("description", descriptionJson g.description),
      ("operations", ofList Operation.toJson g.operations)]

end Resolved

def ResolvedDocument.toJson (d : ResolvedDocument) : Json :=
  ofFields
    [("info", d.info.toJson), ("servers", ofList Server.toJson d.servers),
      ("groups", ofList Resolved.Group.toJson d.groups),
      ("schemas", .array (Resolved.Schema.listJson d.schemas)),
      ("securitySchemes", ofList SecurityScheme.toJson d.securitySchemes),
      ("options", d.options.toJson)]

end SwiftClient
