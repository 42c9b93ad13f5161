import SwiftClient.Document.Wire

/-!
# Writing documents

A document is written with every field that has a value, defaults included, and without those that
have none.
-/
namespace SwiftClient
open Json (ofPresent ofList ofStrings)

def ScopedName.toJson (name : ScopedName) : Json := ofStrings name

def Purpose.toJson (p : Purpose) : Json := .string p.name

def Classification.toJson (c : Classification) : Json := .string c.name

namespace TypeUsage

/-- The usage with those inside it already written. -/
def fields (t : TypeUsage) (component key : Option Json) : Json :=
  ofPresent
    [("schemaType", t.classification.toJson), ("format", t.format.map .string),
      ("nullable", some (.bool t.nullable)), ("scopedName", t.scopedName.map ScopedName.toJson),
      ("component", component), ("key", key), ("purpose", t.purpose.toJson)]

def toJson : TypeUsage → Json
  | t@⟨_, _, _, _, none, none, _⟩ => t.fields none none
  | t@⟨_, _, _, _, some c, none, _⟩ => t.fields c.toJson none
  | t@⟨_, _, _, _, none, some k, _⟩ => t.fields none k.toJson
  | t@⟨_, _, _, _, some c, some k, _⟩ => t.fields c.toJson k.toJson

end TypeUsage

def Property.toJson (p : Property) : Json :=
  ofPresent
    [("name", some (.string p.name)), ("serializedName", p.serializedName.map .string),
      ("description", p.description.map .string), ("required", some (.bool p.required)),
      ("type", p.type.toJson), ("default", p.default)]

def Mapping.toJson (m : Mapping) : Json :=
  ofPresent [("value", some (.string m.value)), ("scopedName", m.scopedName.toJson)]

def Discriminator.toJson (d : Discriminator) : Json :=
  ofPresent
    [("name", some (.string d.name)), ("serializedName", d.serializedName.map .string),
      ("mappings", ofList Mapping.toJson d.mappings)]

def Member.toJson (m : Member) : Json :=
  ofPresent [("name", m.name.map .string), ("type", m.type.toJson)]

namespace SchemaKind

def namesJson (names : List ScopedName) : Json := ofList ScopedName.toJson names

def propertiesJson (properties : List Property) : Json := ofList Property.toJson properties

def fields (kind : SchemaKind) : List (String × Option Json) :=
  ("kind", some (.string kind.tag.name)) ::
    match kind with
    | object o =>
      [("properties", propertiesJson o.properties), ("parent", o.parent.map ScopedName.toJson),
        ("implements", namesJson o.implements),
        ("discriminator", o.discriminator.map Discriminator.toJson)]
    | enum e => [("valueType", e.valueType.toJson), ("values", some (.array e.values))]
    | interface i =>
      [("properties", propertiesJson i.properties), ("parents", namesJson i.parents),
        ("implementation", i.implementation.map ScopedName.toJson)]
    | hierarchy h =>
      [("properties", propertiesJson h.properties), ("discriminator", h.discriminator.toJson),
        ("members", namesJson h.members)]
    | wrapper w => [("property", w.property.toJson)]
    | oneOf o =>
      [("members", ofList Member.toJson o.members),
        ("discriminator", o.discriminator.map Discriminator.toJson)]

end SchemaKind

namespace Schema

mutual

def toJson : Schema → Json
  | ⟨name, scopedName, description, purpose, nullable, kind, nested⟩ =>
    ofPresent
      ([("name", some (.string name)), ("scopedName", scopedName.toJson),
        ("description", description.map .string), ("purpose", purpose.toJson),
        ("nullable", some (.bool nullable)), ("nested", some (.array (listJson nested)))]
        ++ kind.fields)

def listJson : List Schema → List Json
  | [] => []
  | s :: rest => toJson s :: listJson rest

end

end Schema

def Parameter.toJson (p : Parameter) : Json :=
  ofPresent
    [("name", some (.string p.name)), ("in", some (.string p.place.name)),
      ("required", some (.bool p.required)), ("description", p.description.map .string),
      ("type", p.type.toJson), ("default", p.default)]

def RequestBody.toJson (b : RequestBody) : Json :=
  ofPresent
    [("required", some (.bool b.required)), ("mediaType", some (.string b.mediaType)),
      ("type", b.type.toJson)]

def Response.toJson (r : Response) : Json :=
  ofPresent
    [("code", r.code.map Json.ofNat), ("description", some (.string r.description)),
      ("mediaType", r.mediaType.map .string), ("type", r.type.map TypeUsage.toJson)]

def SecurityRequirement.toJson (r : SecurityRequirement) : Json :=
  ofPresent [("scheme", some (.string r.scheme)), ("scopes", ofStrings r.scopes)]

def Operation.toJson (o : Operation) : Json :=
  ofPresent
    [("name", some (.string o.name)), ("method", some (.string o.method.name)),
      ("path", some (.string o.path)), ("summary", o.summary.map .string),
      ("description", o.description.map .string), ("deprecated", some (.bool o.deprecated)),
      ("parameters", ofList Parameter.toJson o.parameters),
      ("requestBody", o.requestBody.map RequestBody.toJson),
      ("responses", ofList Response.toJson o.responses),
      ("securityRequirements", ofList SecurityRequirement.toJson o.securityRequirements)]

def OperationGroup.toJson (g : OperationGroup) : Json :=
  ofPresent
    [("name", some (.string g.name)), ("path", some (.string g.path)),
      ("description", g.description.map .string),
      ("operations", ofList Operation.toJson g.operations)]

def OAuthFlow.toJson (f : OAuthFlow) : Json :=
  ofPresent
    [("type", some (.string f.kind.name)), ("authorizationUrl", f.authorizationUrl.map .string),
      ("tokenUrl", f.tokenUrl.map .string), ("refreshUrl", f.refreshUrl.map .string),
      ("scopes", ofStrings f.scopes)]

namespace SecurityKind

def fields (kind : SecurityKind) : List (String × Option Json) :=
  ("type", some (.string kind.tag.name)) ::
    match kind with
    | apiKey paramName place =>
      [("paramName", some (.string paramName)), ("in", some (.string place.name))]
    | http scheme bearerFormat =>
      [("scheme", some (.string scheme)), ("bearerFormat", bearerFormat.map .string)]
    | oauth2 flows => [("flows", ofList OAuthFlow.toJson flows)]
    | openIdConnect url => [("url", some (.string url))]

end SecurityKind

def SecurityScheme.toJson (s : SecurityScheme) : Json :=
  ofPresent
    ([("name", some (.string s.name)), ("description", s.description.map .string)] ++ s.kind.fields)

def Info.toJson (i : Info) : Json :=
  ofPresent
    [("title", some (.string i.title)), ("version", some (.string i.version)),
      ("description", i.description.map .string)]

def Server.toJson (s : Server) : Json :=
  ofPresent [("url", some (.string s.url)), ("description", s.description.map .string)]

def Document.toJson (d : Document) : Json :=
  ofPresent
    [("info", d.info.toJson), ("servers", ofList Server.toJson d.servers),
      ("groups", ofList OperationGroup.toJson d.groups),
      ("schemas", some (.array (Schema.listJson d.schemas))),
      ("securitySchemes", ofList SecurityScheme.toJson d.securitySchemes)]

end SwiftClient
