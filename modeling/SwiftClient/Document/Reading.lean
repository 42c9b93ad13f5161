import SwiftClient.Document.Wire
import SwiftClient.Json.Reader
import SwiftClient.Text.Blank

/-!
# Reading documents

A document is read from JSON text. Fields may come in any order, those that are not known are
passed over, and optional ones may be left out. What belongs to the kind of a schema or a security
scheme stands among its other fields, and a tag tells which kind it is.
-/
namespace SwiftClient
open Json (Reader Record Portion)
open Json.Reader (text flag status list any choice)

namespace Classification

def read : Reader Classification := fun m room d => do
  let name ← text m room d
  match ofName? name with
  | some c => .ok c
  | none => .error (.mismatch (.unknownClassification name))

end Classification

def Purpose.read : Reader Purpose := choice Purpose.byName

def ScopedName.read : Reader ScopedName := list text

namespace TypeUsage

def readWith (inner : Reader TypeUsage) : Reader TypeUsage :=
  Json.Reader.record "TypeSpec"
    ["schemaType", "format", "nullable", "scopedName", "component", "key", "purpose"] fun r =>
    TypeUsage.mk <$> r.required "schemaType" Classification.read <*> r.optional "format" text
      <*> r.withDefault "nullable" flag false <*> r.optional "scopedName" ScopedName.read
      <*> r.optional "component" inner <*> r.optional "key" inner
      <*> r.withDefault "purpose" Purpose.read .unknown

def read : Reader TypeUsage
  | m, 0, d => readWith (fun _ _ _ => .error .syntaxError) m 0 d
  | m, room + 1, d => readWith (fun _ _ => read m room) m (room + 1) d

end TypeUsage

def Property.read : Reader Property :=
  Json.Reader.record "Property"
    ["name", "serializedName", "description", "required", "type", "default"] fun r =>
    Property.mk <$> r.required "name" text <*> r.optional "serializedName" text
      <*> r.optional "description" text <*> r.withDefault "required" flag false
      <*> r.required "type" TypeUsage.read <*> r.present "default" any

def Mapping.read : Reader Mapping :=
  Json.Reader.record "DiscriminatorMapping" ["value", "scopedName"] fun r =>
    Mapping.mk <$> r.required "value" text <*> r.required "scopedName" ScopedName.read

def Discriminator.read : Reader Discriminator :=
  Json.Reader.record "Discriminator" ["name", "serializedName", "mappings"] fun r =>
    Discriminator.mk <$> r.required "name" text <*> r.optional "serializedName" text
      <*> r.withDefault "mappings" (list Mapping.read) []

def Member.read : Reader Member :=
  Json.Reader.record "OneOfMember" ["name", "type"] fun r =>
    Member.mk <$> r.optional "name" text <*> r.required "type" TypeUsage.read

namespace SchemaKind

def namesOf : KindTag → List String
  | .object => ["properties", "parent", "implements", "discriminator"]
  | .enum => ["valueType", "values"]
  | .interface => ["properties", "parents", "implementation"]
  | .hierarchy => ["properties", "discriminator", "members"]
  | .wrapper => ["property"]
  | .oneOf => ["members", "discriminator"]

def readProperties (r : Record) : Portion (List Property) :=
  r.withDefault "properties" (list Property.read) []

def readNames (r : Record) (name : String) : Portion (List ScopedName) :=
  r.withDefault name (list ScopedName.read) []

def readBody (r : Record) : KindTag → Portion SchemaKind
  | .object =>
    (fun ps p is d => .object ⟨ps, p, is, d⟩) <$> readProperties r
      <*> r.optional "parent" ScopedName.read <*> readNames r "implements"
      <*> r.optional "discriminator" Discriminator.read
  | .enum =>
    (fun t vs => .enum ⟨t, vs⟩) <$> r.required "valueType" TypeUsage.read
      <*> r.required "values" (list any)
  | .interface =>
    (fun ps qs i => .interface ⟨ps, qs, i⟩) <$> readProperties r <*> readNames r "parents"
      <*> r.optional "implementation" ScopedName.read
  | .hierarchy =>
    (fun ps d ms => .hierarchy ⟨ps, d, ms⟩) <$> readProperties r
      <*> r.required "discriminator" Discriminator.read <*> readNames r "members"
  | .wrapper => (fun p => .wrapper ⟨p⟩) <$> r.required "property" Property.read
  | .oneOf =>
    (fun ms d => .oneOf ⟨ms, d⟩) <$> r.required "members" (list Member.read)
      <*> r.optional "discriminator" Discriminator.read

/-- Reads the kind from the fields that a schema has set aside. -/
def read (r : Record) : Portion SchemaKind :=
  r.afterwards do
    let (tag, fields) ← Json.Reader.tagged "kind" KindTag.byName .aside r.others
    Json.Reader.variantRecord r.room fields (namesOf tag) (readBody · tag)

def titleOf : KindTag → String
  | .object => "ObjectSchema"
  | .enum => "EnumSchema"
  | .interface => "InterfaceSchema"
  | .hierarchy => "HierarchySchema"
  | .wrapper => "WrapperSchema"
  | .oneOf => "OneOfSchema"

/-- Reads a kind that stands alone in memory: an object with nothing but its tag and its own
fields, or an array that begins with the tag. -/
def readAlone : Reader SchemaKind
  | _, room + 1, .object fields _ => do
    let (tag, fields) ← Json.Reader.tagged "kind" KindTag.byName .memory fields
    Json.Reader.variantRecord room fields (namesOf tag) (readBody · tag)
  | _, _, .array [] _ => .error (.mismatch (.missingField "kind"))
  | _, room + 1, .array (first :: rest) _ => do
    let tag ← Json.Reader.variantOfTag KindTag.byName .memory first
    Json.Reader.variantArray room rest (titleOf tag) (namesOf tag) (readBody · tag)
  | _, _, d => .error (d.unlike "internally tagged enum SchemaKind")

end SchemaKind

namespace Schema

def readWith (inner : Reader Schema) : Reader Schema :=
  Json.Reader.openRecord "Schema"
    ["name", "scopedName", "description", "purpose", "nullable", "nested"] fun r =>
    (fun name scopedName description purpose nullable nested kind =>
        ⟨name, scopedName, description, purpose, nullable, kind, nested⟩)
      <$> r.required "name" text <*> r.required "scopedName" ScopedName.read
      <*> r.optional "description" text <*> r.withDefault "purpose" Purpose.read .unknown
      <*> r.withDefault "nullable" flag false <*> r.withDefault "nested" (list inner) []
      <*> SchemaKind.read r

/-- Nested schemas stand in a list, so each level opens two containers. -/
def read : Reader Schema
  | m, room + 2, d => readWith (fun _ _ => read m room) m (room + 2) d
  | m, room, d => readWith (fun _ _ _ => .error .syntaxError) m room d

end Schema

def Parameter.read : Reader Parameter :=
  Json.Reader.record "Parameter"
    ["name", "in", "required", "description", "type", "default"] fun r =>
    Parameter.mk <$> r.required "name" text <*> r.required "in" (choice ParameterPlace.byName)
      <*> r.withDefault "required" flag false <*> r.optional "description" text
      <*> r.required "type" TypeUsage.read <*> r.present "default" any

def RequestBody.read : Reader RequestBody :=
  Json.Reader.record "RequestBody" ["required", "mediaType", "type"] fun r =>
    RequestBody.mk <$> r.withDefault "required" flag false <*> r.required "mediaType" text
      <*> r.required "type" TypeUsage.read

def Response.read : Reader Response :=
  Json.Reader.record "Response" ["code", "description", "mediaType", "type"] fun r =>
    Response.mk <$> r.optional "code" status <*> r.withDefault "description" text ""
      <*> r.optional "mediaType" text <*> r.optional "type" TypeUsage.read

def SecurityRequirement.read : Reader SecurityRequirement :=
  Json.Reader.record "SecurityRequirement" ["scheme", "scopes"] fun r =>
    SecurityRequirement.mk <$> r.required "scheme" text <*> r.withDefault "scopes" (list text) []

def Operation.read : Reader Operation :=
  Json.Reader.record "Operation"
    ["name", "method", "path", "summary", "description", "deprecated", "parameters",
      "requestBody", "responses", "securityRequirements"] fun r =>
    Operation.mk <$> r.required "name" text <*> r.required "method" (choice Method.byName)
      <*> r.required "path" text <*> r.optional "summary" text <*> r.optional "description" text
      <*> r.withDefault "deprecated" flag false
      <*> r.withDefault "parameters" (list Parameter.read) []
      <*> r.optional "requestBody" RequestBody.read
      <*> r.withDefault "responses" (list Response.read) []
      <*> r.withDefault "securityRequirements" (list SecurityRequirement.read) []

def OperationGroup.read : Reader OperationGroup :=
  Json.Reader.record "OperationGroup" ["name", "path", "description", "operations"] fun r =>
    OperationGroup.mk <$> r.required "name" text <*> r.withDefault "path" text ""
      <*> r.optional "description" text <*> r.withDefault "operations" (list Operation.read) []

def OAuthFlow.read : Reader OAuthFlow :=
  Json.Reader.record "OAuthFlow"
    ["type", "authorizationUrl", "tokenUrl", "refreshUrl", "scopes"] fun r =>
    OAuthFlow.mk <$> r.required "type" (choice FlowKind.byName)
      <*> r.optional "authorizationUrl" text <*> r.optional "tokenUrl" text
      <*> r.optional "refreshUrl" text <*> r.withDefault "scopes" (list text) []

namespace SecurityKind

def namesOf : SecurityTag → List String
  | .apiKey => ["paramName", "in"]
  | .http => ["scheme", "bearerFormat"]
  | .oauth2 => ["flows"]
  | .openIdConnect => ["url"]

def readBody (r : Record) : SecurityTag → Portion SecurityKind
  | .apiKey => apiKey <$> r.required "paramName" text <*> r.required "in" (choice KeyPlace.byName)
  | .http => http <$> r.required "scheme" text <*> r.optional "bearerFormat" text
  | .oauth2 => oauth2 <$> r.required "flows" (list OAuthFlow.read)
  | .openIdConnect => openIdConnect <$> r.required "url" text

def read (r : Record) : Portion SecurityKind :=
  r.afterwards do
    let (tag, fields) ← Json.Reader.tagged "type" SecurityTag.byName .aside r.others
    Json.Reader.variantRecord r.room fields (namesOf tag) (readBody · tag)

end SecurityKind

def SecurityScheme.read : Reader SecurityScheme :=
  Json.Reader.openRecord "SecurityScheme" ["name", "description"] fun r =>
    SecurityScheme.mk <$> r.required "name" text <*> r.optional "description" text
      <*> SecurityKind.read r

def Info.read : Reader Info :=
  Json.Reader.record "Info" ["title", "version", "description"] fun r =>
    Info.mk <$> r.required "title" text <*> r.required "version" text
      <*> r.optional "description" text

def Server.read : Reader Server :=
  Json.Reader.record "Server" ["url", "description"] fun r =>
    Server.mk <$> r.required "url" text <*> r.optional "description" text

namespace Document

def read : Reader Document :=
  Json.Reader.record "Document"
    ["info", "servers", "groups", "schemas", "securitySchemes"] fun r =>
    Document.mk <$> r.required "info" Info.read <*> r.withDefault "servers" (list Server.read) []
      <*> r.withDefault "groups" (list OperationGroup.read) []
      <*> r.withDefault "schemas" (list Schema.read) []
      <*> r.withDefault "securitySchemes" (list SecurityScheme.read) []

/-- Why a text gives no document. -/
inductive ReadError where
  | json (fault : Json.Fault)
  | anonymous
  | unavailable
  deriving DecidableEq

/-- A document without title and version says nothing about itself. -/
def isAnonymous (d : Document) : Bool :=
  Text.allBlank d.info.title && Text.allBlank d.info.version

def ofText (text : String) : Except ReadError Document := do
  let d ← (read.ofText text).mapError .json
  if d.isAnonymous then .error .anonymous else .ok d

end Document

end SwiftClient
