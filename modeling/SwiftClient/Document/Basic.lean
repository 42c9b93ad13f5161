import SwiftClient.Classification
import SwiftClient.Json.Basic

/-!
# API documents

A document describes the schemas of an API, its operations in groups, and its security schemes.
Schemas may be nested in others, and a scoped name gives the names from the outermost schema to the
one that is meant.
-/
namespace SwiftClient

abbrev ScopedName := List String

/-- The names from the outermost inwards, with points between them. -/
def ScopedName.dotted (name : ScopedName) : String := String.intercalate "." name

/-- The part that a schema plays in the composition of another. -/
inductive Purpose where
  | model | interface | abstractImplementation | implementation | unknown
  deriving DecidableEq, Repr

/-- How a type is used. Arrays have a component, maps a key and a component, and named
classifications the scoped name of their schema, though a document may lack any of these. -/
structure TypeUsage where
  classification : Classification
  format : Option String := none
  nullable : Bool := false
  scopedName : Option ScopedName := none
  component : Option TypeUsage := none
  key : Option TypeUsage := none
  purpose : Purpose := .unknown
  deriving Repr

namespace TypeUsage

def scalar (classification : Classification) (format : Option String) : TypeUsage :=
  ⟨classification, format, false, none, none, none, .unknown⟩

def arrayOf (component : TypeUsage) : TypeUsage :=
  ⟨.array, none, false, none, some component, none, .unknown⟩

def mapOf (key component : TypeUsage) : TypeUsage :=
  ⟨.map, none, false, none, some component, some key, .unknown⟩

def named (classification : Classification) (scopedName : ScopedName) : TypeUsage :=
  ⟨classification, none, false, some scopedName, none, none, .unknown⟩

end TypeUsage

/-- A default that is present may be null, which is not the same as having none. -/
structure Property where
  name : String
  serializedName : Option String := none
  description : Option String := none
  required : Bool := false
  type : TypeUsage
  default : Option Json := none
  deriving Repr

def Property.wireName (p : Property) : String := p.serializedName.getD p.name

structure Mapping where
  value : String
  scopedName : ScopedName
  deriving DecidableEq, Repr

/-- The property whose value tells which schema a message follows. -/
structure Discriminator where
  name : String
  serializedName : Option String := none
  mappings : List Mapping := []
  deriving DecidableEq, Repr

def Discriminator.wireName (d : Discriminator) : String := d.serializedName.getD d.name

structure ObjectSchema where
  properties : List Property := []
  parent : Option ScopedName := none
  implements : List ScopedName := []
  discriminator : Option Discriminator := none
  deriving Repr

structure EnumSchema where
  valueType : TypeUsage
  values : List Json
  deriving Repr

structure InterfaceSchema where
  properties : List Property := []
  parents : List ScopedName := []
  implementation : Option ScopedName := none
  deriving Repr

structure HierarchySchema where
  properties : List Property := []
  discriminator : Discriminator
  members : List ScopedName := []
  deriving Repr

structure WrapperSchema where
  property : Property
  deriving Repr

structure Member where
  name : Option String := none
  type : TypeUsage
  deriving Repr

structure OneOfSchema where
  members : List Member
  discriminator : Option Discriminator := none
  deriving Repr

inductive SchemaKind where
  | object (schema : ObjectSchema)
  | enum (schema : EnumSchema)
  | interface (schema : InterfaceSchema)
  | hierarchy (schema : HierarchySchema)
  | wrapper (schema : WrapperSchema)
  | oneOf (schema : OneOfSchema)
  deriving Repr

namespace SchemaKind

def classification : SchemaKind → Classification
  | object _ => .object
  | enum _ => .enum
  | interface _ => .interface
  | hierarchy _ => .hierarchy
  | wrapper _ => .wrapper
  | oneOf _ => .oneOf

def properties : SchemaKind → List Property
  | object o => o.properties
  | interface i => i.properties
  | hierarchy h => h.properties
  | wrapper w => [w.property]
  | enum _ => []
  | oneOf _ => []

end SchemaKind

structure Schema where
  name : String
  scopedName : ScopedName
  description : Option String := none
  purpose : Purpose := .unknown
  nullable : Bool := false
  kind : SchemaKind
  nested : List Schema := []
  deriving Repr

namespace Schema

def top (name : String) (kind : SchemaKind) : Schema :=
  ⟨name, [name], none, .model, false, kind, []⟩

def classification (s : Schema) : Classification := s.kind.classification

def properties (s : Schema) : List Property := s.kind.properties

end Schema

inductive Method where
  | get | put | post | delete | options | head | patch | trace
  deriving DecidableEq, Repr

inductive ParameterPlace where
  | path | query | header | cookie
  deriving DecidableEq, Repr

structure Parameter where
  name : String
  place : ParameterPlace
  required : Bool := false
  description : Option String := none
  type : TypeUsage
  default : Option Json := none
  deriving Repr

structure RequestBody where
  required : Bool := false
  mediaType : String
  type : TypeUsage
  deriving Repr

/-- A response without a code is the default one. -/
structure Response where
  code : Option Nat := none
  description : String := ""
  mediaType : Option String := none
  type : Option TypeUsage := none
  deriving Repr

/-- Codes from 200 to 299 report success. -/
def Response.isSuccess (r : Response) : Bool :=
  r.code.any fun c => 200 ≤ c && c < 300

structure SecurityRequirement where
  scheme : String
  scopes : List String := []
  deriving DecidableEq, Repr

structure Operation where
  name : String
  method : Method
  path : String
  summary : Option String := none
  description : Option String := none
  deprecated : Bool := false
  parameters : List Parameter := []
  requestBody : Option RequestBody := none
  responses : List Response := []
  securityRequirements : List SecurityRequirement := []
  deriving Repr

structure OperationGroup where
  name : String
  path : String := ""
  description : Option String := none
  operations : List Operation := []
  deriving Repr

inductive KeyPlace where
  | header | query | cookie
  deriving DecidableEq, Repr

inductive FlowKind where
  | implicit | password | clientCredentials | authorizationCode
  deriving DecidableEq, Repr

structure OAuthFlow where
  kind : FlowKind
  authorizationUrl : Option String := none
  tokenUrl : Option String := none
  refreshUrl : Option String := none
  scopes : List String := []
  deriving DecidableEq, Repr

inductive SecurityKind where
  | apiKey (paramName : String) (place : KeyPlace)
  | http (scheme : String) (bearerFormat : Option String)
  | oauth2 (flows : List OAuthFlow)
  | openIdConnect (url : String)
  deriving DecidableEq, Repr

structure SecurityScheme where
  name : String
  description : Option String := none
  kind : SecurityKind
  deriving DecidableEq, Repr

structure Info where
  title : String
  version : String
  description : Option String := none
  deriving DecidableEq, Repr

structure Server where
  url : String
  description : Option String := none
  deriving DecidableEq, Repr

structure Document where
  info : Info
  servers : List Server := []
  groups : List OperationGroup := []
  schemas : List Schema := []
  securitySchemes : List SecurityScheme := []
  deriving Repr

def Document.titled (title version : String) : Document :=
  ⟨⟨title, version, none⟩, [], [], [], []⟩

end SwiftClient
