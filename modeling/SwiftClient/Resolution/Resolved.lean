import SwiftClient.Document.Basic
import SwiftClient.Literal.Basic
import SwiftClient.Options

/-!
# Resolved documents

A document in which every usage has its Swift type, every name its Swift form, and every property
and parameter the values that it starts with.
-/
namespace SwiftClient.Resolved

structure Property where
  name : String
  identifier : String
  serializedName : String
  description : Option String
  required : Bool
  nullable : Bool
  classification : Classification
  type : SwiftType
  default : Option Literal.Default
  initial : Option Literal.Default

def Property.usage (p : Property) : SwiftUsage := ⟨p.type, p.nullable, p.required⟩

structure Mapping where
  value : String
  type : SwiftType
  memberName : String
  deriving DecidableEq

structure Discriminator where
  name : String
  identifier : String
  serializedName : String
  mappings : List Mapping
  deriving DecidableEq

structure EnumMember where
  name : String
  value : Json
  literal : String

structure Member where
  name : String
  identifier : String
  classification : Classification
  type : SwiftType
  deriving DecidableEq

inductive SchemaKind where
  | object (properties : List Property) (parent : Option SwiftType) (implements : List SwiftType)
    (discriminator : Option Discriminator)
  | enum (valueType : SwiftType) (members : List EnumMember)
  | interface (properties : List Property) (parents : List SwiftType)
    (implementation : Option SwiftType)
  | hierarchy (properties : List Property) (discriminator : Discriminator)
    (members : List SwiftType)
  | wrapper (property : Property)
  | oneOf (members : List Member) (discriminator : Option Discriminator)

def SchemaKind.properties : SchemaKind → List Property
  | object ps _ _ _ => ps
  | interface ps _ _ => ps
  | hierarchy ps _ _ => ps
  | wrapper p => [p]
  | enum _ _ => []
  | oneOf _ _ => []

structure Schema where
  name : String
  className : String
  scopedName : ScopedName
  description : Option String
  purpose : Purpose
  nullable : Bool
  classification : Classification
  type : SwiftType
  kind : SchemaKind
  nested : List Schema

def Schema.properties (s : Schema) : List Property := s.kind.properties

/-- Goes down a path of names; the empty path leads nowhere. -/
def Schema.find? : List Schema → ScopedName → Option Schema
  | _, [] => none
  | forest, [name] => forest.find? (·.name == name)
  | forest, name :: rest => do find? (← forest.find? (·.name == name)).nested rest

structure Parameter where
  name : String
  identifier : String
  place : ParameterPlace
  required : Bool
  nullable : Bool
  description : Option String
  classification : Classification
  type : SwiftType
  default : Option Literal.Default
  initial : Option Literal.Default

def Parameter.usage (p : Parameter) : SwiftUsage := ⟨p.type, p.nullable, p.required⟩

structure RequestBody where
  required : Bool
  nullable : Bool
  mediaType : String
  type : SwiftType

def RequestBody.usage (b : RequestBody) : SwiftUsage := ⟨b.type, b.nullable, b.required⟩

structure Response where
  code : Option Nat
  isSuccess : Bool
  description : String
  mediaType : Option String
  type : Option SwiftType

structure Operation where
  name : String
  methodName : String
  method : Method
  fullPath : String
  path : String
  summary : Option String
  description : Option String
  deprecated : Bool
  parameters : List Parameter
  requestBody : Option RequestBody
  responses : List Response
  securityRequirements : List SecurityRequirement

/-- The type of the first body that reports success. -/
def Operation.returnType (o : Operation) : Option SwiftType :=
  (o.responses.filter (·.isSuccess)).findSome? (·.type)

structure Group where
  name : String
  className : String
  path : String
  description : Option String
  operations : List Operation

end SwiftClient.Resolved

namespace SwiftClient

structure ResolvedDocument where
  info : Info
  servers : List Server
  groups : List Resolved.Group
  schemas : List Resolved.Schema
  securitySchemes : List SecurityScheme
  options : Options

def ResolvedDocument.find? (d : ResolvedDocument) (name : ScopedName) : Option Resolved.Schema :=
  Resolved.Schema.find? d.schemas name

end SwiftClient
