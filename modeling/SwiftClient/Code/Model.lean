import SwiftClient.Code.Declaration

/-!
# Models

The declaration of a schema at the top of a document.
-/
namespace SwiftClient.Code

def nestedExtension (s : Resolved.Schema) : Code :=
  if s.nested.isEmpty then []
  else "" :: block ("extension " ++ s.className) (nestedDeclarations s.nested)

def object (s : Resolved.Schema) (properties : List Resolved.Property)
    (implements : List SwiftType) : Code :=
  block
      ("public struct " ++ s.className ++ ": "
        ++ listed (["Codable", "Equatable"] ++ implements.map (·.expression)))
      (structureMembers properties)
    ++ nestedExtension s

def protocol (s : Resolved.Schema) (properties : List Resolved.Property)
    (parents : List SwiftType) : Code :=
  block
    ("public protocol " ++ s.className
      ++ if parents.isEmpty then "" else ": " ++ listed (parents.map (·.expression)))
    (properties.flatMap fun p =>
      documentation p.description
        ++ ["var " ++ p.identifier ++ ": " ++ p.usage.expression ++ " \x7b get \x7d"])

def discriminatorKeys (d : Resolved.Discriminator) : Code :=
  block "enum DiscriminatorKeys: String, CodingKey"
    ["case " ++ d.identifier ++ " = " ++ stringLiteral d.serializedName]

/-- Reads the value that the discriminator tells. -/
def discriminated (d : Resolved.Discriminator) : Code :=
  let key := "." ++ unmarked d.identifier
  ["let container = try decoder.container(keyedBy: DiscriminatorKeys.self)",
    "let discriminator = try container.decode(String.self, forKey: " ++ key ++ ")"]
    ++ switch "discriminator"
      ((d.mappings.flatMap fun m =>
        case ("case " ++ stringLiteral m.value)
          ["self = ." ++ m.memberName ++ "(try " ++ m.type.expression ++ "(from: decoder))"])
      ++ case "default"
          ["throw DecodingError.dataCorruptedError(forKey: " ++ key
            ++ ", in: container, debugDescription: "
            ++ stringLiteral "Unknown discriminator value \\(discriminator)" ++ ")"])

/-- Reads the value of the first member that takes it. -/
def attempted (className : String) (members : List Resolved.Member) : Code :=
  "let container = try decoder.singleValueContainer()"
    :: (members.flatMap fun m =>
      block ("if let value = try? container.decode(" ++ m.type.expression ++ ".self)")
        ["self = ." ++ m.identifier ++ "(value)", "return"])
    ++ ["throw DecodingError.dataCorruptedError(in: container, debugDescription: "
      ++ stringLiteral ("No member of " ++ className ++ " matches the value") ++ ")"]

def decodingInitializer (body : Code) : Code :=
  block "public init(from decoder: Decoder) throws" body

def encodingFunction (body : Code) : Code :=
  block "public func encode(to encoder: Encoder) throws" body

def encodedCases (names : List String) : Code :=
  switch "self"
    (names.flatMap fun name =>
      case ("case ." ++ name ++ "(let value)") ["try value.encode(to: encoder)"])

def hierarchy (s : Resolved.Schema) (d : Resolved.Discriminator) : Code :=
  block ("public enum " ++ s.className ++ ": Codable, Equatable")
    ((d.mappings.map fun m => valueCase m.memberName m.type)
      ++ "" :: discriminatorKeys d
      ++ "" :: decodingInitializer (discriminated d)
      ++ "" :: encodingFunction (encodedCases (d.mappings.map (·.memberName))))

def oneOf (s : Resolved.Schema) (members : List Resolved.Member)
    (discriminator : Option Resolved.Discriminator) : Code :=
  block ("public enum " ++ s.className ++ ": Codable, Equatable")
      (memberCases members
        ++ "" :: decodingInitializer
          (match discriminator with
            | some d => discriminatorKeys d ++ discriminated d
            | none => attempted s.className members)
        ++ "" :: encodingFunction (encodedCases (members.map (·.identifier))))
    ++ nestedExtension s

def wrapper (s : Resolved.Schema) (property : Resolved.Property) : Code :=
  let type := property.usage.expression
  block ("public struct " ++ s.className ++ ": Codable, Equatable, RawRepresentable")
    (["public var rawValue: " ++ type, ""]
      ++ block ("public init(rawValue: " ++ type ++ ")") ["self.rawValue = rawValue"]
      ++ "" :: decodingInitializer
        ["let container = try decoder.singleValueContainer()",
          "self.rawValue = try container.decode(" ++ type ++ ".self)"]
      ++ "" :: encodingFunction
        ["var container = encoder.singleValueContainer()", "try container.encode(rawValue)"])

def declaration (s : Resolved.Schema) : Code :=
  match s.kind with
  | .object properties _ implements _ => object s properties implements
  | .enum valueType members => block (enumHead s.className valueType) (enumCases members)
  | .interface properties parents _ => protocol s properties parents
  | .hierarchy _ discriminator _ => hierarchy s discriminator
  | .wrapper property => wrapper s property
  | .oneOf members discriminator => oneOf s members discriminator

/-- What a file of a schema has after its header. -/
def model (s : Resolved.Schema) : Code :=
  ["", "", "import Foundation"] ++ documented s.description (declaration s)

end SwiftClient.Code
