import SwiftClient.Code.Basic
import SwiftClient.Resolution.Resolved

/-!
# Declarations

Parts of type declarations, and the declarations of schemas within other schemas.
-/
namespace SwiftClient.Code

/-- An identifier without the marks that keep it apart from reserved words. -/
def unmarked (identifier : String) : String :=
  String.ofList (identifier.toList.filter (· ≠ '\x60'))

/-- What a parameter starts with when it is not given: a literal, or nothing if it is optional. -/
def startClause (initial : Option Literal.Default) (required : Bool) : String :=
  match initial with
  | some start => " = " ++ start.literal
  | none => if required then "" else " = nil"

def storedProperties (properties : List Resolved.Property) : Code :=
  properties.flatMap fun p =>
    documentation p.description ++ ["public var " ++ p.identifier ++ ": " ++ p.usage.expression]

def initializer (properties : List Resolved.Property) : Code :=
  block
    ("public init("
      ++ listed (properties.map fun p =>
        p.identifier ++ ": " ++ p.usage.expression ++ startClause p.initial p.required)
      ++ ")")
    (properties.map fun p => "self." ++ unmarked p.identifier ++ " = " ++ p.identifier)

/-- The names of properties outside of the program, after a blank line. -/
def codingKeys (properties : List Resolved.Property) : Code :=
  if properties.isEmpty then []
  else
    "" :: block "enum CodingKeys: String, CodingKey"
      (properties.map fun p => "case " ++ p.identifier ++ " = " ++ stringLiteral p.serializedName)

def structureMembers (properties : List Resolved.Property) : Code :=
  storedProperties properties ++ "" :: initializer properties ++ codingKeys properties

def enumHead (className : String) (valueType : SwiftType) : String :=
  "public enum " ++ className ++ ": " ++ valueType.expression ++ ", Codable, CaseIterable"

def enumCases (members : List Resolved.EnumMember) : Code :=
  members.map fun m => "case " ++ m.name ++ " = " ++ m.literal

def valueCase (name : String) (type : SwiftType) : String :=
  "case " ++ name ++ "(" ++ type.expression ++ ")"

def memberCases (members : List Resolved.Member) : Code :=
  members.map fun m => valueCase m.identifier m.type

def wrapperMembers (type : String) : Code :=
  ["public var value: " ++ type, ""]
    ++ block ("public init(_ value: " ++ type ++ ")") ["self.value = value"]

mutual

/-- A schema within another one. Anything but an enum, a wrapper or a choice is a structure, which
holds what is nested in it. -/
def nestedDeclaration : Resolved.Schema → Code
  | ⟨_, className, _, _, _, _, _, _, kind, nested⟩ =>
    match kind with
    | .enum valueType members => block (enumHead className valueType) (enumCases members)
    | .wrapper property =>
      block ("public struct " ++ className ++ ": Codable, Equatable")
        (wrapperMembers property.usage.expression)
    | .oneOf members _ =>
      block ("public enum " ++ className ++ ": Codable, Equatable") (memberCases members)
    | other =>
      block ("public struct " ++ className ++ ": Codable, Equatable")
        (structureMembers other.properties
          ++ if nested.isEmpty then [] else "" :: nestedDeclarations nested)

def nestedDeclarations : List Resolved.Schema → Code
  | [] => []
  | s :: rest => documented s.description (nestedDeclaration s) ++ nestedDeclarations rest

end

end SwiftClient.Code
