import SwiftClient.Failure
import SwiftClient.Naming.Basic

/-!
# Swift types of type usages

Scalars have a Swift type by classification and format, collections are composed of the types
inside them, and named classifications become the qualified name of their schema's type.
-/
namespace SwiftClient

namespace Classification

def swiftType (c : Classification) (format : Option String) : Except Failure SwiftType :=
  match c, format with
  | integer, none => .ok (.named "Int")
  | integer, some "int32" => .ok (.named "Int32")
  | integer, some "int64" => .ok (.named "Int64")
  | integer, some other => .error (.unsupportedFormat integer other)
  | number, none => .ok (.named "Decimal")
  | number, some "float" => .ok (.named "Float")
  | number, some "double" => .ok (.named "Double")
  | number, some other => .error (.unsupportedFormat number other)
  | string, some "url" => .ok (.named "URL")
  | string, _ => .ok (.named "String")
  | date, _ => .ok (.named "LocalDate")
  | time, _ => .ok (.named "LocalTime")
  | dateTime, _ => .ok (.named "OffsetDateTime")
  | boolean, _ => .ok (.named "Bool")
  | binary, _ => .ok (.named "Data")
  | file, _ => .ok (.named "File")
  | any, _ => .ok (.named "Any")
  | c, _ => .error (.unsupportedType c)

end Classification

namespace ScopedName

/-- The type of a schema, qualified by the package and the schemas around it. -/
def swiftType (package : Option String) (name : ScopedName) : SwiftType :=
  .named (String.intercalate "."
    ((package.filter (· ≠ "")).toList ++ name.map Naming.className))

end ScopedName

namespace TypeUsage

/-- The type of a usage; `context` says where it stands. -/
def swiftType (package : Option String) (context : String) : TypeUsage → Except Failure SwiftType
  | ⟨.array, _, _, _, some component, _, _⟩ =>
    return .array (← swiftType package context component)
  | ⟨.array, _, _, _, none, _, _⟩ => .error (.missingPart .array .component)
  | ⟨.map, _, _, _, none, _, _⟩ => .error (.missingPart .map .component)
  | ⟨.map, _, _, _, some _, none, _⟩ => .error (.missingPart .map .key)
  | ⟨.map, _, _, _, some component, some key, _⟩ =>
    if key.classification.isMapKey then do
      let keyType ← swiftType package context key
      let valueType ← swiftType package context component
      (SwiftType.dictionaryOf keyType valueType).mapError .type
    else .error (.invalidMapKey key.classification context)
  | ⟨classification, format, _, scopedName, _, _, _⟩ =>
    if classification.isNamed then
      match scopedName with
      | some name => .ok (name.swiftType package)
      | none =>
        .error (.unknownSchema
          ("<unnamed " ++ classification.name ++ " in " ++ context ++ ">"))
    else classification.swiftType format

end TypeUsage

/-- What has to be known of a usage to write literals for it. -/
structure LiteralContext where
  classification : Classification
  format : Option String := none
  type : SwiftType
  required : Bool := true
  nullable : Bool := false
  component : Option LiteralContext := none

namespace TypeUsage

/-- The literal context of a usage. Elements and values of collections are always required. -/
def literalContext (package : Option String) (context : String) (required : Bool) :
    TypeUsage → Except Failure LiteralContext
  | t@⟨.array, format, nullable, _, some component, _, _⟩ => do
    let type ← t.swiftType package context
    let inner ← literalContext package context true component
    return ⟨.array, format, type, required, nullable, some inner⟩
  | t@⟨.map, format, nullable, _, some component, _, _⟩ => do
    let type ← t.swiftType package context
    let inner ← literalContext package context true component
    return ⟨.map, format, type, required, nullable, some inner⟩
  | t => do
    let type ← t.swiftType package context
    return ⟨t.classification, t.format, type, required, t.nullable, none⟩

end TypeUsage

end SwiftClient
