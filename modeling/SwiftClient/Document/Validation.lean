import SwiftClient.Document.Lookup

/-!
# Valid documents

The defects of a document are listed in the order in which they are looked for: names of schemas,
then each schema from the top inwards, then operations. A document without defects is valid.
-/
namespace SwiftClient

/-- What two things of one name are. -/
inductive Kindred where
  | schema | property | oneOfMember | operation
  deriving DecidableEq

def Kindred.text : Kindred → String
  | schema => "schema"
  | property => "property"
  | oneOfMember => "oneOf member"
  | operation => "operation"

inductive CollectionPart where
  | component | key
  deriving DecidableEq

def CollectionPart.text : CollectionPart → String
  | component => "component"
  | key => "key"

inductive Defect where
  | duplicate (kindred : Kindred) (name : String)
  | unknownReference (name : String) (context : String)
  | missingPart (classification : Classification) (part : CollectionPart) (context : String)
  | scopedNameMismatch (name scopedName : String)
  | emptyEnum (name : String)
  | unnamedUsage (classification : Classification) (context : String)
  deriving DecidableEq

def Defect.message : Defect → String
  | duplicate kindred name => "duplicate " ++ kindred.text ++ " definition: '" ++ name ++ "'"
  | unknownReference name context =>
    "unknown schema '" ++ name ++ "' referenced from '" ++ context ++ "'"
  | missingPart classification part context =>
    classification.name ++ " usage in '" ++ context ++ "' is missing its " ++ part.text ++ " type"
  | scopedNameMismatch name scopedName =>
    "scoped name '" ++ scopedName ++ "' does not match schema '" ++ name ++ "'"
  | emptyEnum name => "enum '" ++ name ++ "' has no values"
  | unnamedUsage classification context =>
    "validation error: " ++ classification.name ++ " usage in '" ++ context
      ++ "' has no scoped name"

namespace Document

/-- Each item, and whether an earlier one or one of `seen` has its name. -/
def repeats (name : α → Option String) : List String → List α → List (α × Bool)
  | _, [] => []
  | seen, item :: rest =>
    match name item with
    | none => (item, false) :: repeats name seen rest
    | some n => (item, n ∈ seen) :: repeats name (n :: seen) rest

def referenceDefects (d : Document) (context : String) (name : ScopedName) : List Defect :=
  if d.has name then [] else [.unknownReference name.dotted context]

/-- What is missing in a type usage or in those inside it. -/
def usageDefects (d : Document) (context : String) : TypeUsage → List Defect
  | ⟨.array, _, _, _, some component, _, _⟩ => usageDefects d context component
  | ⟨.array, _, _, _, none, _, _⟩ => [.missingPart .array .component context]
  | ⟨.map, _, _, _, some component, some key, _⟩ =>
    usageDefects d context key ++ usageDefects d context component
  | ⟨.map, _, _, _, none, _, _⟩ => [.missingPart .map .component context]
  | ⟨.map, _, _, _, some _, none, _⟩ => [.missingPart .map .key context]
  | ⟨classification, _, _, scopedName, _, _, _⟩ =>
    if classification.isNamed then
      match scopedName with
      | some name => referenceDefects d context name
      | none => [.unnamedUsage classification context]
    else []

def propertyDefects (d : Document) (context : String) (properties : List Property) : List Defect :=
  (repeats (fun p => some p.name) [] properties).flatMap fun (p, repeated) =>
    (if repeated then [.duplicate .property (context ++ "." ++ p.name)] else [])
      ++ usageDefects d (context ++ "." ++ p.name) p.type

def memberDefects (d : Document) (context : String) (members : List Member) : List Defect :=
  (repeats (fun m => m.name) [] members).flatMap fun (m, repeated) =>
    (if repeated then [.duplicate .oneOfMember (context ++ "." ++ m.name.getD "")] else [])
      ++ usageDefects d context m.type

def kindDefects (d : Document) (name context : String) : SchemaKind → List Defect
  | .object o => (o.parent.toList ++ o.implements).flatMap (referenceDefects d context)
  | .enum e =>
    (if e.values.isEmpty then [.emptyEnum name] else []) ++ usageDefects d context e.valueType
  | .interface i => i.parents.flatMap (referenceDefects d context)
  | .hierarchy h =>
    (h.members ++ h.discriminator.mappings.map (·.scopedName)).flatMap (referenceDefects d context)
  | .wrapper _ => []
  | .oneOf o => memberDefects d context o.members

def schemaDefects (d : Document) (s : Schema) : List Defect :=
  propertyDefects d s.scopedName.dotted s.properties
    ++ kindDefects d s.name s.scopedName.dotted s.kind

mutual

def nameDefects (repeated : Bool) : Schema → List Defect
  | ⟨name, scopedName, _, _, _, _, nested⟩ =>
    (if repeated then [.duplicate .schema scopedName.dotted] else [])
      ++ (if scopedName.getLast? = some name then []
        else [.scopedNameMismatch name scopedName.dotted])
      ++ siblingDefects [] nested

/-- Defects in the names of siblings, where `seen` are the names of those before them. -/
def siblingDefects (seen : List String) : List Schema → List Defect
  | [] => []
  | s :: rest => nameDefects (s.name ∈ seen) s ++ siblingDefects (s.name :: seen) rest

end

def operationDefects (d : Document) (group : OperationGroup) : List Defect :=
  (repeats (fun o => some o.name) [] group.operations).flatMap fun (o, repeated) =>
    let context := group.name ++ "." ++ o.name
    (if repeated then [.duplicate .operation context] else [])
      ++ (o.parameters.map (·.type) ++ o.requestBody.toList.map (·.type)
        ++ o.responses.filterMap (·.type)).flatMap (usageDefects d context)

def defects (d : Document) : List Defect :=
  siblingDefects [] d.schemas ++ d.allSchemas.flatMap (schemaDefects d)
    ++ d.groups.flatMap (operationDefects d)

/-- Accepts a document that has no defects, or gives the first. -/
def validate (d : Document) : Except Defect Unit :=
  match d.defects with
  | [] => .ok ()
  | defect :: _ => .error defect

end Document

end SwiftClient
