import SwiftClient.Resolution.Writing

/-!
# What templates are filled from

Most templates are filled for a page of a client, which shows its subject and what all pages share.
A template may also be filled from bare values.
-/
namespace SwiftClient

def generatorName : String := "openapi-swift"

def generatorVersion : String := "0.3.0"

/-- What all pages share; the date is left out if it is hidden. -/
structure PageRoot where
  options : Options
  date : Option String

def PageRoot.at (options : Options) (time : String) : PageRoot :=
  ⟨options, if options.hideTimestamp then none else some time⟩

inductive PageSubject where
  | client
  | api (group : Resolved.Group) (servers : List Server)
  | schema (schema : Resolved.Schema)
  | security (schemes : List SecurityScheme)
  | package (info : Info)
  | document (title : String)

inductive PageContext where
  | values (values : Json)
  | page (root : PageRoot) (subject : PageSubject)

def PageRoot.fields (r : PageRoot) : List (String × Json) :=
  r.options.fields
    ++ [("generatorClass", .string generatorName), ("generatorVersion", .string generatorVersion),
      ("generatedDate", .ofOption .string r.date)]

/-- The name under which a template sees a schema. -/
def Resolved.Schema.key (s : Resolved.Schema) : String :=
  match s.kind with
  | .object _ _ _ _ => "pojo"
  | .enum _ _ => "enum"
  | .interface _ _ _ => "interface"
  | .hierarchy _ _ _ => "hierarchy"
  | .wrapper _ => "schema"
  | .oneOf _ _ => "oneOf"

def PageSubject.fields : PageSubject → List (String × Json)
  | client => []
  | api group servers =>
    [("group", group.toJson), ("operations", .ofList Resolved.Operation.toJson group.operations),
      ("servers", .ofList Server.toJson servers)]
  | schema s => [(s.key, s.toJson)]
  | security schemes => [("securitySchemes", .ofList SecurityScheme.toJson schemes)]
  | package info => [("info", info.toJson)]
  | document title => [("title", .string title)]

def PageContext.toJson : PageContext → Json
  | .values v => v
  | .page root subject => .ofFields (root.fields ++ subject.fields)

def PageContext.keys (c : PageContext) : List String :=
  match c.toJson with
  | .object fields => fields.map (·.1)
  | _ => []

end SwiftClient
