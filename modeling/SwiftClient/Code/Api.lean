import SwiftClient.Code.Declaration

/-!
# Operations

A group of operations is a class that sends their requests.
-/
namespace SwiftClient.Code

def networkImports : Code :=
  ["import Foundation", "#if canImport(FoundationNetworking)", "import FoundationNetworking",
    "#endif"]

def signature (o : Resolved.Operation) : String :=
  let parameters := o.parameters.map fun p =>
    p.identifier ++ ": " ++ p.usage.expression ++ startClause p.initial p.required
  let body := o.requestBody.toList.map fun b =>
    "body: " ++ b.usage.expression ++ startClause none b.required
  "public func " ++ o.methodName ++ "(" ++ listed (parameters ++ body) ++ ") async throws"
    ++ match o.returnType with
      | some type => " -> " ++ type.expression
      | none => ""

def describing (value : String) : String := "String(describing: " ++ value ++ ")"

def pathValue (p : Resolved.Parameter) : Code :=
  match p.place with
  | .path =>
    ["path = path.replacingOccurrences(of: " ++ stringLiteral ("\x7b" ++ p.name ++ "\x7d")
      ++ ", with: " ++ describing p.identifier ++ ")"]
  | _ => []

def queryItem (name value : String) : String :=
  "queryItems.append(URLQueryItem(name: " ++ stringLiteral name ++ ", value: " ++ describing value
    ++ "))"

def headerValue (name value : String) : String :=
  "headers[" ++ stringLiteral name ++ "] = " ++ describing value

/-- A value that is always sent, or one that is sent if there is one. -/
def sent (p : Resolved.Parameter) (statement : String → String) : Code :=
  if p.required then [statement p.identifier]
  else block ("if let value = " ++ p.identifier) [statement "value"]

/-- Puts a value into the query or the headers. -/
def requestValue (p : Resolved.Parameter) : Code :=
  match p.place with
  | .query => sent p (queryItem p.name)
  | .header => sent p (headerValue p.name)
  | _ => []

def requestArguments (o : Resolved.Operation) : List String :=
  ["method: " ++ stringLiteral o.method.name, "path: path", "queryItems: queryItems",
      "headers: headers"]
    ++ (o.requestBody.toList.flatMap fun b =>
      ["body: body", "contentType: " ++ stringLiteral b.mediaType])
    ++ if o.securityRequirements.isEmpty then []
      else
        ["securitySchemes: ["
          ++ listed (o.securityRequirements.map fun r => stringLiteral r.scheme) ++ "]"]

def answer (o : Resolved.Operation) : String :=
  match o.returnType with
  | some type =>
    "return try configuration.decode(" ++ type.expression
      ++ ".self, from: data, response: response)"
  | none => "try configuration.validate(data: data, response: response)"

def statements (o : Resolved.Operation) : Code :=
  ("var path = " ++ stringLiteral o.fullPath) :: o.parameters.flatMap pathValue
    ++ ["var queryItems: [URLQueryItem] = []", "var headers: [String: String] = [:]"]
    ++ o.parameters.flatMap requestValue
    ++ enclosed "let request = try configuration.makeRequest(" (arguments (requestArguments o)) ")"
    ++ ["let (data, response) = try await configuration.send(request)", answer o]

def parameterDocumentation (p : Resolved.Parameter) : Code :=
  match p.description with
  | none => []
  | some "" => []
  | some description => ["/// - Parameter " ++ p.identifier ++ ": " ++ description]

def method (o : Resolved.Operation) : Code :=
  documented o.summary
    (o.parameters.flatMap parameterDocumentation
      ++ (if o.deprecated then ["@available(*, deprecated)"] else [])
      ++ block (signature o) (statements o))

/-- Requests go to the first server unless told otherwise. -/
def baseUrl (servers : List Server) : String := (servers.head?.map (·.url)).getD ""

def group (g : Resolved.Group) (servers : List Server) : Code :=
  block ("public class " ++ g.className ++ "Api")
    (["public let configuration: Configuration", ""]
      ++ block
        ("public init(configuration: Configuration = Configuration(baseURL: URL(string: "
          ++ stringLiteral (baseUrl servers) ++ ")!))")
        ["self.configuration = configuration"]
      ++ g.operations.flatMap method)

/-- What a file of a group has after its header. -/
def api (g : Resolved.Group) (servers : List Server) : Code :=
  ["", ""] ++ networkImports ++ documented g.description (group g servers)

end SwiftClient.Code
