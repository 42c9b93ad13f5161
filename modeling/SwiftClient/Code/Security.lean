import SwiftClient.Code.Api
import SwiftClient.Text.Word

/-!
# Credentials

A security scheme is a structure that adds credentials to requests.
-/
namespace SwiftClient.Code

def securityClientName (scheme : String) : String :=
  String.ofList ((Text.titled scheme.toList).filter (· ≠ ' ')) ++ "SecurityClient"

/-- A structure that holds texts and adds them to a request. -/
def securityClient (scheme : String) (fields : List String) (statements : Code) : Code :=
  block ("public struct " ++ securityClientName scheme ++ ": SecurityClient")
    ((fields.map fun f => "public var " ++ f ++ ": String")
      ++ "" :: block ("public init(" ++ listed (fields.map (· ++ ": String")) ++ ")")
        (fields.map fun f => "self." ++ f ++ " = " ++ f)
      ++ "" :: block "public func apply(to request: inout URLRequest)" statements)

def headerStatement (value header : String) : String :=
  "request.setValue(" ++ value ++ ", forHTTPHeaderField: " ++ stringLiteral header ++ ")"

def keyStatements (paramName : String) : KeyPlace → Code
  | .header => [headerStatement "apiKey" paramName]
  | .query =>
    block
        ("guard let url = request.url, var components = "
          ++ "URLComponents(url: url, resolvingAgainstBaseURL: false) else")
        ["return"]
      ++ ["components.queryItems = (components.queryItems ?? []) + [URLQueryItem(name: "
          ++ stringLiteral paramName ++ ", value: apiKey)]",
        "request.url = components.url"]
  | .cookie =>
    ["request.addValue(" ++ stringLiteral (paramName ++ "=\\(apiKey)")
      ++ ", forHTTPHeaderField: \"Cookie\")"]

def passwordStatements : Code :=
  ["let credentials = Data(\"\\(username):\\(password)\".utf8).base64EncodedString()",
    headerStatement "\"Basic \\(credentials)\"" "Authorization"]

def tokenClient (scheme : String) : Code :=
  securityClient scheme ["accessToken"]
    [headerStatement "\"Bearer \\(accessToken)\"" "Authorization"]

def schemeClient (s : SecurityScheme) : Code :=
  match s.kind with
  | .apiKey paramName place => securityClient s.name ["apiKey"] (keyStatements paramName place)
  | .http "basic" _ => securityClient s.name ["username", "password"] passwordStatements
  | _ => tokenClient s.name

def schemeDocumentation (s : SecurityScheme) : Code :=
  ("/// Credentials for the `" ++ s.name ++ "` security scheme.")
    :: match documentation s.description with
      | [] => []
      | lines => "///" :: lines

def credentials (schemes : List SecurityScheme) : Code :=
  ["", ""] ++ networkImports
    ++ schemes.flatMap fun s => "" :: schemeDocumentation s ++ schemeClient s

def securityClientProtocol : Code :=
  ["", ""] ++ networkImports
    ++ documented (some "Adds credentials to a request.")
      (block "public protocol SecurityClient" ["func apply(to request: inout URLRequest)"])

end SwiftClient.Code
