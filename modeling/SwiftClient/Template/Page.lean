import SwiftClient.Code.Model
import SwiftClient.Code.Package
import SwiftClient.Code.Security
import SwiftClient.Code.Support
import SwiftClient.Template.Context

/-!
# Pages

The pages of a client that a generator can make without being given a template. Each has a name
like a template. All but two begin with the header, and some are made with shared parts.
-/
namespace SwiftClient

inductive Page where
  | header | parts
  | api | object | enum | interface | hierarchy | wrapper | oneOf
  | package
  | apiError | configuration | dateFormatter | nullable
  | credentials | securityClient
  deriving DecidableEq

namespace Page

def name : Page → String
  | header => "header"
  | parts => "macros"
  | api => "api"
  | object => "pojo"
  | enum => "enum"
  | interface => "interface"
  | hierarchy => "hierarchy"
  | wrapper => "wrapper"
  | oneOf => "oneOf"
  | package => "Package"
  | apiError => "support/ApiError.swift"
  | configuration => "support/Configuration.swift"
  | dateFormatter => "support/DateFormatter.swift"
  | nullable => "support/Nullable.swift"
  | credentials => "security/Credentials.swift"
  | securityClient => "security/SecurityClient.swift"

def all : List Page :=
  [header, parts, api, object, enum, interface, hierarchy, wrapper, oneOf, package, apiError,
    configuration, dateFormatter, nullable, credentials, securityClient]

def usesParts : Page → Bool
  | api | object | enum | interface | hierarchy | wrapper | oneOf => true
  | _ => false

/-- The comment that files begin with. -/
def headerCode (root : PageRoot) : Code :=
  ["//",
    "// Generated by " ++ generatorName ++ " " ++ generatorVersion
      ++ (match root.date with
        | none => ""
        | some "" => ""
        | some date => " on " ++ date)
      ++ ".",
    "// Changes to this file will be lost when the code is regenerated.", "//"]

def ofSchema (s : Resolved.Schema) : Page :=
  match s.kind with
  | .object _ _ _ _ => object
  | .enum _ _ => enum
  | .interface _ _ _ => interface
  | .hierarchy _ _ _ => hierarchy
  | .wrapper _ => wrapper
  | .oneOf _ _ => oneOf

/-- What a page has before its header. -/
def preface : Page → Code
  | package => Code.packagePreface
  | _ => []

/-- What a page has after its header. There is no such page of another subject than its own. -/
def body? (root : PageRoot) : Page → PageSubject → Option Code
  | api, .api group servers => some (Code.api group servers)
  | package, _ =>
    some (Code.package (root.options.package.getD "") root.options.sourcePath)
  | apiError, _ => some Code.apiError
  | configuration, _ =>
    some
      (Code.configuration root.options.subsystem root.options.retryCodes
        root.options.tokenFailureCodes)
  | dateFormatter, _ => some Code.dateFormatter
  | nullable, _ => some Code.nullable
  | credentials, .security schemes => some (Code.credentials schemes)
  | securityClient, _ => some Code.securityClientProtocol
  | page, .schema s => if page = ofSchema s then some (Code.model s) else none
  | _, _ => none

end Page

end SwiftClient
