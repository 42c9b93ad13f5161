import SwiftClient.Document.Reading
import SwiftClient.Document.Validation
import SwiftClient.Json.Text
import SwiftClient.SwiftType

/-!
# Failures

Why a client is not generated.
-/
namespace SwiftClient

inductive LiteralProblem where
  | noComponent (value : Json)
  | notScalar (value : Json)
  | notWritable (value : Json)

def LiteralProblem.message : LiteralProblem → String
  | noComponent value => "array literal without a component type: " ++ value.text
  | notScalar value => "expected a scalar value, found " ++ value.text
  | notWritable value => "cannot format literal " ++ value.text

/-- How a property differs from the one that it overrides. -/
inductive Incompatibility where
  | type (child parent : String)
  | nullable (child parent : Bool)
  | required (child parent : Bool)
  deriving DecidableEq

def boolText (b : Bool) : String := if b then "true" else "false"

def Incompatibility.message : Incompatibility → String
  | type child parent => "type " ++ child ++ " does not match " ++ parent
  | nullable child parent => "nullable " ++ boolText child ++ " does not match " ++ boolText parent
  | required child parent => "required " ++ boolText child ++ " does not match " ++ boolText parent

inductive SettingProblem where
  | malformed
  | unexpected (expected : String) (value : Json)
  | unknownStyle (style : String)

def SettingProblem.message : SettingProblem → String
  | malformed => "malformed text"
  | unexpected expected value => "expected " ++ expected ++ ", found " ++ value.text
  | unknownStyle style => "unknown style '" ++ style ++ "'"

inductive TemplateProblem where
  | notFound (template : String)
  | notRendered (template : String)
  deriving DecidableEq

def TemplateProblem.message : TemplateProblem → String
  | notFound template => "Template '" ++ template ++ "' not found"
  | notRendered template => "Failed to render '" ++ template ++ "'"

inductive Failure where
  | document (error : Document.ReadError)
  | schema (defect : Defect)
  | type (error : TypeError)
  | unavailable
  | template (problem : TemplateProblem)
  | setting (key : String) (problem : SettingProblem)
  | unsupportedFormat (classification : Classification) (format : String)
  | unsupportedType (classification : Classification)
  | unsupportedLiteral (classification : Classification) (problem : LiteralProblem)
  | incompatibleProperty (child parent property : String) (reason : Incompatibility)
  | nestedInterface (name : String)
  | unknownSchema (name : String)
  | invalidMapKey (classification : Classification) (context : String)
  | missingPart (classification : Classification) (part : CollectionPart)

def Document.ReadError.message : Document.ReadError → String
  | json (.mismatch cause) => "JSON parsing error: " ++ cause.message
  | json .syntaxError => "JSON parsing error: malformed text"
  | anonymous => "invalid document structure: document info has neither title nor version"
  | unavailable => "IO error: unavailable"

def Failure.message : Failure → String
  | document error => "document parse error: " ++ error.message
  | schema defect => "schema error: " ++ defect.message
  | type error => "type error: " ++ error.message
  | unavailable => "IO error: unavailable"
  | template problem => "template error: " ++ problem.message
  | setting key problem => "invalid configuration '" ++ key ++ "': " ++ problem.message
  | unsupportedFormat c format => "unsupported " ++ c.name ++ " format: " ++ format
  | unsupportedType c => "unsupported schema type: " ++ c.name
  | unsupportedLiteral c problem =>
    "cannot format literal for " ++ c.name ++ ": " ++ problem.message
  | incompatibleProperty child parent property reason =>
    "property '" ++ property ++ "' of '" ++ child ++ "' is incompatible with '" ++ parent ++ "': "
      ++ reason.message
  | nestedInterface name => "interface '" ++ name ++ "' cannot be nested"
  | unknownSchema name => "unknown schema '" ++ name ++ "'"
  | invalidMapKey c context => "unsupported map key type " ++ c.name ++ " in '" ++ context ++ "'"
  | missingPart c part => c.name ++ " usage is missing its " ++ part.text ++ " type"

end SwiftClient
