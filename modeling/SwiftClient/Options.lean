import SwiftClient.Configuration
import SwiftClient.Naming.Basic
import SwiftClient.Traced

/-!
# Options of a generator

Options are read from a configuration once. A package name given as the empty text is left open,
together with what depends on it, until a document is known whose title it is made from.
-/
namespace SwiftClient
open Naming (EnumStyle)

structure Options where
  package : Option String
  sourcePath : String
  customTemplates : Option String
  hideTimestamp : Bool
  retryCodes : List String
  tokenFailureCodes : List String
  subsystem : String
  enumStyle : EnumStyle
  deriving DecidableEq

namespace Options

def defaultPackage : String := "Api"

def sourcePathOf (package : String) : String := "Sources/" ++ package

def default : Options where
  package := some defaultPackage
  sourcePath := sourcePathOf defaultPackage
  customTemplates := none
  hideTimestamp := false
  retryCodes := []
  tokenFailureCodes := []
  subsystem := defaultPackage
  enumStyle := .constant

/-- The package name of a configuration: the usual one if absent, none yet if empty. -/
def packageOf : Option String → Option String
  | none => some defaultPackage
  | some "" => none
  | some name => some name

def sourcePathFor (given : Option String) (package : String) : String :=
  match given with
  | some path => path
  | none => if package = "" then "" else sourcePathOf package

/-- A path of templates, relative to the directory of the configuration file. -/
def templatesPath (configuration : Option String) (templates : String) : String :=
  match configuration.bind Path.parent? with
  | some directory => Path.join directory templates
  | none => templates

def styleOf : Option String → Except Failure EnumStyle
  | none => .ok .constant
  | some setting =>
    match EnumStyle.ofSetting? setting with
    | some style => .ok style
    | none => .error (.setting "enumMemberStyle" (.unknownStyle setting))

def ofConfiguration (c : Configuration) : Except Failure Options := do
  let package := packageOf (← c.string? "package.name")
  let derived := package.getD ""
  let sourcePath := sourcePathFor (← c.string? "relativeSourceOutputPath") derived
  let customTemplates :=
    ((← c.string? "customTemplates").filter (· ≠ "")).map (templatesPath c.path)
  let subsystem := (← c.string? "logging.subsystem").getD derived
  let enumStyle ← styleOf (← c.string? "enumMemberStyle")
  let hideTimestamp ← c.bool "hideGenerationTimestamp" false
  let retryCodes ← c.strings "additionalRetryStatusCodes"
  let tokenFailureCodes ← c.strings "additionalTokenFailureStatusCodes"
  return {
    package, sourcePath, customTemplates, hideTimestamp, retryCodes, tokenFailureCodes, subsystem,
    enumStyle }

/-- Names the package after the document if it has no name yet. -/
def complete (o : Options) (info : Info) : Options :=
  match o.package with
  | some _ => o
  | none =>
    let name := Naming.className info.title
    { o with
      package := some name
      sourcePath := if o.sourcePath = "" then sourcePathOf name else o.sourcePath
      subsystem := if o.subsystem = "" then name else o.subsystem }

def completeNoting (o : Options) (info : Info) : Traced Options := do
  if o.package.isNone then Traced.note (.packageInferred (Naming.className info.title))
  return o.complete info

def fields (o : Options) : List (String × Json) :=
  [("package", .ofFields [("name", .ofOption .string o.package)]),
    ("relativeSourceOutputPath", .string o.sourcePath),
    ("customTemplatesPath", .ofOption .string o.customTemplates),
    ("hideGenerationTimestamp", .bool o.hideTimestamp),
    ("additionalRetryStatusCodes", .ofStrings o.retryCodes),
    ("additionalTokenFailureStatusCodes", .ofStrings o.tokenFailureCodes),
    ("logging", .ofFields [("subsystem", .string o.subsystem)]),
    ("enumMemberStyle", .string o.enumStyle.name)]

def toJson (o : Options) : Json := .ofFields o.fields

end Options

end SwiftClient
