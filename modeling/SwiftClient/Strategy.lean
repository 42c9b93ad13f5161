/-!
# Composition in Swift

How compositions of schemas are represented. Swift models are structs, so there is no inheritance:
`allOf` becomes a hierarchy of protocols, and `oneOf` an enum whose cases carry values and need
names.
-/
namespace SwiftClient

inductive AllOfForm where
  | object | native | hierarchy
  deriving DecidableEq

inductive AnyOfForm where
  | object | native
  deriving DecidableEq

inductive OneOfForm where
  | object | native
  deriving DecidableEq

inductive Product where
  | client | server | documentation
  deriving DecidableEq

/-- How operations are put together into classes. -/
inductive Grouping where
  | tagOrPath | path | single
  deriving DecidableEq

structure Strategy where
  allOf : AllOfForm
  anyOf : AnyOfForm
  oneOf : OneOfForm
  inherits : Bool
  inheritsFromSeveral : Bool
  nestsInterfaces : Bool
  compositionHoldsSchemas : Bool
  compositionNeedsNames : Bool
  compositionNeedsObjects : Bool
  product : Product
  grouping : Grouping
  deriving DecidableEq

def Strategy.swift : Strategy where
  allOf := .hierarchy
  anyOf := .object
  oneOf := .native
  inherits := false
  inheritsFromSeveral := false
  nestsInterfaces := false
  compositionHoldsSchemas := true
  compositionNeedsNames := true
  compositionNeedsObjects := false
  product := .client
  grouping := .tagOrPath

def AllOfForm.name : AllOfForm → String
  | object => "object"
  | native => "native"
  | hierarchy => "hierarchy"

def AnyOfForm.name : AnyOfForm → String
  | object => "object"
  | native => "native"

def OneOfForm.name : OneOfForm → String
  | object => "object"
  | native => "native"

def Product.name : Product → String
  | client => "client"
  | server => "server"
  | documentation => "documentation"

def Grouping.name : Grouping → String
  | tagOrPath => "tagOrPath"
  | path => "path"
  | single => "single"

end SwiftClient
