import SwiftClient.Resolution.Properties

/-!
# Resolved operations

Each group of operations becomes a class, and each operation one of its methods.
-/
namespace SwiftClient.Resolution

def requestBody (r : Resolution) (context : String) (b : RequestBody) :
    Except Failure Resolved.RequestBody := do
  let type ← b.type.swiftType r.package context
  return ⟨b.required, b.type.nullable, b.mediaType, type⟩

def ifPresent (f : α → Except Failure β) : Option α → Except Failure (Option β)
  | none => .ok none
  | some a => (f a).map some

def response (r : Resolution) (context : String) (response : Response) :
    Except Failure Resolved.Response := do
  let type ← ifPresent (·.swiftType r.package context) response.type
  return ⟨response.code, response.isSuccess, response.description, response.mediaType, type⟩

def operation (r : Resolution) (group : OperationGroup) (o : Operation) :
    Traced Resolved.Operation := do
  let context := group.name ++ "." ++ o.name
  let parameters ← o.parameters.mapM (r.parameter context)
  let body ← ifPresent (r.requestBody context) o.requestBody
  let responses ← Traced.ofExcept (o.responses.mapM (r.response context))
  return {
    name := o.name
    methodName := Naming.methodName o.name
    method := o.method
    fullPath := group.path ++ o.path
    path := o.path
    summary := o.summary
    description := o.description
    deprecated := o.deprecated
    parameters, responses
    requestBody := body
    securityRequirements := o.securityRequirements }

def group (r : Resolution) (g : OperationGroup) : Traced Resolved.Group := do
  return {
    name := g.name
    className := Naming.className g.name
    path := g.path
    description := g.description
    operations := ← g.operations.mapM (r.operation g) }

def allGroups (r : Resolution) : Traced (List Resolved.Group) := r.document.groups.mapM r.group

end SwiftClient.Resolution
