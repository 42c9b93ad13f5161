import SwiftClient.Resolution.Groups
import SwiftClient.Resolution.MemberNames
import SwiftClient.Resolution.Schemas

/-!
# Resolving documents

A document is resolved when it is valid: options are completed from it, members are named, then
schemas and groups are resolved, in this order.
-/
namespace SwiftClient

def Document.resolve (d : Document) (options : Options) : Traced ResolvedDocument := do
  Traced.ofExcept (d.validate.mapError .schema)
  let options ← options.completeNoting d.info
  let named ← d.nameMembers options.package
  let r : Resolution := ⟨named, options.package, options.enumStyle⟩
  let schemas ← r.allSchemas
  let groups ← r.allGroups
  Traced.note (.resolved schemas.length groups.length)
  return ⟨named.info, named.servers, groups, schemas, named.securitySchemes, options⟩

end SwiftClient
