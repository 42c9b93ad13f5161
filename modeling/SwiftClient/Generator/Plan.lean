import SwiftClient.Template.Page

/-!
# Plans

A plan lists the files of a client, each with the template that it is made from.
-/
namespace SwiftClient

structure Job where
  template : String
  output : String
  context : PageContext

namespace ResolvedDocument

/-- One file for each group that has operations. -/
def apiJobs (d : ResolvedDocument) (root : PageRoot) (source : String) : List Job :=
  (d.groups.filter fun g => !g.operations.isEmpty).map fun g =>
    ⟨Page.api.name, Path.join (Path.join source "APIs") (g.className ++ "Api.swift"),
      .page root (.api g d.servers)⟩

/-- One file for each schema at the top of the document. -/
def modelJobs (d : ResolvedDocument) (root : PageRoot) (source : String) : List Job :=
  d.schemas.map fun s =>
    ⟨(Page.ofSchema s).name, Path.join (Path.join source "Models") (s.className ++ ".swift"),
      .page root (.schema s)⟩

def supportJobs (root : PageRoot) (source : String) (names : List String) : List Job :=
  names.map fun name =>
    ⟨"support/" ++ name, Path.join (Path.join source "Support") name, .page root .client⟩

def securityJobs (d : ResolvedDocument) (root : PageRoot) (source : String)
    (names : List String) : List Job :=
  names.map fun name =>
    ⟨"security/" ++ name, Path.join (Path.join source "Security") name,
      .page root (.security d.securitySchemes)⟩

def packageJob (d : ResolvedDocument) (root : PageRoot) (output : String) : Job :=
  ⟨Page.package.name, Path.join output "Package.swift", .page root (.package d.info)⟩

/-- The files of a client below a path, given the names of the support and security files. -/
def plan (d : ResolvedDocument) (root : PageRoot) (output : String)
    (support security : List String) : List Job :=
  let source := Path.join output d.options.sourcePath
  d.apiJobs root source ++ d.modelJobs root source ++ supportJobs root source support
    ++ d.securityJobs root source security ++ [d.packageJob root output]

end ResolvedDocument

end SwiftClient
