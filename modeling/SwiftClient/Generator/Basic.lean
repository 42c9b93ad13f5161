import SwiftClient.Generator.Plan
import SwiftClient.Resolution.Document
import SwiftClient.Template.Library

/-!
# Generators

A generator has options, extensions and built-in templates. Extensions bring templates, further
files, paths to watch and patterns of files to clean up; the first extension counts most.
-/
namespace SwiftClient

structure Extension where
  name : String
  /-- Directories of templates; the last one counts most. -/
  templates : List String := []
  watched : List String := []
  cleaned : List String := []
  /-- Templates with the paths, below the output, of the files that are made from them. -/
  exports : List (String × String) := []

/-- The templates that extensions and options add to. -/
inductive BuiltIn where
  | standard
  | directory (path : String)

structure Generator where
  options : Options
  extensions : List Extension := []
  builtIn : BuiltIn := .standard

namespace BuiltIn

def library (tree : FileTree) : BuiltIn → Except Failure TemplateLibrary
  | standard => .ok .standard
  | directory path => TemplateLibrary.empty.load tree path

def watched : BuiltIn → List String
  | standard => []
  | directory path => [path]

def support (tree : FileTree) : BuiltIn → Except Failure (List String)
  | standard =>
    .ok ["ApiError.swift", "Configuration.swift", "DateFormatter.swift", "Nullable.swift"]
  | directory path => tree.templatesAt (Path.join path "support")

def security (tree : FileTree) : BuiltIn → Except Failure (List String)
  | standard => .ok ["Credentials.swift", "SecurityClient.swift"]
  | directory path => tree.templatesAt (Path.join path "security")

end BuiltIn

namespace Generator

/-- The patterns of files to clean up in the directory of sources, or in that of any package if it
is not known yet. -/
def sourcePatterns (sourcePath : String) : List String :=
  let trimmed := Path.trimSlashes sourcePath
  let directory := if trimmed = "" then Options.sourcePathOf "*" else trimmed
  [directory ++ "/Models/*.swift", directory ++ "/APIs/*Api.swift", directory ++ "/Support/*.swift"]

def cleanPatterns (g : Generator) : List String :=
  sourcePatterns g.options.sourcePath ++ g.extensions.flatMap (·.cleaned)

def watchPaths (g : Generator) : List String :=
  g.builtIn.watched ++ g.extensions.flatMap (·.watched) ++ g.options.customTemplates.toList

/-- The directories of templates in the order in which they are loaded: those of extensions, the
first extension last, then the custom templates. -/
def templatePaths (g : Generator) : List String :=
  g.extensions.reverse.flatMap (·.templates) ++ g.options.customTemplates.toList

def library (g : Generator) (tree : FileTree) : Except Failure TemplateLibrary := do
  g.templatePaths.foldlM (fun l path => l.load tree path) (← g.builtIn.library tree)

/-- The files that the built-in templates make, for pages made at a time. -/
def plan (g : Generator) (tree : FileTree) (d : ResolvedDocument) (time output : String) :
    Except Failure (List Job) := do
  let support ← g.builtIn.support tree
  let security ← g.builtIn.security tree
  return d.plan (.at d.options time) output support security

def extensionJobs (g : Generator) (d : ResolvedDocument) (time output : String) : List Job :=
  g.extensions.flatMap fun e =>
    e.exports.map fun (template, path) =>
      ⟨template, Path.join output path, .page (.at d.options time) (.document d.info.title)⟩

end Generator

def Job.render (j : Job) (l : TemplateLibrary) : Except Failure (String × String) := do
  return (j.output, ← l.render j.template j.context)

/-- Writes the files of jobs, if all of them can be rendered. -/
def FileTree.run (t : FileTree) (l : TemplateLibrary) (jobs : List Job) :
    Except Failure FileTree := do
  let rendered ← jobs.mapM (·.render l)
  rendered.foldlM (fun t file => t.write file.1 file.2) t

/-- Writes the files of jobs one after another. -/
def FileTree.runInTurn (t : FileTree) (l : TemplateLibrary) (jobs : List Job) :
    Except Failure FileTree :=
  jobs.foldlM (fun t job => t.run l [job]) t

namespace Generator

def exportClient (g : Generator) (tree : FileTree) (d : ResolvedDocument) (time output : String) :
    Except Failure FileTree := do
  let l ← g.library tree
  let jobs ← g.plan tree d time output
  (← tree.run l jobs).runInTurn l (g.extensionJobs d time output)

end Generator

/-- Writes the client of a document that is given as a text, with options from a configuration. -/
def generateClient (c : Configuration) (text : String) (tree : FileTree) (time output : String) :
    Traced FileTree := do
  let d ← Traced.ofExcept ((Document.ofText text).mapError .document)
  let options ← Traced.ofExcept (Options.ofConfiguration c)
  let resolved ← d.resolve options
  Traced.ofExcept (Generator.exportClient { options } tree resolved time output)

end SwiftClient
