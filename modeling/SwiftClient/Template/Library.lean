import SwiftClient.FileTree
import SwiftClient.Template.Page
import SwiftClient.Template.Plain

/-!
# Libraries of templates

A library holds templates by name. A template that is added hides one of its name. In a directory,
the files whose names end in the template extension are templates.
-/
namespace SwiftClient

inductive Template where
  | page (page : Page)
  | plain (pieces : List TemplatePiece)
  deriving DecidableEq

/-- Templates with their names, the one added last first. -/
structure TemplateLibrary where
  entries : List (String × Template) := []

namespace TemplateLibrary

def empty : TemplateLibrary := {}

def get? (l : TemplateLibrary) (name : String) : Option Template := l.entries.lookup name

def add (l : TemplateLibrary) (name : String) (t : Template) : TemplateLibrary :=
  ⟨(name, t) :: l.entries⟩

def addAll (l : TemplateLibrary) (ts : List (String × Template)) : TemplateLibrary :=
  ts.foldl (fun l t => l.add t.1 t.2) l

/-- A template for every page. -/
def standard : TemplateLibrary := empty.addAll (Page.all.map fun p => (p.name, .page p))

def header? (l : TemplateLibrary) (root : PageRoot) (subject : PageSubject) : Option String :=
  match l.get? Page.header.name with
  | some (.page .header) => some (Page.headerCode root).text
  | some (.page _) => none
  | some (.plain pieces) => TemplatePiece.fillAll (PageContext.page root subject).toJson pieces
  | none => none

def hasParts (l : TemplateLibrary) : Bool :=
  match l.get? Page.parts.name with
  | some (.page .parts) => true
  | _ => false

/-- The text of a page, none if what it needs is not there. -/
def page? (l : TemplateLibrary) (root : PageRoot) (subject : PageSubject) : Page → Option String
  | .header => some (Page.headerCode root).text
  | .parts => some (Code.text (List.replicate 11 ""))
  | p => do
    let header ← l.header? root subject
    let body ← p.body? root subject
    if p.usesParts && !l.hasParts then none
    else some (p.preface.text ++ header ++ body.text)

def fill? (l : TemplateLibrary) (c : PageContext) : Template → Option String
  | .plain pieces => TemplatePiece.fillAll c.toJson pieces
  | .page p =>
    match c with
    | .values _ => none
    | .page root subject => l.page? root subject p

def render (l : TemplateLibrary) (name : String) (c : PageContext) : Except Failure String :=
  match l.get? name with
  | none => .error (.template (.notFound name))
  | some t =>
    match l.fill? c t with
    | some text => .ok text
    | none => .error (.template (.notRendered name))

end TemplateLibrary

/-- The name of a template file without the template extension, which needs something before it. -/
def templateStem? (file : String) : Option String :=
  let extension := ".jinja2".toList
  let stem := file.toList.take (file.length - extension.length)
  if stem ≠ [] ∧ file.toList = stem ++ extension then some (String.ofList stem) else none

def templateName? (place : List String) : Option String := do
  let stem ← templateStem? (← place.getLast?)
  return String.intercalate "/" (place.dropLast ++ [stem])

namespace FileTree

def templates (t : FileTree) : List (String × Template) :=
  t.nodes.filterMap fun
    | (place, .file content) =>
      (templateName? place).map (·, .plain (TemplatePiece.ofText content))
    | (_, .directory) => none

/-- The tree at a path, if something stands there. -/
def at? (t : FileTree) (path : String) : Except Failure FileTree :=
  match t.get? (Path.place path) with
  | some _ => .ok (t.below (Path.place path))
  | none => .error .unavailable

/-- The names of the templates at the top of the directory at a path, in order. What is called like
a template counts, even if it is a directory. -/
def templatesAt (t : FileTree) (path : String) : Except Failure (List String) :=
  match t.get? (Path.place path) with
  | some .directory => .ok (Sorted.keys ((t.below (Path.place path)).top.filterMap templateStem?))
  | _ => .error .unavailable

end FileTree

def TemplateLibrary.load (l : TemplateLibrary) (t : FileTree) (path : String) :
    Except Failure TemplateLibrary := do
  return l.addAll (← t.at? path).templates

end SwiftClient
