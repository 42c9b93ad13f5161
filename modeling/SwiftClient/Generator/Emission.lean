import Mathlib.Logic.Relation
import SwiftClient.Generator.Basic

/-!
# Emitting files at a time

The files of jobs are emitted side by side. An emission fills its template, makes the directories
above its file, opens the file, which leaves it empty, and writes the text. Any emission may do its
next step at any moment; the first failure ends them all.
-/
namespace SwiftClient

/-- What a job does to the files once its template is filled. -/
def Job.changes (j : Job) (text : String) : List FileChange :=
  FileChange.ofFile j.output "" ++ [.file (Path.place j.output) text]

structure Emission where
  job : Job
  /-- The changes that are left, none before the template is filled. -/
  left : Option (List FileChange)

namespace Emission

def start (job : Job) : Emission := ⟨job, none⟩

/-- What the next step does to the files. -/
def act (l : TemplateLibrary) (e : Emission) (t : FileTree) : Except Failure FileTree :=
  match e.left with
  | none => (e.job.render l).map fun _ => t
  | some [] => .ok t
  | some (c :: _) => t.change c

/-- The emission after a step that did not fail. -/
def rest (l : TemplateLibrary) (e : Emission) : Emission :=
  match e.left with
  | none => { e with left := (e.job.render l).toOption.map fun file => e.job.changes file.2 }
  | some changes => { e with left := some changes.tail }

end Emission

inductive Progress where
  | running (files : FileTree) (emissions : List Emission)
  | failed (failure : Failure)

namespace Progress

def start (t : FileTree) (jobs : List Job) : Progress := running t (jobs.map .start)

/-- Goes on with emissions unless something failed. -/
def of (files : Except Failure FileTree) (emissions : List Emission) : Progress :=
  match files with
  | .ok t => running t emissions
  | .error failure => failed failure

/-- What becomes of everything when one emission does its next step. -/
def next? (l : TemplateLibrary) (i : Nat) : Progress → Option Progress
  | failed _ => none
  | running t emissions => do
    let e ← emissions[i]?
    if e.left = some [] then none else some (of (e.act l t) (emissions.set i (e.rest l)))

/-- One emission, whichever, does its next step. -/
def Step (l : TemplateLibrary) (s s' : Progress) : Prop := ∃ i, s.next? l i = some s'

/-- What may come of emissions in some order of their steps. -/
def Reaches (l : TemplateLibrary) : Progress → Progress → Prop := Relation.ReflTransGen (Step l)

def IsOver (l : TemplateLibrary) (s : Progress) : Prop := ∀ i, s.next? l i = none

/-- The files, if nothing failed. -/
def files? : Progress → Option FileTree
  | running t _ => some t
  | failed _ => none

end Progress

end SwiftClient
