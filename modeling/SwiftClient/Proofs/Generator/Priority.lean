import SwiftClient.Generator.Basic
import SwiftClient.Proofs.Outcome

/-!
# Which template counts

Templates are loaded one directory after another, and one that is added replaces what had its name.
So a name means the custom template of that name; if there is none, that of the first extension that
has one, and within the extension of the last directory that has one; and if there is none either,
the built-in one.
-/
namespace SwiftClient

variable {tree : FileTree} {l l' : TemplateLibrary}

def lastNamed (templates : List (String × Template)) (name : String) : Option Template :=
  (templates.filter (·.1 == name)).getLast?.map (·.2)

def FileTree.template? (t : FileTree) (path name : String) : Option Template :=
  lastNamed (t.below (Path.place path)).templates name

/-- The last directory that has a template of the name counts. -/
def Extension.template? (e : Extension) (tree : FileTree) (name : String) : Option Template :=
  e.templates.reverse.findSome? (tree.template? · name)

def BuiltIn.template? (b : BuiltIn) (tree : FileTree) (name : String) : Option Template :=
  match b with
  | standard => TemplateLibrary.standard.get? name
  | directory path => tree.template? path name

/-- The template that a name means. -/
def Generator.template? (g : Generator) (tree : FileTree) (name : String) : Option Template :=
  (g.options.customTemplates.bind (tree.template? · name)).or
    ((g.extensions.findSome? (·.template? tree name)).or (g.builtIn.template? tree name))

/-- All directories that templates are loaded from are there. -/
def Generator.HasDirectories (g : Generator) (tree : FileTree) : Prop :=
  ∀ path ∈ g.builtIn.watched ++ g.templatePaths, (tree.get? (Path.place path)).isSome

lemma lastNamed_cons (t : String × Template) (ts : List (String × Template)) (name : String) :
    lastNamed (t :: ts) name = (lastNamed ts name).or (if t.1 = name then some t.2 else none) := by
  unfold lastNamed
  rw [List.filter_cons]
  by_cases ht : t.1 = name
  · rw [if_pos (beq_iff_eq.mpr ht), if_pos ht, List.getLast?_cons]
    cases (ts.filter (·.1 == name)).getLast? <;> rfl
  · rw [if_neg (by simpa using ht), if_neg ht, Option.or_none]

namespace TemplateLibrary

lemma get?_add (t : String × Template) (name : String) :
    (l.add t.1 t.2).get? name = (if t.1 = name then some t.2 else none).or (l.get? name) := by
  unfold add get?
  rw [List.lookup_cons]
  by_cases ht : t.1 = name
  · rw [if_pos ht, beq_iff_eq.mpr ht.symm]
    rfl
  · rw [if_neg ht, beq_false_of_ne (Ne.symm ht)]
    rfl

lemma get?_addAll (ts : List (String × Template)) (name : String) :
    (l.addAll ts).get? name = (lastNamed ts name).or (l.get? name) := by
  induction ts generalizing l with
  | nil => rfl
  | cons t ts ih =>
    have hstep : l.addAll (t :: ts) = (l.add t.1 t.2).addAll ts := rfl
    rw [hstep, ih, get?_add, lastNamed_cons, Option.or_assoc]

lemma load_spec {path : String} (l : TemplateLibrary)
    (h : (tree.get? (Path.place path)).isSome) :
    ∃ l', l.load tree path = .ok l' ∧
      ∀ name, l'.get? name = (tree.template? path name).or (l.get? name) := by
  obtain ⟨node, hnode⟩ := Option.isSome_iff_exists.mp h
  refine ⟨l.addAll (tree.below (Path.place path)).templates, ?_, fun name => get?_addAll _ name⟩
  unfold load FileTree.at?
  rw [hnode]
  rfl

lemma render_eq (l : TemplateLibrary) (name : String) (context : PageContext) :
    l.render name context = (l.get? name).elim (.error (.template (.notFound name))) fun t =>
      (l.fill? context t).elim (.error (.template (.notRendered name))) .ok := by
  unfold render
  cases l.get? name with
  | none => rfl
  | some t =>
    dsimp only [Option.elim_some]
    cases l.fill? context t <;> rfl

/-- Of several directories the last one that has a template of a name counts. -/
lemma loadAll_spec {paths : List String} (l : TemplateLibrary)
    (h : ∀ path ∈ paths, (tree.get? (Path.place path)).isSome) :
    ∃ l', paths.foldlM (fun l path => l.load tree path) l = .ok l' ∧
      ∀ name, l'.get? name =
        (paths.reverse.findSome? (tree.template? · name)).or (l.get? name) := by
  induction paths generalizing l with
  | nil => exact ⟨l, rfl, fun _ => rfl⟩
  | cons path paths ih =>
    rw [List.forall_mem_cons] at h
    obtain ⟨l₁, hload, hfirst⟩ := load_spec l h.1
    obtain ⟨l', hrest, hothers⟩ := ih l₁ h.2
    refine ⟨l', ?_, fun name => ?_⟩
    · rw [List.foldlM_cons, hload]
      exact hrest
    · rw [hothers, hfirst, List.reverse_cons, List.findSome?_append, Option.or_assoc]
      simp

end TemplateLibrary

lemma findSome?_flatMap {α β γ : Type} (f : α → List β) (g : β → Option γ) (xs : List α) :
    (xs.flatMap f).findSome? g = xs.findSome? fun x => (f x).findSome? g := by
  induction xs with
  | nil => rfl
  | cons x xs ih =>
    rw [List.flatMap_cons, List.findSome?_append, ih, List.findSome?_cons]
    cases (f x).findSome? g <;> rfl

namespace Generator

variable {g : Generator}

lemma reverse_templatePaths (g : Generator) :
    g.templatePaths.reverse =
      g.options.customTemplates.toList ++ g.extensions.flatMap (·.templates.reverse) := by
  unfold templatePaths
  rw [List.reverse_append, List.reverse_flatMap, List.reverse_reverse]
  cases g.options.customTemplates <;> rfl

lemma builtIn_spec (h : ∀ path ∈ g.builtIn.watched, (tree.get? (Path.place path)).isSome) :
    ∃ l, g.builtIn.library tree = .ok l ∧
      ∀ name, l.get? name = g.builtIn.template? tree name := by
  cases hb : g.builtIn with
  | standard => exact ⟨.standard, rfl, fun _ => rfl⟩
  | directory path =>
    rw [hb, BuiltIn.watched, List.forall_mem_singleton] at h
    obtain ⟨l, hload, hget⟩ := TemplateLibrary.load_spec .empty h
    refine ⟨l, hload, fun name => ?_⟩
    rw [hget]
    exact Option.or_none

/-- The template that a name means is the first that is met from the last directory back. -/
lemma template?_eq (g : Generator) (tree : FileTree) (name : String) :
    g.template? tree name =
      (g.templatePaths.reverse.findSome? (tree.template? · name)).or
        (g.builtIn.template? tree name) := by
  have hextensions : g.extensions.findSome? (·.template? tree name) =
      (g.extensions.flatMap (·.templates.reverse)).findSome? (tree.template? · name) :=
    (findSome?_flatMap _ _ _).symm
  rw [reverse_templatePaths, List.findSome?_append, Option.or_assoc, ← hextensions]
  unfold template?
  cases g.options.customTemplates with
  | none => rfl
  | some path => simp

/-- When all its directories are there, a generator renders all files with a library in which each
name means the custom template of that name, else that of the first extension that has one, else the
built-in one. What is rendered under a name is this template, filled from the context. -/
theorem library_spec (h : g.HasDirectories tree) :
    ∃ l, g.library tree = .ok l ∧ (∀ name, l.get? name = g.template? tree name) ∧
      (∀ name context, l.render name context =
        (g.template? tree name).elim (.error (.template (.notFound name))) fun t =>
          (l.fill? context t).elim (.error (.template (.notRendered name))) .ok) ∧
      ∀ d time output, g.exportClient tree d time output =
        g.plan tree d time output >>= fun jobs => tree.run l jobs >>= fun written =>
          written.runInTurn l (g.extensionJobs d time output) := by
  unfold HasDirectories at h
  rw [List.forall_mem_append] at h
  obtain ⟨base, hbase, hbuiltIn⟩ := builtIn_spec h.1
  obtain ⟨l, hload, hget⟩ := TemplateLibrary.loadAll_spec base h.2
  have hlibrary : g.library tree = .ok l := by
    unfold library
    rw [hbase]
    exact hload
  have hmeant : ∀ name, l.get? name = g.template? tree name := by
    intro name
    rw [hget, hbuiltIn, template?_eq]
  refine ⟨l, hlibrary, hmeant, fun name context => ?_, fun d time output => ?_⟩
  · rw [TemplateLibrary.render_eq, hmeant]
  · unfold exportClient
    rw [hlibrary]
    rfl

/-- Two extensions, the first with two directories, and custom templates. -/
def layered : Generator where
  options := { Options.default with customTemplates := some "custom" }
  extensions := [{ name := "first", templates := ["basic", "fancy"] },
    { name := "second", templates := ["plain"] }]

def layers : FileTree where
  nodes := [(["basic"], .directory), (["basic", "api.jinja2"], .file "basic"),
    (["basic", "enum.jinja2"], .file "basic"), (["custom"], .directory),
    (["custom", "oneOf.jinja2"], .file "custom"), (["fancy"], .directory),
    (["fancy", "api.jinja2"], .file "fancy"), (["plain"], .directory),
    (["plain", "api.jinja2"], .file "plain"), (["plain", "enum.jinja2"], .file "plain"),
    (["plain", "oneOf.jinja2"], .file "plain"), (["plain", "wrapper.jinja2"], .file "plain")]

theorem library_spec_layered :
    layered.HasDirectories layers ∧ ∃ l, layered.library layers = .ok l ∧
      l.get? "oneOf" = some (.plain [.text "custom"]) ∧
      l.get? "api" = some (.plain [.text "fancy"]) ∧
      l.get? "enum" = some (.plain [.text "basic"]) ∧
      l.get? "wrapper" = some (.plain [.text "plain"]) ∧
      l.get? "header" = some (.page .header) ∧ l.get? "footer" = none ∧
      (∀ context, l.render "oneOf" context = .ok "custom") ∧
      ∀ context, l.render "footer" context = .error (.template (.notFound "footer")) := by
  have h : layered.HasDirectories layers := by
    unfold HasDirectories
    decide +kernel
  obtain ⟨l, hlibrary, hget, hrender, -⟩ := library_spec h
  have honeOf : layered.template? layers "oneOf" = some (.plain [.text "custom"]) := by
    decide +kernel
  have hfooter : layered.template? layers "footer" = none := by decide +kernel
  refine ⟨h, l, hlibrary, (hget _).trans honeOf, (hget _).trans (by decide +kernel),
    (hget _).trans (by decide +kernel), (hget _).trans (by decide +kernel),
    (hget _).trans (by decide +kernel), (hget _).trans hfooter, fun context => ?_,
    fun context => ?_⟩
  · rw [hrender, honeOf]
    rfl
  · rw [hrender, hfooter]
    rfl

end Generator

end SwiftClient
