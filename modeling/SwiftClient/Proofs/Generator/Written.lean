import SwiftClient.Proofs.Correspondence
import SwiftClient.Proofs.Generator.Emission
import SwiftClient.Proofs.Generator.Outputs

/-!
# Written clients

When the class names of a document keep its files apart, emitting them at a time writes each file
as its template makes it and touches no other file, whatever is done first.
-/
namespace SwiftClient

open Naming (className)

variable {l : TemplateLibrary} {t t' : FileTree}

/-- The file at a path holds what a template makes of a context. -/
def FileTree.Holds (t : FileTree) (l : TemplateLibrary) (path template : String)
    (c : PageContext) : Prop :=
  ∃ text, l.render template c = .ok text ∧ t.content? (Path.place path) = some text

lemma Job.render_eq_ok {j : Job} {file : String × String} (h : j.render l = .ok file) :
    file.1 = j.output ∧ l.render j.template j.context = .ok file.2 := by
  obtain ⟨text, htext, heq⟩ := Outcome.bind_eq_ok.mp h
  cases heq
  exact ⟨rfl, htext⟩

/-- Files that are written one after another, at different places, are all there in the end. -/
lemma FileTree.content?_writes {files : List (String × String)}
    (hplaces : (files.map fun file => Path.place file.1).Nodup)
    (h : files.foldlM (fun (t : FileTree) file => t.write file.1 file.2) t = .ok t') :
    (∀ file ∈ files, t'.content? (Path.place file.1) = some file.2) ∧
      ∀ p ∉ files.map fun file => Path.place file.1, t'.content? p = t.content? p := by
  induction files generalizing t with
  | nil =>
    cases h
    exact ⟨by simp, fun _ _ => rfl⟩
  | cons file files ih =>
    obtain ⟨t₁, hfirst, hrest⟩ := Outcome.bind_eq_ok.mp h
    rw [List.map_cons, List.nodup_cons] at hplaces
    obtain ⟨hthere, hothers⟩ := ih hplaces.2 hrest
    refine ⟨?_, fun p hp => ?_⟩
    · rw [List.forall_mem_cons]
      refine ⟨?_, hthere⟩
      rw [hothers _ hplaces.1, content?_write hfirst, if_pos rfl]
    · rw [List.map_cons, List.mem_cons, not_or] at hp
      rw [hothers p hp.2, content?_write hfirst, if_neg hp.1]

/-- Jobs that are run leave what their templates make, and nothing else. -/
theorem FileTree.run_spec {jobs : List Job}
    (hplaces : (jobs.map fun j => Path.place j.output).Nodup) (h : t.run l jobs = .ok t') :
    (∀ j ∈ jobs, t'.Holds l j.output j.template j.context) ∧
      ∀ p ∉ jobs.map fun j => Path.place j.output, t'.content? p = t.content? p := by
  obtain ⟨files, hrenders, hwrites⟩ := Outcome.bind_eq_ok.mp h
  have hfiles := Outcome.mapM_eq_ok.mp hrenders
  have houtputs : files.map (fun file => Path.place file.1) =
      jobs.map fun j => Path.place j.output :=
    map_eq_map_of_forall₂ hfiles fun j file hrender => by rw [(Job.render_eq_ok hrender).1]
  obtain ⟨hthere, hothers⟩ := FileTree.content?_writes (houtputs ▸ hplaces) hwrites
  refine ⟨fun j hj => ?_, houtputs ▸ hothers⟩
  obtain ⟨file, hfile, hrender⟩ := exists_mem_of_forall₂ hfiles hj
  obtain ⟨houtput, htext⟩ := Job.render_eq_ok hrender
  exact ⟨file.2, htext, houtput ▸ hthere file hfile⟩

lemma FileTree.run_eq_none {jobs : List Job} {j : Job} {failure : Failure} (hj : j ∈ jobs)
    (h : j.render l = .error failure) : (t.run l jobs).toOption = none := by
  cases hrun : t.run l jobs with
  | error => rfl
  | ok t' =>
    obtain ⟨files, hrenders, -⟩ := Outcome.bind_eq_ok.mp hrun
    obtain ⟨file, -, hrender⟩ := exists_mem_of_forall₂ (Outcome.mapM_eq_ok.mp hrenders) hj
    rw [h] at hrender
    cases hrender

namespace ResolvedDocument

/-- What keeps the files of a plan apart: class names, and the names of the other files. -/
structure KeepsFilesApart (d : ResolvedDocument) (support security : List String) : Prop where
  nodup_schemas : (d.schemas.map (·.className)).Nodup
  nodup_groups : ((d.groups.filter fun g => !g.operations.isEmpty).map (·.className)).Nodup
  schemaNames : ∀ c ∈ d.schemas.map (·.className), ∃ name, c = className name
  groupNames : ∀ c ∈ (d.groups.filter fun g => !g.operations.isEmpty).map (·.className),
    ∃ name, c = className name
  relative : Path.isAbsolute d.options.sourcePath = false
  descending : Path.IsDescending d.options.sourcePath
  nodup_support : support.Nodup
  nodup_security : security.Nodup
  fileNames : ∀ n ∈ support ++ security, '/' ∉ n.toList ∧ Path.IsName n

/-- Each part of a document stands in its file as its template makes it. -/
structure IsWritten (d : ResolvedDocument) (l : TemplateLibrary) (root : PageRoot) (output : String)
    (support security : List String) (t : FileTree) : Prop where
  groups : ∀ g ∈ d.groups, g.operations ≠ [] →
    t.Holds l (d.sourceOutput output ("APIs", g.className ++ "Api.swift")) Page.api.name
      (.page root (.api g d.servers))
  schemas : ∀ s ∈ d.schemas,
    t.Holds l (d.sourceOutput output ("Models", s.className ++ ".swift")) (Page.ofSchema s).name
      (.page root (.schema s))
  support : ∀ n ∈ support,
    t.Holds l (d.sourceOutput output ("Support", n)) ("support/" ++ n) (.page root .client)
  security : ∀ n ∈ security,
    t.Holds l (d.sourceOutput output ("Security", n)) ("security/" ++ n)
      (.page root (.security d.securitySchemes))
  package : t.Holds l (Path.join output "Package.swift") Page.package.name
    (.page root (.package d.info))

variable {d : ResolvedDocument} {root : PageRoot} {output : String} {support security : List String}

lemma KeepsFilesApart.nodup (h : d.KeepsFilesApart support security) (root : PageRoot)
    (output : String) :
    ((d.plan root output support security).map (·.output)).Nodup ∧
      ((d.plan root output support security).map fun j => Path.place j.output).Nodup := by
  have hfiles : ∀ file ∈ d.sourceFiles support security, IsSourceFile file := fun file =>
    of_mem_sourceFiles h.schemaNames h.groupNames fun n hn => (h.fileNames n hn).1
  have hnodup : (d.sourceFiles support security).Nodup :=
    (nodup_sourceFiles_iff h.nodup_support h.nodup_security).mpr ⟨h.nodup_schemas, h.nodup_groups⟩
  have hnames : ∀ file ∈ d.sourceFiles support security, Path.IsName file.2 := fun file =>
    isName_of_mem_sourceFiles fun n hn => (h.fileNames n hn).2
  exact ⟨(nodup_outputs_iff h.relative hfiles).mpr hnodup,
    (nodup_places_iff h.relative h.descending hfiles hnames).mpr hnodup⟩

lemma isWritten_of_holds
    (h : ∀ j ∈ d.plan root output support security, t.Holds l j.output j.template j.context) :
    d.IsWritten l root output support security t := by
  unfold plan at h
  simp only [List.forall_mem_append, apiJobs, modelJobs, supportJobs, securityJobs,
    List.forall_mem_map, List.forall_mem_singleton, List.mem_filter] at h
  obtain ⟨⟨⟨⟨hgroups, hschemas⟩, hsupport⟩, hsecurity⟩, hpackage⟩ := h
  refine ⟨fun g hg hoperations => hgroups g ⟨hg, ?_⟩, hschemas, hsupport, hsecurity, hpackage⟩
  simpa using hoperations

/-- However the steps of emitting a plan are ordered, they come to an end; they have succeeded then
if filling the templates and writing the files one by one does, and have led to the same files. -/
theorem emit_plan_in_any_order (h : d.KeepsFilesApart support security) (root : PageRoot)
    (output : String) (l : TemplateLibrary) (t : FileTree) :
    let jobs := d.plan root output support security
    (jobs.map (·.output)).Nodup ∧
      (jobs.map fun j => Path.place j.output).Nodup ∧
      ∀ s, Progress.Reaches l (.start t jobs) s →
        (∃ s', s.Reaches l s' ∧ s'.IsOver l) ∧
        (s.IsOver l →
          s.files? = (t.run l jobs).toOption ∧
          (∀ t', s.files? = some t' → d.IsWritten l root output support security t' ∧
            ∀ p ∉ jobs.map fun j => Path.place j.output, t'.content? p = t.content? p) ∧
          ((∃ j ∈ jobs, ∃ failure, j.render l = .error failure) → s.files? = none)) := by
  intro jobs
  obtain ⟨houtputs, hplaces⟩ := h.nodup root output
  refine ⟨houtputs, hplaces, fun s hs => ?_⟩
  obtain ⟨hends, hagrees⟩ := Progress.emit_in_any_order l t hplaces s hs
  refine ⟨hends, fun hover => ⟨hagrees hover, fun t' ht' => ?_, ?_⟩⟩
  · have hrun : t.run l jobs = .ok t' := by
      rw [hagrees hover] at ht'
      cases hrun : t.run l jobs with
      | error => rw [hrun] at ht'; cases ht'
      | ok => rw [hrun] at ht'; cases ht'; rfl
    obtain ⟨hholds, hothers⟩ := FileTree.run_spec hplaces hrun
    exact ⟨isWritten_of_holds hholds, hothers⟩
  · rintro ⟨j, hj, failure, hrender⟩
    rw [hagrees hover, FileTree.run_eq_none hj hrender]

end ResolvedDocument

namespace Document

lemma keepsFilesApart {doc : Document} {options : Options} {d : ResolvedDocument}
    (h : (doc.resolve options).result = .ok d) (hown : doc.HasOwnFiles)
    (hrelative : Path.isAbsolute d.options.sourcePath = false)
    (hdescending : Path.IsDescending d.options.sourcePath) {support security : List String}
    (hsupport : support.Nodup) (hsecurity : security.Nodup)
    (hnames : ∀ n ∈ support ++ security, '/' ∉ n.toList ∧ Path.IsName n) :
    d.KeepsFilesApart support security := by
  obtain ⟨hschemas, hgroups⟩ := resolve_classNames h
  obtain ⟨hschemaNames, hgroupNames⟩ := exists_name_of_resolve h
  refine ⟨?_, ?_, hschemaNames, hgroupNames, hrelative, hdescending, hsupport, hsecurity, hnames⟩
  · rw [hschemas]
    exact hown.schemas
  · rw [hgroups]
    exact hown.groups

end Document

open Document in
/-- Two models, a support file, a security file and the package are written into an empty tree. -/
theorem ResolvedDocument.emit_plan_in_any_order_petAndShop :
    ∃ d, ((objects ["pet", "Shop"]).resolve .default).result = .ok d ∧
      ∃ t', ∀ s, Progress.Reaches .standard
          (.start .empty
            (d.plan ⟨.default, none⟩ "out" ["Nullable.swift"] ["Credentials.swift"])) s →
        s.IsOver .standard → s.files? = some t' ∧
          d.IsWritten .standard ⟨.default, none⟩ "out" ["Nullable.swift"]
            ["Credentials.swift"] t' := by
  obtain ⟨d, h, hsource, hruns⟩ : ∃ d,
      ((objects ["pet", "Shop"]).resolve .default).result = .ok d ∧
        d.options.sourcePath = "Sources/Api" ∧
          (FileTree.empty.run .standard (d.plan ⟨.default, none⟩ "out" ["Nullable.swift"]
            ["Credentials.swift"])).toOption.isSome := by
    decide +kernel
  obtain ⟨t', ht'⟩ := Option.isSome_iff_exists.mp hruns
  have hown : (objects ["pet", "Shop"]).HasOwnFiles :=
    ⟨by decide +kernel, by decide +kernel⟩
  have happart : d.KeepsFilesApart ["Nullable.swift"] ["Credentials.swift"] := by
    refine keepsFilesApart h hown ?_ ?_ (List.nodup_singleton _) (List.nodup_singleton _) ?_
    · rw [hsource]
      rfl
    · rw [hsource, Path.IsDescending]
      decide
    · simp [Path.IsName]
  refine ⟨d, h, t', fun s hs hover => ?_⟩
  obtain ⟨-, -, hall⟩ := emit_plan_in_any_order happart ⟨.default, none⟩ "out" .standard .empty
  obtain ⟨hagrees, hwritten, -⟩ := (hall s hs).2 hover
  rw [ht'] at hagrees
  exact ⟨hagrees, (hwritten t' hagrees).1⟩

end SwiftClient
