import SwiftClient.Generator.Plan
import SwiftClient.Proofs.Naming.ClassName
import SwiftClient.Proofs.Path
import SwiftClient.Proofs.Resolution.Names

/-!
# Where the files of a client go

The files of a plan go to different paths, and to different places, exactly when the class names of
the schemas at the top differ and so do those of the groups with operations. Documents are not
checked for that.
-/
namespace SwiftClient

open Naming (className)

namespace ResolvedDocument

variable {d : ResolvedDocument} {root : PageRoot} {output : String} {support security : List String}

/-- The directories, below that of sources, and the names of the files of a plan. -/
def sourceFiles (d : ResolvedDocument) (support security : List String) : List (String × String) :=
  ((d.groups.filter fun g => !g.operations.isEmpty).map (·.className)).map
      (fun c => ("APIs", c ++ "Api.swift"))
    ++ (d.schemas.map (·.className)).map (fun c => ("Models", c ++ ".swift"))
    ++ support.map (fun n => ("Support", n)) ++ security.map (fun n => ("Security", n))

def sourceOutput (d : ResolvedDocument) (output : String) (file : String × String) : String :=
  Path.join (Path.join (Path.join output d.options.sourcePath) file.1) file.2

lemma nodup_map_append_singleton_iff {α β : Type} {f : α → β} {items : List α} {last : β}
    (hinj : ∀ a ∈ items, ∀ b ∈ items, f a = f b → a = b) (hlast : ∀ a ∈ items, f a ≠ last) :
    (items.map f ++ [last]).Nodup ↔ items.Nodup := by
  rw [List.nodup_append', List.disjoint_singleton]
  constructor
  · rintro ⟨h, -, -⟩
    exact h.of_map
  · intro h
    refine ⟨h.map_on hinj, List.nodup_singleton last, ?_⟩
    rw [List.mem_map]
    rintro ⟨a, ha, heq⟩
    exact hlast a ha heq

lemma outputs_eq :
    (d.plan root output support security).map (·.output) =
      (d.sourceFiles support security).map (d.sourceOutput output)
        ++ [Path.join output "Package.swift"] := by
  simp [plan, apiJobs, modelJobs, supportJobs, securityJobs, packageJob, sourceFiles, sourceOutput,
    Function.comp_def]

lemma nodup_sourceFiles_iff (hsupport : support.Nodup) (hsecurity : security.Nodup) :
    (d.sourceFiles support security).Nodup ↔
      (d.schemas.map (·.className)).Nodup ∧
        ((d.groups.filter fun g => !g.operations.isEmpty).map (·.className)).Nodup := by
  have hfolder : ∀ (folder suffix : String) (names : List String),
      (names.map fun c => (folder, c ++ suffix)).Nodup ↔ names.Nodup := by
    intro folder suffix names
    refine List.nodup_map_iff fun a b h => ?_
    exact (String.append_left_inj _).mp (Prod.mk.inj h).2
  have hplain : ∀ (folder : String) (names : List String),
      (names.map fun n => (folder, n)).Nodup ↔ names.Nodup := by
    intro folder names
    exact List.nodup_map_iff fun a b h => (Prod.mk.inj h).2
  unfold sourceFiles
  simp only [List.nodup_append', hfolder, hplain, hsupport, hsecurity, List.disjoint_left,
    List.mem_append, List.mem_map]
  constructor
  · rintro ⟨⟨⟨hgroups, hschemas, -⟩, -⟩, -⟩
    exact ⟨hschemas, hgroups⟩
  · rintro ⟨hschemas, hgroups⟩
    refine ⟨⟨⟨hgroups, hschemas, ?_⟩, trivial, ?_⟩, trivial, ?_⟩
    · rintro _ ⟨c, -, rfl⟩ ⟨c', -, h⟩
      exact absurd (Prod.mk.inj h).1 (by decide)
    · rintro _ (⟨c, -, rfl⟩ | ⟨c, -, rfl⟩) ⟨n, -, h⟩ <;>
        exact absurd (Prod.mk.inj h).1 (by decide)
    · rintro _ ((⟨c, -, rfl⟩ | ⟨c, -, rfl⟩) | ⟨n, -, rfl⟩) ⟨n', -, h⟩ <;>
        exact absurd (Prod.mk.inj h).1 (by decide)

/-- A directory of a plan, and the name of a file that stays in it. -/
def IsSourceFile (file : String × String) : Prop :=
  file.1 ∈ ["APIs", "Models", "Support", "Security"] ∧ '/' ∉ file.2.toList

lemma of_mem_sourceFiles
    (hschemas : ∀ c ∈ d.schemas.map (·.className), ∃ name, c = className name)
    (hgroups : ∀ c ∈ (d.groups.filter fun g => !g.operations.isEmpty).map (·.className),
      ∃ name, c = className name)
    (hnames : ∀ n ∈ support ++ security, '/' ∉ n.toList) {file : String × String}
    (h : file ∈ d.sourceFiles support security) :
    IsSourceFile file := by
  unfold sourceFiles at h
  simp only [List.mem_append] at h
  rcases h with ((h | h) | h) | h <;> obtain ⟨c, hc, rfl⟩ := List.mem_map.mp h
  · exact ⟨by simp, by simpa using Naming.slash_not_mem_of_exists_name hgroups c hc⟩
  · exact ⟨by simp, by simpa using Naming.slash_not_mem_of_exists_name hschemas c hc⟩
  · exact ⟨by simp, hnames c (List.mem_append_left _ hc)⟩
  · exact ⟨by simp, hnames c (List.mem_append_right _ hc)⟩

lemma isName_of_mem_sourceFiles (hnames : ∀ n ∈ support ++ security, Path.IsName n)
    {file : String × String} (h : file ∈ d.sourceFiles support security) :
    Path.IsName file.2 := by
  unfold sourceFiles at h
  simp only [List.mem_append] at h
  rcases h with ((h | h) | h) | h <;> obtain ⟨c, hc, rfl⟩ := List.mem_map.mp h
  · exact Path.isName_append (by decide)
  · exact Path.isName_append (by decide)
  · exact hnames c (List.mem_append_left _ hc)
  · exact hnames c (List.mem_append_right _ hc)

lemma folder_spec {folder : String} (h : folder ∈ ["APIs", "Models", "Support", "Security"]) :
    '/' ∉ folder.toList ∧ Path.IsName folder := by
  simp only [List.mem_cons, List.not_mem_nil, or_false] at h
  rcases h with rfl | rfl | rfl | rfl <;> exact ⟨by decide, by decide, by decide, by decide⟩

lemma sourceOutput_eq {folder name : String} (hfolder : '/' ∉ folder.toList) (hne : folder ≠ "")
    (hsource : Path.isAbsolute d.options.sourcePath = false) (hname : '/' ∉ name.toList) :
    d.sourceOutput output (folder, name) =
      Path.below output ++ (Path.below d.options.sourcePath ++ (folder ++ "/" ++ name)) := by
  unfold sourceOutput
  rw [Path.join_eq (Path.isAbsolute_of_not_mem hname),
    Path.below_join (Path.isAbsolute_of_not_mem hfolder), Path.below_join hsource,
    Path.below_of_not_mem hfolder hne]
  simp only [String.append_assoc]

lemma place_sourceOutput {folder name : String} (hfolder : '/' ∉ folder.toList)
    (hfolderName : Path.IsName folder) (hname : '/' ∉ name.toList) (hnameName : Path.IsName name) :
    Path.place (d.sourceOutput output (folder, name)) =
      Path.place (Path.join output d.options.sourcePath) ++ [folder, name] := by
  unfold sourceOutput
  rw [Path.place_join_name hname hnameName, Path.place_join_name hfolder hfolderName,
    List.append_assoc]
  rfl

/-- A slash tells where the name of the directory ends. -/
lemma folder_append_inj {folder folder' name name' : String} (hfolder : '/' ∉ folder.toList)
    (hfolder' : '/' ∉ folder'.toList) (hname : '/' ∉ name.toList) (hname' : '/' ∉ name'.toList)
    (h : folder ++ "/" ++ name = folder' ++ "/" ++ name') : folder = folder' ∧ name = name' := by
  have hsegments : ∀ {a b : String}, '/' ∉ a.toList → '/' ∉ b.toList →
      Path.segments (a ++ "/" ++ b).toList = [a.toList, b.toList] := by
    intro a b ha hb
    have happend : (a ++ "/" ++ b).toList = a.toList ++ '/' :: b.toList := by simp
    rw [happend, Path.segments_append, Path.segments_eq_singleton ha,
      Path.segments_eq_singleton hb]
    rfl
  have heq := hsegments hfolder hname
  rw [h, hsegments hfolder' hname'] at heq
  simp only [List.cons.injEq, String.toList_inj, and_true] at heq
  exact ⟨heq.1.symm, heq.2.symm⟩

lemma sourceOutput_eq_below (hsource : Path.isAbsolute d.options.sourcePath = false)
    {file : String × String} (h : IsSourceFile file) :
    d.sourceOutput output file =
      Path.below output ++ (Path.below d.options.sourcePath ++ (file.1 ++ "/" ++ file.2)) := by
  obtain ⟨hslash, hne, -⟩ := folder_spec h.1
  exact sourceOutput_eq hslash hne hsource h.2

lemma sourceOutput_inj (hsource : Path.isAbsolute d.options.sourcePath = false)
    {file file' : String × String} (h : IsSourceFile file) (h' : IsSourceFile file')
    (heq : d.sourceOutput output file = d.sourceOutput output file') : file = file' := by
  rw [sourceOutput_eq_below hsource h, sourceOutput_eq_below hsource h', String.append_right_inj,
    String.append_right_inj] at heq
  obtain ⟨h₁, h₂⟩ := folder_append_inj (folder_spec h.1).1 (folder_spec h'.1).1 h.2 h'.2 heq
  exact Prod.ext h₁ h₂

lemma sourceOutput_ne_package (hsource : Path.isAbsolute d.options.sourcePath = false)
    {file : String × String} (h : IsSourceFile file) :
    d.sourceOutput output file ≠ Path.join output "Package.swift" := by
  intro heq
  rw [sourceOutput_eq_below hsource h, Path.join_eq rfl, String.append_right_inj] at heq
  have hslash : '/' ∈ "Package.swift".toList := by
    rw [← heq]
    simp
  exact absurd hslash (by decide)

theorem nodup_outputs_iff (hsource : Path.isAbsolute d.options.sourcePath = false)
    (hfiles : ∀ file ∈ d.sourceFiles support security, IsSourceFile file) :
    ((d.plan root output support security).map (·.output)).Nodup ↔
      (d.sourceFiles support security).Nodup := by
  rw [outputs_eq]
  exact nodup_map_append_singleton_iff
    (fun file hfile file' hfile' => sourceOutput_inj hsource (hfiles file hfile)
      (hfiles file' hfile'))
    fun file hfile => sourceOutput_ne_package hsource (hfiles file hfile)

theorem nodup_places_iff (hrelative : Path.isAbsolute d.options.sourcePath = false)
    (hsource : Path.IsDescending d.options.sourcePath)
    (hfiles : ∀ file ∈ d.sourceFiles support security, IsSourceFile file)
    (hnames : ∀ file ∈ d.sourceFiles support security, Path.IsName file.2) :
    ((d.plan root output support security).map fun j => Path.place j.output).Nodup ↔
      (d.sourceFiles support security).Nodup := by
  have hplace : ∀ file ∈ d.sourceFiles support security,
      Path.place (d.sourceOutput output file) =
        Path.place (Path.join output d.options.sourcePath) ++ [file.1, file.2] := by
    intro file hfile
    obtain ⟨hfolder, hname⟩ := hfiles file hfile
    obtain ⟨hslash, hfolderName⟩ := folder_spec hfolder
    exact place_sourceOutput hslash hfolderName hname (hnames file hfile)
  have hinj : ∀ file ∈ d.sourceFiles support security, ∀ file' ∈ d.sourceFiles support security,
      Path.place (d.sourceOutput output file) = Path.place (d.sourceOutput output file') →
        file = file' := by
    intro file hfile file' hfile' h
    rw [hplace file hfile, hplace file' hfile', List.append_cancel_left_eq] at h
    simp only [List.cons.injEq, and_true] at h
    exact Prod.ext h.1 h.2
  -- the sources lie below the output, and the package file lies in it
  have hpackage : ∀ file ∈ d.sourceFiles support security,
      Path.place (d.sourceOutput output file) ≠ Path.place (Path.join output "Package.swift") := by
    intro file hfile heq
    rw [hplace file hfile, Path.place_join_names hrelative hsource,
      Path.place_join_name (by decide) ⟨by decide, by decide, by decide⟩, List.append_assoc,
      List.append_cancel_left_eq] at heq
    have hlength := congrArg List.length heq
    simp at hlength
  rw [← Function.comp_def, ← List.map_map, outputs_eq, List.map_append, List.map_map,
    List.map_singleton]
  exact nodup_map_append_singleton_iff hinj hpackage

end ResolvedDocument

/-- What it takes for the files of a document to have names of their own. -/
structure Document.HasOwnFiles (d : Document) : Prop where
  schemas : (d.schemas.map fun s => className s.name).Nodup
  groups : ((d.groups.filter fun g => !g.operations.isEmpty).map fun g => className g.name).Nodup

/-- The files of a plan differ exactly when class names do. -/
theorem Document.nodup_plan_iff {doc : Document} {d : ResolvedDocument}
    (h : (doc.resolve .default).result = .ok d) (root : PageRoot) (output : String)
    {support security : List String} (hsupport : support.Nodup) (hsecurity : security.Nodup)
    (hslash : ∀ n ∈ support ++ security, '/' ∉ n.toList) :
    (((d.plan root output support security).map (·.output)).Nodup ↔ doc.HasOwnFiles) ∧
      ((∀ n ∈ support ++ security, Path.IsName n) →
        (((d.plan root output support security).map fun j => Path.place j.output).Nodup ↔
          doc.HasOwnFiles)) := by
  obtain ⟨hschemas, hgroups⟩ := resolve_classNames h
  have hoptions : d.options = .default := options_of_resolve h
  have hown : (d.sourceFiles support security).Nodup ↔ doc.HasOwnFiles := by
    rw [ResolvedDocument.nodup_sourceFiles_iff hsupport hsecurity, hschemas, hgroups]
    exact ⟨fun ⟨hs, hg⟩ => ⟨hs, hg⟩, fun ⟨hs, hg⟩ => ⟨hs, hg⟩⟩
  obtain ⟨hschemaNames, hgroupNames⟩ := exists_name_of_resolve h
  have hfiles : ∀ file ∈ d.sourceFiles support security, ResolvedDocument.IsSourceFile file :=
    fun file => ResolvedDocument.of_mem_sourceFiles hschemaNames hgroupNames hslash
  have hrelative : Path.isAbsolute d.options.sourcePath = false := by
    rw [hoptions]
    rfl
  constructor
  · exact (ResolvedDocument.nodup_outputs_iff hrelative hfiles).trans hown
  · intro hnames
    refine (ResolvedDocument.nodup_places_iff hrelative ?_ hfiles fun file =>
      ResolvedDocument.isName_of_mem_sourceFiles hnames).trans hown
    have hsegments : (Path.segments Options.default.sourcePath.toList).map String.ofList =
        ["Sources", "Api"] := by decide
    rw [hoptions, Path.IsDescending, hsegments]
    decide

namespace Document

/-- A document of objects without properties. -/
def objects (names : List String) : Document :=
  { Document.titled "Objects" "1" with schemas := names.map fun name => .top name (.object {}) }

/-- Schemas whose names differ in the case of a letter are valid, and share a file. -/
theorem plan_petAndPet :
    ∃ d, ((objects ["pet", "Pet"]).resolve .default).result = .ok d ∧
      ∀ root, ¬((d.plan root "out" [] []).map (·.output)).Nodup := by
  obtain ⟨d, h, hshared⟩ : ∃ d, ((objects ["pet", "Pet"]).resolve .default).result = .ok d ∧
      ¬((d.sourceFiles [] []).map (d.sourceOutput "out")).Nodup := by
    decide +kernel
  refine ⟨d, h, fun root hnodup => hshared ?_⟩
  rw [ResolvedDocument.outputs_eq] at hnodup
  exact hnodup.of_append_left

theorem nodup_plan_iff_petAndShop :
    ∃ d, ((objects ["pet", "Shop"]).resolve .default).result = .ok d ∧ ∀ root,
      ((d.plan root "out" ["Nullable.swift"] ["Credentials.swift"]).map (·.output)).Nodup ∧
      ((d.plan root "out" ["Nullable.swift"] ["Credentials.swift"]).map fun j =>
        Path.place j.output).Nodup := by
  obtain ⟨d, h⟩ : ∃ d, ((objects ["pet", "Shop"]).resolve .default).result = .ok d := by
    decide +kernel
  have hslash : ∀ n ∈ ["Nullable.swift"] ++ ["Credentials.swift"], '/' ∉ n.toList := by decide
  have hown : (objects ["pet", "Shop"]).HasOwnFiles :=
    ⟨by decide +kernel, by decide +kernel⟩
  refine ⟨d, h, fun root => ?_⟩
  obtain ⟨houtputs, hplaces⟩ := nodup_plan_iff h root "out" (List.nodup_singleton _)
    (List.nodup_singleton _) hslash
  exact ⟨houtputs.mpr hown, (hplaces (by simp [Path.IsName])).mpr hown⟩

end Document

end SwiftClient
