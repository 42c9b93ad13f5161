import SwiftClient.Proofs.Correspondence
import SwiftClient.Proofs.Generator.Outputs
import SwiftClient.Proofs.Generator.Patterns
import SwiftClient.Proofs.Options

/-!
# Files to clean up

The patterns of a generator are made before its options are completed, and the files of a client
after that. The patterns cover the interfaces, models and support files unless the directory of
sources is the output itself.
-/
namespace SwiftClient

open SwiftClient.Path (Covers Matches names)

variable {c : Configuration} {o : Options}

/-- The directory of sources in the patterns of a generator. -/
def patternDirectory (sourcePath : String) : String :=
  if Path.trimSlashes sourcePath = "" then Options.sourcePathOf "*" else Path.trimSlashes sourcePath

/-- A directory that a pattern is for, also as a text if `plain` holds. -/
structure StandsFor (plain : Prop) (pattern directory : String) : Prop where
  relative : Path.isAbsolute directory = false
  covers : Covers pattern directory
  text : plain → Matches (pattern ++ "/").toList (Path.below directory).toList

lemma trimSlashes_ne_empty {path : String} (hrelative : Path.isAbsolute path = false)
    (hne : path ≠ "") : Path.trimSlashes path ≠ "" := by
  intro htrim
  obtain ⟨k, hk⟩ := Path.exists_trimSlashes hrelative
  rw [htrim] at hk
  cases k with
  | zero => exact hne (String.toList_inj.mp hk)
  | succ k => simp [Path.isAbsolute, hk, List.replicate_succ] at hrelative

lemma standsFor_given {path : String} (hrelative : Path.isAbsolute path = false) (hne : path ≠ "") :
    StandsFor (¬['/', '/'] <:+ path.toList) (patternDirectory path) path where
  relative := hrelative
  covers := by
    rw [patternDirectory, if_neg (trimSlashes_ne_empty hrelative hne), Covers,
      Path.names_trimSlashes hrelative]
    exact List.forall₂_same.mpr fun n _ => .refl n.toList
  text hslashes := by
    rw [patternDirectory, if_neg (trimSlashes_ne_empty hrelative hne),
      Path.below_eq_trimSlashes hrelative hne hslashes]
    exact .refl _

lemma isName_className (name : String) : Path.IsName (Naming.className name) := by
  have hpoint : '.' ∉ (Naming.className name).toList :=
    Naming.not_mem_className (by decide) (by decide) (by decide) name
  refine ⟨Naming.className_ne_empty name, fun h => hpoint ?_, fun h => hpoint ?_⟩
  · rw [h]
    decide
  · rw [h]
    decide

/-- A star is for the package that is named after a document. -/
lemma standsFor_inferred (plain : Prop) (title : String) :
    StandsFor plain (patternDirectory "") (Options.sourcePathOf (Naming.className title)) where
  relative := Path.isAbsolute_append (by decide)
  covers := by
    have hpattern : names (patternDirectory "") = ["Sources", "*"] := by decide
    have hdirectory : names (Options.sourcePathOf (Naming.className title)) =
        ["Sources", Naming.className title] := by
      have hsources : names "Sources" = ["Sources"] := by decide
      change names ("Sources" ++ "/" ++ Naming.className title) = _
      rw [Path.names_append, hsources,
        Path.names_name (Naming.slash_not_mem_className title) (isName_className title)]
      rfl
    rw [Covers, hpattern, hdirectory]
    exact .cons (.refl _) (.cons (.any (Naming.slash_not_mem_className title)) .nil)
  text _ := by
    have hpattern : (patternDirectory "" ++ "/").toList =
        "Sources/".toList ++ (['*'] ++ ['/']) := by
      decide
    have hdirectory : (Path.below (Options.sourcePathOf (Naming.className title))).toList =
        "Sources/".toList ++ ((Naming.className title).toList ++ ['/']) := by
      rw [Options.sourcePathOf, Path.below_append (Naming.className_ne_empty title),
        Path.below_of_not_mem (Naming.slash_not_mem_className title)
          (Naming.className_ne_empty title), String.toList_append, String.toList_append]
      rfl
    rw [hpattern, hdirectory]
    exact (Matches.refl _).append
      ((Matches.any (Naming.slash_not_mem_className title)).append (.refl _))

/-- The patterns of a configuration are for the directory of sources of its documents, unless that
is the output itself. -/
lemma standsFor_complete (hrelative : Path.isAbsolute o.sourcePath = false)
    (h : o.sourcePath ≠ "" ∨ o.package = none) (info : Info) :
    StandsFor (¬['/', '/'] <:+ o.sourcePath.toList) (patternDirectory o.sourcePath)
      (o.complete info).sourcePath := by
  by_cases hempty : o.sourcePath = ""
  · have hpackage : o.package = none := h.resolve_left (not_not_intro hempty)
    rw [Options.complete_of_none hpackage]
    simp only [hempty, if_true]
    exact standsFor_inferred _ info.title
  · have hsame : (o.complete info).sourcePath = o.sourcePath := by
      unfold Options.complete
      split
      · rfl
      · exact if_neg hempty
    rw [hsame]
    exact standsFor_given hrelative hempty

lemma StandsFor.file {plain : Prop} {pattern directory folder run ending : String}
    (h : StandsFor plain pattern directory) (hfolder : '/' ∉ folder.toList)
    (hfolderName : Path.IsName folder) (hrun : '/' ∉ run.toList) (hending : '/' ∉ ending.toList)
    (hlong : 2 < ending.length) :
    Covers (pattern ++ "/" ++ (folder ++ "/" ++ ("*" ++ ending)))
        (Path.join (Path.join directory folder) (run ++ ending)) ∧
      (plain → Matches (pattern ++ "/" ++ (folder ++ "/" ++ ("*" ++ ending))).toList
        (Path.join (Path.join directory folder) (run ++ ending)).toList) := by
  have hname : '/' ∉ (run ++ ending).toList := by
    rw [String.toList_append, List.mem_append, not_or]
    exact ⟨hrun, hending⟩
  have hstar : '/' ∉ ("*" ++ ending).toList := by
    rw [String.toList_append, List.mem_append, not_or]
    exact ⟨by decide, hending⟩
  have hmatches : Matches ("*" ++ ending).toList (run ++ ending).toList := by
    rw [String.toList_append, String.toList_append]
    exact .star run.toList hrun (.refl _)
  constructor
  · rw [Covers, Path.names_append, Path.names_append,
      Path.names_join (Path.isAbsolute_of_not_mem hname),
      Path.names_join (Path.isAbsolute_of_not_mem hfolder), Path.names_name hfolder hfolderName,
      Path.names_name hstar (Path.isName_append hlong),
      Path.names_name hname (Path.isName_append hlong), List.append_assoc]
    exact List.rel_append h.covers (.cons (.refl _) (.cons hmatches .nil))
  · intro hplain
    have hpattern : (pattern ++ "/" ++ (folder ++ "/" ++ ("*" ++ ending))).toList =
        (pattern ++ "/").toList ++ ((folder ++ "/").toList ++ ("*" ++ ending).toList) := by
      simp only [String.toList_append, List.append_assoc]
    have hpath : (Path.join (Path.join directory folder) (run ++ ending)).toList =
        (Path.below directory).toList ++ ((folder ++ "/").toList ++ (run ++ ending).toList) := by
      rw [Path.join_eq (Path.isAbsolute_of_not_mem hname),
        Path.below_join (Path.isAbsolute_of_not_mem hfolder),
        Path.below_of_not_mem hfolder hfolderName.1]
      simp only [String.toList_append, List.append_assoc]
    rw [hpattern, hpath]
    exact (h.text hplain).append ((Matches.refl _).append hmatches)

/-- The directories that are cleaned up, and how the names of their files end. -/
def cleanedFiles : List (String × String) :=
  [("Models", ".swift"), ("APIs", "Api.swift"), ("Support", ".swift")]

lemma of_mem_cleanedFiles {item : String × String} (h : item ∈ cleanedFiles) :
    '/' ∉ item.1.toList ∧ Path.IsName item.1 ∧ '/' ∉ item.2.toList ∧ 2 < item.2.length := by
  simp only [cleanedFiles, List.mem_cons, List.not_mem_nil, or_false] at h
  rcases h with rfl | rfl | rfl <;> refine ⟨?_, ⟨?_, ?_, ?_⟩, ?_, ?_⟩ <;> decide

lemma ResolvedDocument.exists_run {d : ResolvedDocument} {support security : List String}
    {folder name : String} (hfolder : folder ∈ ["APIs", "Models", "Support"])
    (h : (folder, name) ∈ d.sourceFiles support security)
    (hsupport : ∀ n ∈ support, ∃ run : String, '/' ∉ run.toList ∧ n = run ++ ".swift")
    (hschemas : ∀ c ∈ d.schemas.map (·.className), ∃ name, c = Naming.className name)
    (hgroups : ∀ c ∈ (d.groups.filter fun g => !g.operations.isEmpty).map (·.className),
      ∃ name, c = Naming.className name) :
    ∃ run ending, '/' ∉ run.toList ∧ name = run ++ ending ∧ (folder, ending) ∈ cleanedFiles := by
  unfold sourceFiles at h
  simp only [List.mem_append] at h
  rcases h with ((h | h) | h) | h <;> obtain ⟨item, hitem, heq⟩ := List.mem_map.mp h <;> cases heq
  · exact ⟨item, "Api.swift", Naming.slash_not_mem_of_exists_name hgroups item hitem, rfl,
      by decide⟩
  · exact ⟨item, ".swift", Naming.slash_not_mem_of_exists_name hschemas item hitem, rfl, by decide⟩
  · obtain ⟨run, hrun, rfl⟩ := hsupport name hitem
    exact ⟨run, ".swift", hrun, rfl, by decide⟩
  · exact absurd hfolder (by decide)

lemma isAbsolute_sourcePath (ho : Options.ofConfiguration c = .ok o)
    (hrelative : ∀ path, c.string? "relativeSourceOutputPath" = .ok (some path) →
      Path.isAbsolute path = false) : Path.isAbsolute o.sourcePath = false := by
  obtain ⟨name, given, -, hgiven, -, hsource⟩ := Options.of_ofConfiguration ho
  rw [hsource, Options.sourcePathFor.eq_def]
  cases given with
  | some path => exact hrelative path hgiven
  | none =>
    simp only
    split_ifs
    · rfl
    · exact Path.isAbsolute_append (by decide)

lemma cleanPatterns_eq (o : Options) :
    Generator.cleanPatterns { options := o } =
      cleanedFiles.map fun item =>
        patternDirectory o.sourcePath ++ "/" ++ (item.1 ++ "/" ++ ("*" ++ item.2)) := by
  have hmodels : "/Models/*.swift" = "/" ++ ("Models" ++ "/" ++ ("*" ++ ".swift")) := rfl
  have hapis : "/APIs/*Api.swift" = "/" ++ ("APIs" ++ "/" ++ ("*" ++ "Api.swift")) := rfl
  have hsupport : "/Support/*.swift" = "/" ++ ("Support" ++ "/" ++ ("*" ++ ".swift")) := rfl
  rw [Generator.cleanPatterns, Generator.sourcePatterns, List.flatMap_nil, List.append_nil,
    hmodels, hapis, hsupport]
  simp only [← String.append_assoc, cleanedFiles, List.map_cons, List.map_nil, patternDirectory]

lemma ResolvedDocument.exists_pattern {plain : Prop} {d : ResolvedDocument}
    {support security : List String} {folder name : String}
    (h : StandsFor plain (patternDirectory o.sourcePath) d.options.sourcePath)
    (hfolder : folder ∈ ["APIs", "Models", "Support"])
    (hin : (folder, name) ∈ d.sourceFiles support security)
    (hsupport : ∀ n ∈ support, ∃ run : String, '/' ∉ run.toList ∧ n = run ++ ".swift")
    (hschemas : ∀ c ∈ d.schemas.map (·.className), ∃ name, c = Naming.className name)
    (hgroups : ∀ c ∈ (d.groups.filter fun g => !g.operations.isEmpty).map (·.className),
      ∃ name, c = Naming.className name) (output : String) :
    ∃ path, Path.isAbsolute path = false ∧
      d.sourceOutput output (folder, name) = Path.join output path ∧
      ∃ pattern ∈ Generator.cleanPatterns { options := o }, Covers pattern path ∧
        (plain → Matches pattern.toList path.toList) := by
  obtain ⟨run, ending, hrun, rfl, hcleaned⟩ := exists_run hfolder hin hsupport hschemas hgroups
  obtain ⟨hslash, hfolderName, hending, hlong⟩ := of_mem_cleanedFiles hcleaned
  have hname : Path.isAbsolute (run ++ ending) = false := by
    refine Path.isAbsolute_of_not_mem ?_
    rw [String.toList_append, List.mem_append, not_or]
    exact ⟨hrun, hending⟩
  have hdirectory : Path.isAbsolute (Path.join d.options.sourcePath folder) = false :=
    Path.isAbsolute_join h.relative (Path.isAbsolute_of_not_mem hslash)
  refine ⟨Path.join (Path.join d.options.sourcePath folder) (run ++ ending),
    Path.isAbsolute_join hdirectory hname, ?_, _, ?_,
    h.file hslash hfolderName hrun hending hlong⟩
  · rw [sourceOutput, Path.join_join h.relative (Path.isAbsolute_of_not_mem hslash),
      Path.join_join hdirectory hname]
  · rw [cleanPatterns_eq]
    exact List.mem_map.mpr ⟨(folder, ending), hcleaned, rfl⟩

def Job.IsIn (directory : String) (j : Job) : Prop :=
  ∃ name, '/' ∉ name.toList ∧ j.output = Path.join directory name

lemma ResolvedDocument.mem_sourceFiles_of_mem_plan {d : ResolvedDocument} {root : PageRoot}
    {output folder name : String} {support security : List String} {j : Job}
    (hsource : Path.isAbsolute d.options.sourcePath = false)
    (hfiles : ∀ file ∈ d.sourceFiles support security, IsSourceFile file)
    (hfile : IsSourceFile (folder, name)) (hj : j ∈ d.plan root output support security)
    (houtput : j.output = d.sourceOutput output (folder, name)) :
    (folder, name) ∈ d.sourceFiles support security := by
  have hmem := List.mem_map_of_mem (f := (·.output)) hj
  rw [outputs_eq, List.mem_append, houtput] at hmem
  rcases hmem with hmem | hmem
  · obtain ⟨file, hin, heq⟩ := List.mem_map.mp hmem
    rwa [← sourceOutput_inj hsource (hfiles file hin) hfile heq]
  · exact absurd (List.mem_singleton.mp hmem) (sourceOutput_ne_package hsource hfile)

lemma Generator.of_plan {d : ResolvedDocument} {tree : FileTree} {time output : String}
    {jobs : List Job} (h : Generator.plan { options := o } tree d time output = .ok jobs) :
    ∃ support security, jobs = d.plan (.at d.options time) output support security ∧
      (∀ n ∈ support, ∃ run : String, '/' ∉ run.toList ∧ n = run ++ ".swift") ∧
      (∀ n ∈ support ++ security, '/' ∉ n.toList) ∧ "ApiError.swift" ∈ support := by
  cases h
  refine ⟨_, _, rfl, ?_, by decide, by decide⟩
  simp only [List.forall_mem_cons, List.not_mem_nil, false_imp_iff, forall_const, and_true]
  exact ⟨⟨"ApiError", by decide, rfl⟩, ⟨"Configuration", by decide, rfl⟩,
    ⟨"DateFormatter", by decide, rfl⟩, ⟨"Nullable", by decide, rfl⟩⟩

/-- A support file in the output itself has a path of two names, and each pattern has four. -/
lemma ResolvedDocument.exists_not_covered {d : ResolvedDocument} {root : PageRoot}
    {support : List String} (hempty : o.sourcePath = "") (hsource : d.options.sourcePath = "")
    (herror : "ApiError.swift" ∈ support) (output : String) (security : List String) :
    ∃ j ∈ d.plan root output support security,
      j.IsIn (Path.join (Path.join output d.options.sourcePath) "Support") ∧
      ∀ path, Path.isAbsolute path = false → j.output = Path.join output path →
        ∀ pattern ∈ Generator.cleanPatterns { options := o }, ¬Covers pattern path := by
  have hlengths : ∀ q ∈ Generator.cleanPatterns { options := o }, (names q).length = 4 := by
    rw [Generator.cleanPatterns, hempty, List.flatMap_nil]
    decide
  have hplanned : supportJobs root (Path.join output d.options.sourcePath) support ⊆
      d.plan root output support security := by
    intro j hj
    simp only [plan, List.mem_append]
    exact Or.inl (Or.inl (Or.inr hj))
  refine ⟨_, hplanned (List.mem_map_of_mem herror), ⟨"ApiError.swift", by decide, rfl⟩, ?_⟩
  intro path hpath houtput pattern hpattern hcovers
  have hfile : path = "Support/ApiError.swift" := by
    rw [hsource, Path.join_join rfl rfl, Path.join_join rfl rfl, Path.join_eq rfl,
      Path.join_eq hpath, String.append_right_inj] at houtput
    exact houtput.symm
  have hlength := hcovers.length_eq
  rw [hlengths pattern hpattern, hfile] at hlength
  exact absurd hlength (by decide)

namespace Document

variable {doc : Document} {d : ResolvedDocument} {tree : FileTree} {time output : String}
  {jobs : List Job}

/-- The patterns of a generator cover the files of its plans for interfaces, models and support,
unless its configuration names the package and puts sources into the output itself. -/
theorem cleaned_iff (ho : Options.ofConfiguration c = .ok o)
    (hrelative : ∀ path, c.string? "relativeSourceOutputPath" = .ok (some path) →
      Path.isAbsolute path = false)
    (hd : (doc.resolve o).result = .ok d)
    (hplan : Generator.plan { options := o } tree d time output = .ok jobs) :
    (∀ folder ∈ ["APIs", "Models", "Support"], ∀ j ∈ jobs,
      j.IsIn (Path.join (Path.join output d.options.sourcePath) folder) →
        ∃ path, Path.isAbsolute path = false ∧ j.output = Path.join output path ∧
          ∃ pattern ∈ Generator.cleanPatterns { options := o }, Covers pattern path ∧
            (¬['/', '/'] <:+ o.sourcePath.toList → Matches pattern.toList path.toList)) ↔
      o.sourcePath ≠ "" ∨ o.package = none := by
  have hoptions : d.options = o.complete doc.info := options_of_resolve hd
  obtain ⟨support, security, rfl, hsupport, hslash, herror⟩ := Generator.of_plan hplan
  constructor
  · intro hcovered
    by_contra hclosed
    obtain ⟨hempty, hpackage⟩ : o.sourcePath = "" ∧ o.package ≠ none := by
      rwa [not_or, not_not] at hclosed
    have hsource : d.options.sourcePath = "" := by
      rw [hoptions, Options.complete_of_isSome (Option.isSome_iff_ne_none.mpr hpackage), hempty]
    obtain ⟨j, hj, hin, hnone⟩ :=
      ResolvedDocument.exists_not_covered (d := d) hempty hsource herror output security
    obtain ⟨path, hpath, houtput, pattern, hpattern, hcovers, -⟩ :=
      hcovered "Support" (by decide) j hj hin
    exact hnone path hpath houtput pattern hpattern hcovers
  · intro hopen folder hfolder j hj hin
    obtain ⟨name, hname, houtput⟩ := hin
    have hstands := standsFor_complete (isAbsolute_sourcePath ho hrelative) hopen doc.info
    rw [← hoptions] at hstands
    obtain ⟨hschemas, hgroups⟩ := exists_name_of_resolve hd
    have hfile : ResolvedDocument.IsSourceFile (folder, name) :=
      ⟨List.subset_def.mp (by decide) hfolder, hname⟩
    have hmem :=
      ResolvedDocument.mem_sourceFiles_of_mem_plan hstands.relative
        (fun _ => ResolvedDocument.of_mem_sourceFiles hschemas hgroups hslash) hfile hj houtput
    rw [houtput]
    exact ResolvedDocument.exists_pattern hstands hfolder hmem hsupport hschemas hgroups output

/-- With sources in the output itself, the patterns are for those of a package below it. -/
theorem not_cleaned_pet :
    ∃ o d jobs, Options.ofConfiguration ⟨[("relativeSourceOutputPath", .string "")], none⟩ = .ok o ∧
      ((objects ["pet"]).resolve o).result = .ok d ∧
      Generator.plan { options := o } .empty d "" "out" = .ok jobs ∧
      ∃ j ∈ jobs, j.IsIn (Path.join (Path.join "out" d.options.sourcePath) "Models") ∧
        j.output = Path.join "out" "Models/Pet.swift" ∧
        ∀ pattern ∈ Generator.cleanPatterns { options := o },
          ¬Covers pattern "Models/Pet.swift" ∧
            ¬Matches pattern.toList "Models/Pet.swift".toList := by
  obtain ⟨o, ho, hpatterns, d, hd, hsource, jobs, hjobs, j, hj, houtput⟩ : ∃ o,
      Options.ofConfiguration ⟨[("relativeSourceOutputPath", .string "")], none⟩ = .ok o ∧
        (∀ pattern ∈ Generator.cleanPatterns { options := o },
          (names pattern).length = 4 ∧ pattern.toList.head? = some 'S') ∧
        ∃ d, ((objects ["pet"]).resolve o).result = .ok d ∧ d.options.sourcePath = "" ∧
          ∃ jobs, Generator.plan { options := o } .empty d "" "out" = .ok jobs ∧
            ∃ j ∈ jobs, j.output = Path.join "out" "Models/Pet.swift" := by
    decide +kernel
  refine ⟨o, d, jobs, ho, hd, hjobs, j, hj, ⟨"Pet.swift", by decide, ?_⟩, houtput, ?_⟩
  · rw [houtput, hsource]
    decide
  intro pattern hpattern
  obtain ⟨hnames, hhead⟩ := hpatterns pattern hpattern
  constructor
  · intro hcovers
    have hlength := hcovers.length_eq
    rw [hnames] at hlength
    exact absurd hlength (by decide)
  · intro hmatches
    exact absurd (hmatches.head?_eq (by decide) hhead) (by decide)

theorem cleaned_iff_pet :
    ∃ o d jobs, Options.ofConfiguration
        ⟨[("package", .object [("name", .string "")])], none⟩ = .ok o ∧
      ((objects ["pet"]).resolve o).result = .ok d ∧
      Generator.plan { options := o } .empty d "" "out" = .ok jobs ∧
      Generator.cleanPatterns { options := o } =
        ["Sources/*/Models/*.swift", "Sources/*/APIs/*Api.swift", "Sources/*/Support/*.swift"] ∧
      ∀ j ∈ jobs, j.IsIn "out/Sources/Objects/Models" →
        ∃ path, j.output = Path.join "out" path ∧
          ∃ pattern ∈ Generator.cleanPatterns { options := o }, Covers pattern path ∧
            Matches pattern.toList path.toList := by
  obtain ⟨o, ho, hpackage, hsource, hpatterns, d, hd, hfolder, jobs, hjobs⟩ : ∃ o,
      Options.ofConfiguration ⟨[("package", .object [("name", .string "")])], none⟩ = .ok o ∧
        o.package = none ∧ o.sourcePath = "" ∧
        Generator.cleanPatterns { options := o } =
          ["Sources/*/Models/*.swift", "Sources/*/APIs/*Api.swift", "Sources/*/Support/*.swift"] ∧
        ∃ d, ((objects ["pet"]).resolve o).result = .ok d ∧
          Path.join (Path.join "out" d.options.sourcePath) "Models" =
            "out/Sources/Objects/Models" ∧
          ∃ jobs, Generator.plan { options := o } .empty d "" "out" = .ok jobs := by
    decide +kernel
  refine ⟨o, d, jobs, ho, hd, hjobs, hpatterns, fun j hj hin => ?_⟩
  have hrelative : ∀ path, Configuration.string?
      ⟨[("package", .object [("name", .string "")])], none⟩ "relativeSourceOutputPath" =
        .ok (some path) → Path.isAbsolute path = false := by
    rintro path ⟨⟩
  have hcleaned := (cleaned_iff ho hrelative hd hjobs).mpr (Or.inr hpackage)
  obtain ⟨path, -, houtput, pattern, hpattern, hcovers, hmatches⟩ :=
    hcleaned "Models" (by decide) j hj (hfolder ▸ hin)
  refine ⟨path, houtput, pattern, hpattern, hcovers, hmatches ?_⟩
  rw [hsource]
  decide

end Document

end SwiftClient
