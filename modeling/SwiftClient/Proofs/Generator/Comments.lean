import SwiftClient.Proofs.Code.Documentation
import SwiftClient.Proofs.Generator.Declared
import SwiftClient.Proofs.Naming.Identifiers
import SwiftClient.Proofs.Resolution.EnumCases
import SwiftClient.Proofs.Resolution.Scopes

/-!
# Descriptions in files

Descriptions and summaries are put into comments as they are. If they have several lines, what
follows the first line is code, unless it is blank or begins a comment itself. So the files of a
document have the same code as without its descriptions exactly when all descriptions that are told
stay in their comments.
-/
namespace SwiftClient

namespace Naming

lemma mem_of_mem_escaped {cs : List Char} {c : Char} (h : c ∈ escaped cs) :
    c ∈ cs ∨ c = '_' ∨ c = '\x60' := by
  obtain ⟨rfl, hcs⟩ | ⟨-, hcs⟩ | ⟨-, ⟨-, hcs⟩ | ⟨-, hcs⟩⟩ := escaped_cases cs <;>
    rw [hcs] at h
  · exact Or.inr (Or.inl (List.mem_singleton.mp h))
  · exact (List.mem_cons.mp h).symm.imp_right Or.inl
  · simp only [List.cons_append, List.mem_cons, List.mem_append, List.not_mem_nil, or_false] at h
    tauto
  · exact Or.inl h

lemma IsNameChar.not_lineBreak {c : Char} (h : IsNameChar c) : Code.isLineBreak c = false := by
  rw [Code.isLineBreak, decide_eq_false_iff_not]
  intro hc
  rcases h with rfl | ⟨a, ha, hac⟩
  · exact absurd hc (by decide)
  · have hle : c.toNat ≤ 64 ∧ c.toNat ≠ 0 := by rcases hc with rfl | rfl <;> decide
    obtain rfl := hac.eq_of_le hle.1 hle.2
    rcases hc with rfl | rfl <;> exact absurd ha (by decide)

lemma isOneLine_identifier (name : String) : Code.IsOneLine (identifier name) := by
  intro c hc
  change c ∈ (memberName .camelCase name).toList at hc
  rw [memberName_eq, String.toList_ofList] at hc
  rcases mem_of_mem_escaped hc with hc | rfl | rfl
  · obtain hmade | ⟨hstyle, -⟩ := made_of_mem_unescaped hc
    · exact hmade.isNameChar.not_lineBreak
    · cases hstyle
  · decide
  · decide

end Naming

def PageSubject.undescribed : PageSubject → PageSubject
  | .api group servers => .api group.undescribed servers
  | .schema s => .schema s.undescribed
  | other => other

def PageSubject.told : PageSubject → List String
  | .api group _ => group.told
  | .schema s => s.told
  | _ => []

namespace Job

def undescribed (j : Job) : Job :=
  match j.context with
  | .page root subject => { j with context := .page root subject.undescribed }
  | .values _ => j

def told (j : Job) : List String :=
  match j.context with
  | .page _ subject => subject.told
  | .values _ => []

/-- The file of a job is made with and without descriptions, and both have the same code: lines that
are neither blank nor documentation. -/
def KeepsCode (j : Job) : Prop :=
  ∃ text plain, j.render .standard = .ok (j.output, text) ∧
    j.undescribed.render .standard = .ok (j.output, plain) ∧
      Code.codeLines text = Code.codeLines plain

lemma keepsCode_iff_of_render {j : Job} {text plain : String}
    (h : j.render .standard = .ok (j.output, text))
    (hplain : j.undescribed.render .standard = .ok (j.output, plain)) :
    j.KeepsCode ↔ Code.codeLines text = Code.codeLines plain := by
  constructor
  · rintro ⟨text', plain', h', hplain', heq⟩
    rw [h, Except.ok.injEq, Prod.mk.injEq] at h'
    rw [hplain, Except.ok.injEq, Prod.mk.injEq] at hplain'
    rw [h'.2, hplain'.2]
    exact heq
  · exact fun heq => ⟨text, plain, h, hplain, heq⟩

end Job

lemma Page.ofSchema_undescribed (s : Resolved.Schema) : ofSchema s.undescribed = ofSchema s := by
  rw [Resolved.Schema.undescribed_eq]
  unfold ofSchema
  cases s.kind <;> rfl

/-- The file of a job can be made, and keeps its code when all that is told in it stays in
comments, and only then. -/
def Job.ToldDecides (j : Job) : Prop :=
  (∃ text, j.render .standard = .ok (j.output, text)) ∧
    (j.KeepsCode ↔ ∀ t ∈ j.told, Code.StaysInComment t)

lemma render_job {page : Page} {output : String} {root : PageRoot} {subject : PageSubject}
    {body : Code} (h : page.body? root subject = some body) :
    (Job.mk page.name output (.page root subject)).render .standard =
      .ok (output, (page.preface ++ Page.headerCode root ++ body).text) := by
  unfold Job.render
  rw [render_page h, Code.text_append, Code.text_append]
  rfl

lemma toldDecides_of_commented {page : Page} {output : String} {root : PageRoot}
    {subject : PageSubject} {body plain : Code} (hbody : page.body? root subject = some body)
    (hplain : page.body? root subject.undescribed = some plain)
    (h : Code.Commented subject.told body plain) :
    (Job.mk page.name output (.page root subject)).ToldDecides := by
  refine ⟨⟨_, render_job hbody⟩, ?_⟩
  rw [Job.keepsCode_iff_of_render (render_job hbody) (render_job hplain)]
  exact (Code.Commented.same_append _ h).codeLines_eq_iff

lemma toldDecides_schema (output : String) (root : PageRoot) (s : Resolved.Schema) :
    (Job.mk (Page.ofSchema s).name output (.page root (.schema s))).ToldDecides := by
  have hplain := body?_ofSchema root s.undescribed
  rw [Page.ofSchema_undescribed] at hplain
  exact toldDecides_of_commented (body?_ofSchema root s) hplain (Code.commented_model s)

/-- A page that is not about a part of the document that has descriptions. -/
lemma toldDecides_of_same (page : Page) {output : String} {root : PageRoot} {subject : PageSubject}
    {body : Code} (hbody : page.body? root subject = some body)
    (hsubject : subject.undescribed = subject) (htold : subject.told = []) :
    (Job.mk page.name output (.page root subject)).ToldDecides := by
  refine toldDecides_of_commented hbody (hsubject ▸ hbody) ?_
  rw [htold]
  exact .same body

namespace ResolvedDocument

variable {d : ResolvedDocument} {root : PageRoot} {output : String}

lemma apiJobs_undescribed (source : String) :
    d.undescribed.apiJobs root source = (d.apiJobs root source).map Job.undescribed := by
  have hgroups : d.undescribed.groups.filter (fun g => !g.operations.isEmpty) =
      (d.groups.filter fun g => !g.operations.isEmpty).map (·.undescribed) := by
    change (d.groups.map Resolved.Group.undescribed).filter _ = _
    rw [List.filter_map]
    congr 2
    funext g
    exact congrArg not List.isEmpty_map
  unfold apiJobs
  rw [hgroups, List.map_map, List.map_map]
  rfl

lemma modelJobs_undescribed (source : String) :
    d.undescribed.modelJobs root source = (d.modelJobs root source).map Job.undescribed := by
  have hschemas : d.undescribed.schemas = d.schemas.map (·.undescribed) := rfl
  unfold modelJobs
  rw [hschemas, List.map_map, List.map_map]
  refine List.map_congr_left fun s _ => ?_
  rw [Function.comp_apply, Page.ofSchema_undescribed, Resolved.Schema.className_undescribed]
  rfl

lemma plan_undescribed (d : ResolvedDocument) (root : PageRoot) (output : String)
    (support security : List String) :
    d.undescribed.plan root output support security =
      (d.plan root output support security).map Job.undescribed := by
  have hsupport : ∀ source, (supportJobs root source support).map Job.undescribed =
      supportJobs root source support := by
    intro source
    unfold supportJobs
    rw [List.map_map]
    rfl
  have hsecurity : ∀ source, (d.securityJobs root source security).map Job.undescribed =
      d.securityJobs root source security := by
    intro source
    unfold securityJobs
    rw [List.map_map]
    rfl
  unfold plan
  rw [List.map_append, List.map_append, List.map_append, List.map_append, hsupport, hsecurity,
    ← apiJobs_undescribed, ← modelJobs_undescribed]
  rfl

lemma toldDecides_of_mem_plan
    (hgroups : ∀ g ∈ d.groups, ∀ o ∈ g.operations, ∀ p ∈ o.parameters,
      Code.IsOneLine p.identifier) {j : Job}
    (hj : j ∈ d.plan root output
      ["ApiError.swift", "Configuration.swift", "DateFormatter.swift", "Nullable.swift"]
      ["Credentials.swift", "SecurityClient.swift"]) : j.ToldDecides := by
  unfold plan apiJobs modelJobs supportJobs securityJobs at hj
  simp only [List.mem_append, List.mem_map, List.mem_filter, List.mem_cons, List.not_mem_nil,
    or_false] at hj
  rcases hj with (((⟨g, ⟨hg, -⟩, rfl⟩ | ⟨s, -, rfl⟩) | ⟨n, hn, rfl⟩) | ⟨n, hn, rfl⟩) | rfl
  · exact toldDecides_of_commented rfl rfl (Code.commented_api d.servers (hgroups g hg))
  · exact toldDecides_schema _ root s
  · rcases hn with rfl | rfl | rfl | rfl
    · exact toldDecides_of_same .apiError rfl rfl rfl
    · exact toldDecides_of_same .configuration rfl rfl rfl
    · exact toldDecides_of_same .dateFormatter rfl rfl rfl
    · exact toldDecides_of_same .nullable rfl rfl rfl
  · rcases hn with rfl | rfl
    · exact toldDecides_of_same .credentials rfl rfl rfl
    · exact toldDecides_of_same .securityClient rfl rfl rfl
  · exact toldDecides_of_same .package rfl rfl rfl

end ResolvedDocument

namespace Document

variable {d : Document} {options : Options} {resolved : ResolvedDocument}

/-- The parameters of a resolved document have identifiers of one line. -/
lemma isOneLine_of_resolve (h : (d.resolve options).result = .ok resolved) :
    ∀ g ∈ resolved.groups, ∀ o ∈ g.operations, ∀ p ∈ o.parameters,
      Code.IsOneLine p.identifier := by
  obtain ⟨-, named, -, schemas, groups, -, hgroups, rfl⟩ := resolve_eq_ok.mp h
  rw [Resolution.allGroups, Traced.result_mapM, Outcome.mapM_eq_ok] at hgroups
  refine forall_mem_of_forall₂ hgroups fun g _ t ht => ?_
  refine forall_mem_of_forall₂ (Resolution.of_group_eq_ok ht).2 fun o _ u hu => ?_
  refine forall_mem_of_forall₂ (Resolution.parameters_of_operation hu) fun p _ q hq => ?_
  obtain ⟨context, hq⟩ := hq
  rw [Resolution.identifier_of_parameter hq]
  exact Naming.isOneLine_identifier p.name

/-- Leaving out descriptions leaves the code of every file as it is exactly if all descriptions that
are told in the file stay in their comments. -/
theorem descriptions_keep_code_iff {g : Generator} (hg : g.builtIn = .standard)
    (h : (d.resolve options).result = .ok resolved) (tree : FileTree) (time output : String) :
    (d.undescribed.resolve options).result = .ok resolved.undescribed ∧
      ∃ jobs, g.plan tree resolved time output = .ok jobs ∧
        g.plan tree resolved.undescribed time output = .ok (jobs.map Job.undescribed) ∧
          ∀ j ∈ jobs, (∃ text, j.render .standard = .ok (j.output, text)) ∧
            (j.KeepsCode ↔ ∀ t ∈ j.told, Code.StaysInComment t) := by
  refine ⟨resolve_undescribed h, ?_⟩
  unfold Generator.plan
  rw [hg]
  refine ⟨_, rfl, ?_, ?_⟩
  · exact congrArg Except.ok (ResolvedDocument.plan_undescribed ..)
  · exact fun j => ResolvedDocument.toldDecides_of_mem_plan (isOneLine_of_resolve h)

/-- An object with a description. -/
def describedPet (description : String) : Document :=
  { Document.titled "Pets" "1" with
    schemas := [{ Schema.top "Pet" (.object {}) with description := some description }] }

/-- The second line of a description is written as a statement. -/
theorem description_becomes_code_pet :
    ∃ resolved, ((describedPet "A pet.\nimport Darwin").resolve .default).result = .ok resolved ∧
      ∃ j ∈ resolved.plan ⟨.default, none⟩ "out" [] [], ∃ text,
        j.render .standard = .ok (j.output, text) ∧
          "import Darwin".toList ∈ Code.codeLines text ∧ ¬j.KeepsCode := by
  obtain ⟨resolved, h, s, hs, hcode, htold⟩ : ∃ resolved,
      ((describedPet "A pet.\nimport Darwin").resolve .default).result = .ok resolved ∧
        ∃ s ∈ resolved.schemas,
          "import Darwin".toList ∈ Code.codeLines ((Page.ofSchema s).preface
            ++ Page.headerCode ⟨.default, none⟩ ++ Code.model s).text ∧
          ¬∀ t ∈ (PageSubject.schema s).told, Code.StaysInComment t := by
    decide +kernel
  obtain ⟨output, hplanned⟩ : ∃ output,
      Job.mk (Page.ofSchema s).name output (.page ⟨.default, none⟩ (.schema s)) ∈
        resolved.plan ⟨.default, none⟩ "out" [] [] := by
    simp only [ResolvedDocument.plan, ResolvedDocument.modelJobs, List.mem_append]
    exact ⟨_, Or.inl (Or.inl (Or.inl (Or.inr (List.mem_map_of_mem hs))))⟩
  refine ⟨resolved, h, _, hplanned, _, render_job (body?_ofSchema _ s), hcode, ?_⟩
  rw [(toldDecides_schema _ _ s).2]
  exact htold

/-- A shop that says what its pets are, what there is to know of them and how to find them. -/
def describedPetShop : Document :=
  let texts : TypeUsage := .scalar .string none
  { Document.titled "Pet shop" "1" with
    groups := [{
      name := "pets"
      description := some "Looks after pets."
      operations := [{
        name := "find-pet", method := .get, path := "/pets", summary := some "Finds a pet.",
        description := some "The first\nof its kind.",
        parameters := [{
          name := "pet kind", place := .query, type := texts,
          description := some "What it is.\r\n\r\n" }] }] }]
    schemas := [
      { Schema.top "Pet"
          (.object {
            properties := [{ name := "kind", type := texts, description := some "" }] }) with
        description := some "A pet.\n/// It may be of any kind."
        nested := [{
          name := "Tag", scopedName := ["Pet", "Tag"], description := some "What is on it.",
          kind := .enum { valueType := texts, values := [.string "name"] } }] }] }

theorem descriptions_keep_code_iff_petShop :
    ∃ resolved, (describedPetShop.resolve .default).result = .ok resolved ∧
      ∃ jobs, Generator.plan ⟨.default, [], .standard⟩ .empty resolved "now" "out" = .ok jobs ∧
        jobs.flatMap (·.told) =
          ["Looks after pets.", "Finds a pet.", "What it is.\r\n\r\n",
            "A pet.\n/// It may be of any kind.", "What is on it."] ∧
          ∀ j ∈ jobs, j.KeepsCode := by
  obtain ⟨resolved, h, jobs, hjobs, htold, hstays⟩ : ∃ resolved,
      (describedPetShop.resolve .default).result = .ok resolved ∧
        ∃ jobs, Generator.plan ⟨.default, [], .standard⟩ .empty resolved "now" "out" = .ok jobs ∧
          jobs.flatMap (·.told) =
            ["Looks after pets.", "Finds a pet.", "What it is.\r\n\r\n",
              "A pet.\n/// It may be of any kind.", "What is on it."] ∧
            ∀ j ∈ jobs, ∀ t ∈ j.told, Code.StaysInComment t := by
    decide +kernel
  obtain ⟨-, jobs', hjobs', -, hall⟩ :=
    descriptions_keep_code_iff (g := ⟨.default, [], .standard⟩) rfl h .empty "now" "out"
  obtain rfl : jobs = jobs' := Except.ok.inj (hjobs.symm.trans hjobs')
  exact ⟨resolved, h, jobs, hjobs, htold, fun j hj => (hall j hj).2.mpr (hstays j hj)⟩

end Document

end SwiftClient
