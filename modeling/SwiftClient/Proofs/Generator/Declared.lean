import SwiftClient.Generator.Basic
import SwiftClient.Proofs.Code.Alike

/-!
# Schemas in files

Each schema at the top of a document has a file, in which it is declared with what its declaration
holds of the schemas nested in it. These are declared as at the top only in some cases, and left out
in others.
-/
namespace SwiftClient

/-- The schema that a job declares. -/
def Job.schema? (j : Job) : Option Resolved.Schema :=
  match j.context with
  | .page _ (.schema s) => some s
  | _ => none

lemma render_page {page : Page} {root : PageRoot} {subject : PageSubject} {body : Code}
    (h : page.body? root subject = some body) :
    TemplateLibrary.standard.render page.name (.page root subject) =
      .ok (page.preface.text ++ (Page.headerCode root).text ++ body.text) := by
  have hget : TemplateLibrary.standard.get? page.name = some (.page page) := by
    cases page <;> rfl
  have hheader : TemplateLibrary.standard.header? root subject =
      some (Page.headerCode root).text := rfl
  have hparts : TemplateLibrary.standard.hasParts = true := rfl
  have hpage : TemplateLibrary.standard.page? root subject page =
      some (page.preface.text ++ (Page.headerCode root).text ++ body.text) := by
    cases page with
    | header | parts =>
      cases subject with
      | schema s => cases hkind : s.kind <;> simp [Page.body?, Page.ofSchema, hkind] at h
      | client | api | security | package | document => cases h
    | _ => simp [TemplateLibrary.page?, hheader, hparts, h]
  unfold TemplateLibrary.render TemplateLibrary.fill?
  rw [hget]
  simp only [hpage]

lemma body?_ofSchema (root : PageRoot) (s : Resolved.Schema) :
    (Page.ofSchema s).body? root (.schema s) = some (Code.model s) := by
  cases hkind : s.kind <;> simp [Page.body?, Page.ofSchema, hkind]

lemma render_schema (root : PageRoot) (s : Resolved.Schema) :
    TemplateLibrary.standard.render (Page.ofSchema s).name (.page root (.schema s)) =
      .ok ((Page.headerCode root).text ++ (Code.model s).text) := by
  have hpreface : (Page.ofSchema s).preface.text = "" := by
    cases hkind : s.kind <;> simp [Page.ofSchema, hkind] <;> rfl
  rw [render_page (body?_ofSchema root s), hpreface, String.empty_append]

namespace Document

variable {d : Document} {options : Options} {resolved : ResolvedDocument}

lemma isTypeName_of_resolve (h : (d.resolve options).result = .ok resolved) :
    ∀ s ∈ resolved.schemas, ∀ u ∈ s.flatten, Code.IsTypeName u.className := by
  obtain ⟨named, -, hmakes⟩ := makes_of_resolve h
  refine forall_mem_of_forall₂ hmakes fun s _ t ht => ?_
  refine forall_mem_of_forall₂ (Resolution.makes_flatten ht) fun s _ u hu => ?_
  obtain ⟨-, -, -, -, -, -, rfl⟩ := hu.parts
  exact Code.isTypeName_className s.name

/-- The schemas at the top have one file each, with their declarations after the header. These
declare what is nested in a schema if the schemas around it hold it, and declare it as at the top if
it is an enum, or an object without protocols. For wrappers that is up to the name of the member,
which is the raw value at the top. -/
theorem declared_as_at_top_iff (h : (d.resolve options).result = .ok resolved) (root : PageRoot)
    (output : String) (support security : List String) :
    (resolved.plan root output support security).filterMap Job.schema? = resolved.schemas ∧
      (∀ j ∈ resolved.plan root output support security, ∀ s, j.schema? = some s →
        j.render .standard =
          .ok (j.output, (Page.headerCode root).text ++ (Code.model s).text)) ∧
      (∀ s ∈ resolved.schemas, Code.types (Code.model s) = s.held) ∧
      ((∀ s ∈ resolved.schemas, Code.types (Code.model s) = s.outline) ↔
        ∀ s ∈ resolved.schemas, s.Holds) ∧
      ((∀ s ∈ resolved.schemas, Code.stated (Code.model s) = s.expectedFile) ↔
        ∀ s ∈ resolved.schemas, s.NestsAsAtTop) ∧
      ∀ s property, s.kind = .wrapper property →
        Code.declaration s = Code.wrapperOf "rawValue" s property := by
  have htypes : ∀ s ∈ resolved.schemas, Code.types (Code.model s) = s.held := fun s hs =>
    Code.types_model s (isTypeName_of_resolve h s hs)
  refine ⟨?_, ?_, htypes, ?_, ?_, ?_⟩
  · simp [ResolvedDocument.plan, ResolvedDocument.apiJobs, ResolvedDocument.modelJobs,
      ResolvedDocument.supportJobs, ResolvedDocument.securityJobs, ResolvedDocument.packageJob,
      List.filterMap_map, Function.comp_def, Job.schema?]
  · intro j hj s hs
    simp only [ResolvedDocument.plan, List.mem_append, ResolvedDocument.apiJobs,
      ResolvedDocument.modelJobs, ResolvedDocument.supportJobs, ResolvedDocument.securityJobs,
      ResolvedDocument.packageJob, List.mem_map, List.mem_singleton] at hj
    rcases hj with (((⟨g, -, rfl⟩ | ⟨t, -, rfl⟩) | ⟨n, -, rfl⟩) | ⟨n, -, rfl⟩) | rfl
    · cases hs
    · cases hs
      unfold Job.render
      rw [render_schema]
      rfl
    · cases hs
    · cases hs
    · cases hs
  · refine forall₂_congr fun s hs => ?_
    rw [htypes s hs, s.held_eq_outline_iff]
  · exact forall₂_congr fun s _ => Code.stated_model_eq_iff s
  · intro s property hs
    rw [Code.declaration, hs]
    exact Code.wrapper_eq s property

/-- A schema within a schema at the top. -/
def within (outer name : String) (kind : SchemaKind) : Schema :=
  { Schema.top name kind with scopedName := [outer, name] }

/-- An order with a payment of either kind, and an amount with a currency. -/
def orders : Document :=
  let texts : TypeUsage := .scalar .string none
  { Document.titled "Orders" "1" with
    schemas := [
      { Schema.top "Order" (.object {}) with
        nested := [within "Order" "Payment"
          (.oneOf { members := [⟨none, texts⟩, ⟨none, .scalar .integer none⟩] })] },
      { Schema.top "Amount" (.wrapper { property := { name := "value", type := texts } }) with
        nested := [within "Amount" "Currency"
          (.enum { valueType := texts, values := [.string "EUR"] })] }] }

/-- The currency is not declared at all, and the payment is not declared as it would be at the top,
with its own way to be decoded and encoded. -/
theorem declared_otherwise_orders :
    ∃ resolved, (orders.resolve .default).result = .ok resolved ∧
      (∃ s ∈ resolved.schemas, Code.types (Code.model s) ≠ s.outline) ∧
      ∃ s ∈ resolved.schemas, Code.types (Code.model s) = s.outline ∧
        Code.stated (Code.model s) ≠ s.expectedFile := by
  decide +kernel

/-- An order with items of different sizes. -/
def sizedOrders : Document :=
  let texts : TypeUsage := .scalar .string none
  { Document.titled "Orders" "1" with
    schemas := [
      { Schema.top "Order" (.object {}) with
        nested := [
          { within "Order" "Item" (.object {}) with
            nested := [
              { within "Item" "Size" (.enum { valueType := texts, values := [.string "S"] }) with
                scopedName := ["Order", "Item", "Size"] }] }] }] }

theorem declared_as_at_top_iff_sizedOrders :
    ∃ resolved, (sizedOrders.resolve .default).result = .ok resolved ∧
      ∀ s ∈ resolved.schemas, Code.types (Code.model s) = [(0, "Order"), (1, "Item"), (2, "Size")] ∧
        Code.stated (Code.model s) = s.expectedFile := by
  obtain ⟨resolved, h, hheld, hnests⟩ : ∃ resolved,
      (sizedOrders.resolve .default).result = .ok resolved ∧
        (∀ s ∈ resolved.schemas, s.held = [(0, "Order"), (1, "Item"), (2, "Size")]) ∧
          ∀ s ∈ resolved.schemas, s.NestsAsAtTop := by
    decide +kernel
  obtain ⟨-, -, htypes, -, hstated, -⟩ := declared_as_at_top_iff h ⟨.default, none⟩ "out" [] []
  exact ⟨resolved, h, fun s hs => ⟨(htypes s hs).trans (hheld s hs), hstated.mpr hnests s hs⟩⟩

end Document

end SwiftClient
