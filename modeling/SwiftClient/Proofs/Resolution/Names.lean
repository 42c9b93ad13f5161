import SwiftClient.Proofs.Resolution.Failures

/-!
# Names of what is resolved

Schemas and groups are resolved one by one and in order, and each gets the class name that its own
name makes.
-/
namespace SwiftClient

open Naming (className)

namespace Resolution

variable {r : Resolution} {inside : Bool}

lemma schemas_eq_ok {forest : List Schema} {resolved : List Resolved.Schema} :
    (r.schemas inside forest).result = .ok resolved ↔
      List.Forall₂ (fun s t => (r.schema inside s).result = .ok t) forest resolved := by
  induction forest generalizing resolved with
  | nil =>
    rw [schemas, Traced.result_pure, Except.ok.injEq, List.forall₂_nil_left_iff]
    exact eq_comm
  | cons s rest ih =>
    simp only [schemas, Traced.result_bind, Traced.result_pure, Outcome.bind_eq_ok,
      List.forall₂_cons_left_iff, ih, Except.ok.injEq]
    constructor
    · rintro ⟨t, ht, rest', hrest, rfl⟩
      exact ⟨t, rest', ht, hrest, rfl⟩
    · rintro ⟨t, rest', ht, hrest, rfl⟩
      exact ⟨t, ht, rest', hrest, rfl⟩

/-- A schema is resolved unless it is a nested interface or one of its parts cannot be. -/
lemma schema_eq_ok {s : Schema} {t : Resolved.Schema} :
    (r.schema inside s).result = .ok t ↔
      (inside && isInterface s.kind) = false ∧ ∃ kind nested, (r.kind s).result = .ok kind ∧
        (r.schemas true s.nested).result = .ok nested ∧
          t = ⟨s.name, className s.name, s.scopedName, s.description, s.purpose, s.nullable,
            s.classification, s.scopedName.swiftType r.package, kind, nested⟩ := by
  obtain ⟨name, scopedName, description, purpose, nullable, kind, nested⟩ := s
  rw [schema]
  cases hinside : inside && isInterface kind with
  | true => simp [Strategy.swift, Traced.fail]
  | false =>
    simp only [Bool.false_and, Bool.false_eq_true, if_false, Traced.result_bind, Traced.result_pure,
      Outcome.bind_eq_ok, Except.ok.injEq, true_and]
    constructor
    · rintro ⟨kind', hkind, nested', hnested, rfl⟩
      exact ⟨kind', nested', hkind, hnested, rfl⟩
    · rintro ⟨kind', nested', hkind, hnested, rfl⟩
      exact ⟨kind', hkind, nested', hnested, rfl⟩

lemma className_of_schema_eq_ok {s : Schema} {t : Resolved.Schema}
    (h : (r.schema inside s).result = .ok t) : t.className = className s.name := by
  obtain ⟨-, kind, nested, -, -, rfl⟩ := schema_eq_ok.mp h
  rfl

lemma group_eq_ok {g : OperationGroup} {t : Resolved.Group} :
    (r.group g).result = .ok t ↔
      ∃ operations, List.Forall₂ (fun o u => (r.operation g o).result = .ok u) g.operations
          operations ∧
        t = ⟨g.name, className g.name, g.path, g.description, operations⟩ := by
  simp only [group, Traced.result_bind, Traced.result_mapM, Traced.result_pure,
    Outcome.bind_eq_ok, Outcome.mapM_eq_ok, Except.ok.injEq, eq_comm (a := t)]

lemma of_group_eq_ok {g : OperationGroup} {t : Resolved.Group} (h : (r.group g).result = .ok t) :
    t.className = className g.name ∧
      List.Forall₂ (fun o u => (r.operation g o).result = .ok u) g.operations t.operations := by
  obtain ⟨operations, hoperations, rfl⟩ := group_eq_ok.mp h
  exact ⟨rfl, hoperations⟩

end Resolution

namespace Document

variable {d : Document} {options : Options} {resolved : ResolvedDocument}

theorem resolve_eq_ok :
    (d.resolve options).result = .ok resolved ↔
      d.validate = .ok () ∧ ∃ named, d.nameMembers (options.complete d.info).package = .ok named ∧
        ∃ schemas groups,
          let r : Resolution :=
            ⟨named, (options.complete d.info).package, (options.complete d.info).enumStyle⟩
          r.allSchemas.result = .ok schemas ∧ r.allGroups.result = .ok groups ∧
            resolved = ⟨named.info, named.servers, groups, schemas, named.securitySchemes,
              options.complete d.info⟩ := by
  cases hd : d.validate with
  | error defect =>
    simp [resolve, hd, Except.mapError]
  | ok =>
    simp only [resolve, hd, Except.mapError, Traced.result_bind, Traced.result_ofExcept,
      Traced.result_lift, Traced.result_note, Traced.result_pure, Options.result_completeNoting,
      Outcome.bind_eq_ok, Except.ok.injEq, true_and, exists_eq_left', exists_const]
    constructor
    · rintro ⟨named, hnamed, schemas, hschemas, groups, hgroups, rfl⟩
      exact ⟨named, hnamed, schemas, groups, hschemas, hgroups, rfl⟩
    · rintro ⟨named, hnamed, schemas, groups, hschemas, hgroups, rfl⟩
      exact ⟨named, hnamed, schemas, hschemas, groups, hgroups, rfl⟩

lemma options_of_resolve (h : (d.resolve options).result = .ok resolved) :
    resolved.options = options.complete d.info := by
  obtain ⟨-, named, -, schemas, groups, -, -, rfl⟩ := resolve_eq_ok.mp h
  rfl

/-- The class names of schemas at the top and of groups that have operations. -/
theorem resolve_classNames (h : (d.resolve options).result = .ok resolved) :
    resolved.schemas.map (·.className) = d.schemas.map (fun s => className s.name) ∧
      (resolved.groups.filter fun g => !g.operations.isEmpty).map (·.className) =
        (d.groups.filter fun g => !g.operations.isEmpty).map fun g => className g.name := by
  obtain ⟨-, named, hnamed, schemas, groups, hschemas, hgroups, rfl⟩ := resolve_eq_ok.mp h
  simp only [nameMembers, Outcome.bind_eq_ok, Outcome.pure_eq_ok] at hnamed
  obtain ⟨forest, hforest, rfl⟩ := hnamed
  constructor
  · have hmembers := Schema.allMembersNamed_of_nameAllMembers hforest
    rw [← hmembers.map_name className]
    exact map_eq_map_of_forall₂ (Resolution.schemas_eq_ok.mp hschemas) fun _ _ =>
      Resolution.className_of_schema_eq_ok
  · rw [Resolution.allGroups, Traced.result_mapM, Outcome.mapM_eq_ok] at hgroups
    have hnames := hgroups.imp fun _ _ => Resolution.of_group_eq_ok
    refine map_eq_map_of_forall₂ (List.rel_filter ?_ hnames) fun _ _ => And.left
    rintro g t ⟨-, hoperations⟩
    simp [isEmpty_eq_of_forall₂ hoperations]

lemma exists_name_of_resolve (h : (d.resolve options).result = .ok resolved) :
    (∀ c ∈ resolved.schemas.map (·.className), ∃ name, c = className name) ∧
      ∀ c ∈ (resolved.groups.filter fun g => !g.operations.isEmpty).map (·.className),
        ∃ name, c = className name := by
  obtain ⟨hschemas, hgroups⟩ := resolve_classNames h
  rw [hschemas, hgroups]
  simp only [List.forall_mem_map]
  exact ⟨fun s _ => ⟨s.name, rfl⟩, fun g _ => ⟨g.name, rfl⟩⟩

end Document

end SwiftClient
