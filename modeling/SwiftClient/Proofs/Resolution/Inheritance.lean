import Mathlib.Logic.Relation
import SwiftClient.Proofs.Resolution.Independent
import SwiftClient.Proofs.Resolution.Kept

/-!
# Inherited properties

An object inherits from its parent and from the interfaces that it implements, and an interface
from those that it refines. Properties are compared with those that a parent itself declares, so
they agree along every line of schemas that all declare them. Where a line passes a schema that
does not declare a property, nothing compares what it declares below with what it inherits.
-/
namespace SwiftClient

namespace Document

def Extends (d : Document) (path parent : ScopedName) : Prop :=
  ∃ s, d.find? path = some s ∧ parent ∈ s.kind.parents

/-- The schema at a path inherits from the one at another, directly or by way of others. -/
def Inherits (d : Document) : ScopedName → ScopedName → Prop := Relation.TransGen d.Extends

/-- Inheritance in which all schemas on the way satisfy a condition. -/
inductive InheritsThrough (d : Document) (P : ScopedName → Prop) : ScopedName → ScopedName → Prop
  | direct {path parent : ScopedName} (h : d.Extends path parent) : InheritsThrough d P path parent
  | step {path parent ancestor : ScopedName} (h : d.Extends path parent) (hP : P parent)
      (above : InheritsThrough d P parent ancestor) : InheritsThrough d P path ancestor

def Declares (d : Document) (name : String) (path : ScopedName) : Prop :=
  ∃ s, d.find? path = some s ∧ name ∈ s.properties.map (·.name)

/-- Inheritance by way of at least one schema, none of which declares the property. -/
def InheritsAcross (d : Document) (name : String) (path ancestor : ScopedName) : Prop :=
  ∃ parent, d.Extends path parent ∧ ¬d.Declares name parent ∧
    d.InheritsThrough (fun passed => ¬d.Declares name passed) parent ancestor

end Document

/-- A property of the name at a path overrides one at another path as it may. -/
def ResolvedDocument.CompatibleAt (d : ResolvedDocument) (name : String)
    (path ancestor : ScopedName) : Prop :=
  ∀ t u, d.find? path = some t → d.find? ancestor = some u →
    ∀ p ∈ t.properties, ∀ q ∈ u.properties, p.name = name → q.name = name → q.compatible p

namespace Resolved.Property

lemma compatible_iff {parent child : Property} :
    parent.compatible child ↔
      parent.type.expression = child.type.expression ∧ parent.nullable = child.nullable ∧
        parent.required = child.required := by
  unfold compatible incompatibility?
  split_ifs <;> simp_all

end Resolved.Property

namespace Resolution

variable {r : Resolution}

lemma checkOverride_eq_ok {child parent : Schema} {properties : List Resolved.Property}
    {inherited : Property} :
    (r.checkOverride child parent properties inherited).result = .ok () ↔
      ∀ p, properties.find? (·.name == inherited.name) = some p →
        ∃ q, (r.property parent.scopedName.dotted inherited).result = .ok q ∧ q.compatible p := by
  unfold checkOverride
  cases hp : properties.find? (·.name == inherited.name) with
  | none => simp
  | some p =>
    simp only [Traced.result_bind, Outcome.bind_eq_ok, Option.some.injEq, forall_eq',
      Resolved.Property.compatible]
    refine exists_congr fun q => and_congr_right fun _ => ?_
    cases hreason : q.incompatibility? p <;> simp [Traced.fail]

lemma checkOverrides_eq_ok {child : Schema} {properties : List Resolved.Property}
    {parent : ScopedName} :
    (r.checkOverrides child properties parent).result = .ok () ↔
      ∃ p, r.document.find? parent = some p ∧
        ∀ inherited ∈ p.properties,
          (r.checkOverride child p properties inherited).result = .ok () := by
  unfold checkOverrides
  cases r.document.find? parent with
  | none => simp [Traced.fail]
  | some p =>
    simp only [Traced.result_forM, Outcome.forM_eq_ok, Option.some.injEq, exists_eq_left']

lemma MakesKind.overrides {s : Schema} {kind : SchemaKind} {k : Resolved.SchemaKind}
    (h : r.MakesKind s kind k) :
    ∀ parent ∈ kind.parents, (r.checkOverrides s k.properties parent).result = .ok () := by
  cases h with
  | object _ overrides | interface _ overrides => exact overrides
  | hierarchy | wrapper | enum | oneOf => simp [SchemaKind.parents]

end Resolution

lemma SchemaKind.MembersNamed.parents {nested : List Schema} {kind named : SchemaKind}
    (h : kind.MembersNamed nested named) : named.parents = kind.parents := by
  cases h <;> rfl

namespace Resolution

variable {r : Resolution} {s : Schema} {t : Resolved.Schema}

lemma Makes.map_name (h : r.Makes s t) :
    t.properties.map (·.name) = s.properties.map (·.name) :=
  map_eq_map_of_forall₂ h.properties fun _ _ hq => (property_kept hq).name

lemma Makes.overrides (h : r.Makes s t) :
    ∃ named, ∀ parent ∈ s.kind.parents,
      (r.checkOverrides named t.properties parent).result = .ok () := by
  obtain ⟨named, kind, nested, hnamed, hkind, -, rfl⟩ := h.parts
  have hoverrides := (makesKind_of_kind hkind).overrides
  rw [(Schema.membersNamed_of_nameMembers hnamed).kinds.parents] at hoverrides
  exact ⟨named, hoverrides⟩

end Resolution

namespace Document

variable {d : Document} {options : Options} {resolved : ResolvedDocument} {name : String}
  {path parent ancestor : ScopedName}

lemma nodup_names_of_find? (h : (d.resolve options).result = .ok resolved) {t : Resolved.Schema}
    (ht : resolved.find? path = some t) : (t.properties.map (·.name)).Nodup := by
  obtain ⟨named, -, hmakes⟩ := makes_find?_of_resolve h
  obtain ⟨s, hs, hst⟩ := exists_of_rel_some_right (ht ▸ hmakes path)
  have hvalid := validate_eq_ok_iff_wellFormed.mp (resolve_eq_ok.mp h).1
  rw [hst.map_name]
  exact (hvalid.2.1 s (Schema.find?_mem hs)).names

theorem compatibleAt_of_extends (h : (d.resolve options).result = .ok resolved)
    (hextends : d.Extends path parent) : resolved.CompatibleAt name path parent := by
  rintro t u ht hu p hp q hq rfl hname
  obtain ⟨named, hnamed, hmakes⟩ := makes_find?_of_resolve h
  obtain ⟨s, hs, hparent⟩ := hextends
  have hst : (resolved.resolution named).Makes s t := by simpa [hs, ht] using hmakes path
  obtain ⟨v, hv, hvu⟩ := exists_of_rel_some_right (hu ▸ hmakes parent)
  obtain ⟨child, hoverrides⟩ := hst.overrides
  obtain ⟨found, hfound, hchecked⟩ :=
    Resolution.checkOverrides_eq_ok.mp (hoverrides parent hparent)
  -- the parent is looked up after naming, which leaves its properties as they are
  have hnaming := nameMembers_find? hnamed parent
  rw [hv, show named.find? parent = some found from hfound, Option.rel_some_some] at hnaming
  have hproperties : found.properties = v.properties :=
    (Schema.membersNamed_of_nameMembers hnaming).kinds.properties
  obtain ⟨below, kind, -, -, rfl⟩ := Schema.nameMembers_eq_ok.mp hnaming
  obtain ⟨inherited, hinherited, hresolved⟩ := exists_mem_of_forall₂ hvu.properties.flip hq
  rw [← hproperties] at hinherited
  -- names of properties differ, so it is this one that the inherited one is compared with
  have hfirst : t.properties.find? (·.name == inherited.name) = some p := by
    rw [← (Resolution.property_kept hresolved).name, hname]
    exact find?_eq_some_of_nodup (nodup_names_of_find? h ht) hp
  obtain ⟨q', hq', hcompatible⟩ :=
    Resolution.checkOverride_eq_ok.mp (hchecked inherited hinherited) p hfirst
  obtain rfl : q = q' := Except.ok.inj (hresolved.symm.trans hq')
  exact hcompatible

lemma isSome_find?_resolve (h : (d.resolve options).result = .ok resolved) (path : ScopedName) :
    (resolved.find? path).isSome = d.has path := by
  obtain ⟨named, -, hmakes⟩ := makes_find?_of_resolve h
  exact isSome_eq_of_rel (hmakes path)

/-- What agrees with a schema that declares the property agrees with all that this one does. -/
lemma compatibleAt_trans (h : (d.resolve options).result = .ok resolved)
    (hdeclares : d.Declares name parent) (hbelow : resolved.CompatibleAt name path parent)
    (habove : resolved.CompatibleAt name parent ancestor) :
    resolved.CompatibleAt name path ancestor := by
  intro t u ht hu p hp q hq hpname hqname
  obtain ⟨s, hs, hname⟩ := hdeclares
  obtain ⟨named, -, hmakes⟩ := makes_find?_of_resolve h
  obtain ⟨v, hv, hsv⟩ := exists_of_rel_some (hs ▸ hmakes parent)
  rw [← hsv.map_name, List.mem_map] at hname
  obtain ⟨m, hm, hmname⟩ := hname
  have hpm := Resolved.Property.compatible_iff.mp (hbelow t v ht hv p hp m hm hpname hmname)
  have hmq := Resolved.Property.compatible_iff.mp (habove v u hv hu m hm q hq hmname hqname)
  exact Resolved.Property.compatible_iff.mpr
    ⟨hmq.1.trans hpm.1, hmq.2.1.trans hpm.2.1, hmq.2.2.trans hpm.2.2⟩

/-- Where all schemas on the way declare the property, each agrees with the next. -/
theorem compatibleAt_of_inheritsThrough (h : (d.resolve options).result = .ok resolved)
    (hthrough : d.InheritsThrough (d.Declares name) path ancestor) :
    resolved.CompatibleAt name path ancestor := by
  induction hthrough with
  | direct hextends => exact compatibleAt_of_extends h hextends
  | step hextends hdeclares _ ih =>
    exact compatibleAt_trans h hdeclares (compatibleAt_of_extends h hextends) ih

section Across

lemma InheritsThrough.tail {P : ScopedName → Prop} (h : d.InheritsThrough P path parent)
    (hP : P parent) (hlast : d.Extends parent ancestor) : d.InheritsThrough P path ancestor := by
  induction h with
  | direct hextends => exact .step hextends hP (.direct hlast)
  | step hextends hpassed _ ih => exact .step hextends hpassed (ih hP hlast)

variable (h : (d.resolve options).result = .ok resolved)
  (hacross : ∀ path ancestor, d.InheritsAcross name path ancestor →
    resolved.CompatibleAt name path ancestor)
include h hacross

lemma compatibleAt_of_skips
    (hskips : d.InheritsThrough (fun passed => ¬d.Declares name passed) path ancestor) :
    resolved.CompatibleAt name path ancestor := by
  cases hskips with
  | direct hextends => exact compatibleAt_of_extends h hextends
  | step hextends hpassed above => exact hacross _ _ ⟨_, hextends, hpassed, above⟩

/-- A line of inheritance is cut at the schemas that declare the property. Up to the first of them
it skips all others, and from there on it agrees by induction. -/
theorem compatibleAt_of_inherits (hinherits : d.Inherits path ancestor) :
    resolved.CompatibleAt name path ancestor := by
  obtain ⟨parent, hextends, habove⟩ := Relation.TransGen.head'_iff.mp hinherits
  have hskips : d.InheritsThrough (fun passed => ¬d.Declares name passed) path parent :=
    .direct hextends
  clear hextends hinherits
  induction habove using Relation.ReflTransGen.head_induction_on generalizing path with
  | refl => exact compatibleAt_of_skips h hacross hskips
  | @head parent next hextends _ ih =>
    by_cases hparent : d.Declares name parent
    · exact compatibleAt_trans h hparent (compatibleAt_of_skips h hacross hskips)
        (ih (.direct hextends))
    · exact ih (hskips.tail hparent hextends)

end Across

lemma InheritsThrough.inherits {P : ScopedName → Prop} (h : d.InheritsThrough P path ancestor) :
    d.Inherits path ancestor := by
  induction h with
  | direct hextends => exact .single hextends
  | step hextends _ _ ih => exact .head hextends ih

lemma InheritsAcross.inherits (h : d.InheritsAcross name path ancestor) :
    d.Inherits path ancestor := by
  obtain ⟨parent, hextends, -, habove⟩ := h
  exact .head hextends habove.inherits

lemma has_of_inherits (h : d.validate = .ok ()) (hinherits : d.Inherits path ancestor) :
    d.has path ∧ d.has ancestor := by
  have hschemas := (validate_eq_ok_iff_wellFormed.mp h).2.1
  have hextends : ∀ {path parent}, d.Extends path parent → d.has path ∧ d.has parent := by
    rintro path parent ⟨s, hs, hparent⟩
    refine ⟨by rw [has, hs, Option.isSome_some], ?_⟩
    have hkind := (hschemas s (Schema.find?_mem hs)).kind
    generalize s.kind = kind at hkind hparent
    cases kind with
    | object | interface => exact hkind parent hparent
    | enum | hierarchy | wrapper | oneOf => exact absurd hparent List.not_mem_nil
  induction hinherits with
  | single hlast => exact hextends hlast
  | tail _ hlast ih => exact ⟨ih.1, (hextends hlast).2⟩

lemma exists_path_of_mem_resolve (h : (d.resolve options).result = .ok resolved)
    {t : Resolved.Schema} (ht : t ∈ resolved.allSchemas) :
    ∃ path, resolved.find? path = some t := by
  obtain ⟨named, -, hmakes⟩ := makes_of_resolve h
  obtain ⟨s, hs, hst⟩ := exists_mem_of_forall₂ (Resolution.makes_flattenAll hmakes).flip ht
  obtain ⟨path, hpath⟩ := exists_find?_of_mem (resolve_eq_ok.mp h).1 hs
  obtain ⟨named', -, hfound⟩ := makes_find?_of_resolve h
  obtain ⟨u, hu, hsu⟩ := exists_of_rel_some (hpath ▸ hfound path)
  exact ⟨path, hu.trans (congrArg some (hsu.unique hst))⟩

/-- All properties agree with what their schemas inherit in one step, and along lines of schemas
that all declare them. So all inherited properties are compatible as soon as those are that are
inherited across schemas which do not declare them. -/
theorem inherited_compatible_iff (h : (d.resolve options).result = .ok resolved) :
    (∀ t ∈ resolved.allSchemas, ∃ path, resolved.find? path = some t) ∧
      (∀ path ancestor, d.Inherits path ancestor →
        (resolved.find? path).isSome ∧ (resolved.find? ancestor).isSome) ∧
      (∀ name path ancestor, d.InheritsThrough (d.Declares name) path ancestor →
        resolved.CompatibleAt name path ancestor) ∧
      ((∀ name path ancestor, d.Inherits path ancestor →
          resolved.CompatibleAt name path ancestor) ↔
        ∀ name path ancestor, d.InheritsAcross name path ancestor →
          resolved.CompatibleAt name path ancestor) := by
  refine ⟨fun t => exists_path_of_mem_resolve h, fun path ancestor hinherits => ?_,
    fun name path ancestor => compatibleAt_of_inheritsThrough h, ?_⟩
  · rw [isSome_find?_resolve h, isSome_find?_resolve h]
    exact has_of_inherits (resolve_eq_ok.mp h).1 hinherits
  · constructor
    · exact fun hall name path ancestor hacross => hall name path ancestor hacross.inherits
    · exact fun hacross name path ancestor => compatibleAt_of_inherits h (hacross name)

/-- A cat that inherits from an animal by way of a pet, each with properties of its own. -/
def pedigree (pet cat : List Property) : Document :=
  { Document.titled "Pedigree" "1" with
    schemas := [
      .top "Animal" (.object { properties := [{ name := "tag", type := .scalar .string none }] }),
      .top "Pet" (.object { properties := pet, parent := some ["Animal"] }),
      .top "Cat" (.object { properties := cat, parent := some ["Pet"] })] }

lemma pedigree_extends (pet cat : List Property) :
    (pedigree pet cat).Extends ["Cat"] ["Pet"] ∧ (pedigree pet cat).Extends ["Pet"] ["Animal"] :=
  ⟨⟨_, rfl, List.mem_singleton_self _⟩, _, rfl, List.mem_singleton_self _⟩

/-- A property that the parent does not declare is not compared with the one of the grandparent. -/
theorem compatibleAt_pedigree_across :
    let d := pedigree [] [{ name := "tag", type := .scalar .integer none }]
    d.Inherits ["Cat"] ["Animal"] ∧
      ∃ resolved, (d.resolve .default).result = .ok resolved ∧
        ¬resolved.CompatibleAt "tag" ["Cat"] ["Animal"] := by
  obtain ⟨hcat, hpet⟩ := pedigree_extends [] [{ name := "tag", type := .scalar .integer none }]
  obtain ⟨resolved, h, cat, hfind, animal, hfindAnimal, p, hp, q, hq, hpname, hqname, hdiffer⟩ :
      ∃ resolved, ((pedigree [] [{ name := "tag", type := .scalar .integer none }]).resolve
        .default).result = .ok resolved ∧
          ∃ cat ∈ resolved.find? ["Cat"], ∃ animal ∈ resolved.find? ["Animal"],
            ∃ p ∈ cat.properties, ∃ q ∈ animal.properties,
              p.name = "tag" ∧ q.name = "tag" ∧ ¬q.compatible p := by
    decide +kernel
  refine ⟨.head hcat (.single hpet), resolved, h, fun hcompatible => hdiffer ?_⟩
  exact hcompatible cat animal hfind hfindAnimal p hp q hq hpname hqname

theorem inherited_compatible_iff_pedigree :
    let tag : Property := { name := "tag", type := .scalar .string none }
    let d := pedigree [tag] [tag]
    ∃ resolved, (d.resolve .default).result = .ok resolved ∧
      (resolved.find? ["Cat"]).map (·.properties.map (·.name)) = some ["tag"] ∧
      (resolved.find? ["Animal"]).map (·.properties.map (·.name)) = some ["tag"] ∧
      resolved.CompatibleAt "tag" ["Cat"] ["Animal"] := by
  intro tag d
  obtain ⟨resolved, h, hnames⟩ : ∃ resolved, (d.resolve .default).result = .ok resolved ∧
      (resolved.find? ["Cat"]).map (·.properties.map (·.name)) = some ["tag"] ∧
        (resolved.find? ["Animal"]).map (·.properties.map (·.name)) = some ["tag"] := by
    decide +kernel +zetaReduce
  obtain ⟨hcat, hpet⟩ := pedigree_extends [tag] [tag]
  obtain ⟨-, -, hthrough, -⟩ := inherited_compatible_iff h
  refine ⟨resolved, h, hnames.1, hnames.2, hthrough "tag" _ _ (.step hcat ?_ (.direct hpet))⟩
  exact ⟨_, rfl, List.mem_singleton_self _⟩

end Document

end SwiftClient
