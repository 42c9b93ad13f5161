import SwiftClient.Proofs.Document.Location
import SwiftClient.Proofs.Resolution.Kept

/-!
# Schemas under their scoped names

A scoped name is meant to be the location of its schema. Where it is, the schema is found by it, and
references to the schema are of the type that the schema is declared with.
-/
namespace SwiftClient

/-- A schema is found by its scoped name, and the type that it is declared with is what this name
and its usages are resolved to. -/
structure Schema.FoundByName (d : Document) (s : Schema) : Prop where
  found : d.find? s.scopedName = some s
  type : ∀ options resolved, (d.resolve options).result = .ok resolved →
    ∃ t, resolved.find? s.scopedName = some t ∧ s.Kept resolved.options.package t ∧
      t.type = s.scopedName.swiftType resolved.options.package ∧
      ∀ (u : TypeUsage) (context : String), u.classification.isNamed →
        u.scopedName = some s.scopedName →
          u.swiftType resolved.options.package context = .ok t.type

namespace Document

variable {d : Document}

lemma foundByName_of_find? {s : Schema} (h : d.find? s.scopedName = some s) : s.FoundByName d := by
  refine ⟨h, fun options resolved hresolved => ?_⟩
  obtain ⟨named, -, hmakes⟩ := makes_find?_of_resolve hresolved
  obtain ⟨t, hfound, ht⟩ := exists_of_rel_some (h ▸ hmakes s.scopedName)
  refine ⟨t, hfound, ht.kept, ht.type, fun u context hnamed hname => ?_⟩
  rw [TypeUsage.swiftType_named hnamed hname, ht.type]
  rfl

/-- In a valid document each schema is found at its location and ends its scoped name. Where the
scoped name is the location, the schema is found by name. -/
theorem foundByName_of_located (h : d.validate = .ok ()) :
    (∀ path s, (path, s) ∈ d.located ↔ d.find? path = some s) ∧
      ∀ path s, (path, s) ∈ d.located →
        s.scopedName.getLast? = some s.name ∧ (s.scopedName = path → s.FoundByName d) := by
  refine ⟨fun path s => mem_located_iff h, fun path s hs => ?_⟩
  have hfound := (mem_located_iff h).mp hs
  refine ⟨((wellNamed_of_validate h).2 s (Schema.find?_mem hfound)).last, ?_⟩
  rintro rfl
  exact foundByName_of_find? hfound

/-- A pet whose scoped name places it in a shop that is not there, and its owner. -/
def strayPet : Document :=
  { Document.titled "Pets" "1" with
    schemas := [
      { Schema.top "Pet" (.object {}) with scopedName := ["Shop", "Pet"] },
      .top "Owner" (.object {
        properties := [{ name := "pet", type := .named .object ["Pet"] }] })] }

/-- A scoped name that is no location is valid. No schema is found by it, and the schema is declared
with another type than its references have. -/
theorem validate_strayPet :
    strayPet.validate = .ok () ∧
      (∃ s, (["Pet"], s) ∈ strayPet.located ∧ s.scopedName = ["Shop", "Pet"]) ∧
      strayPet.has ["Shop", "Pet"] = false ∧
      ∃ resolved, (strayPet.resolve .default).result = .ok resolved ∧
        resolved.schemas.map (·.type) = [.named "Api.Shop.Pet", .named "Api.Owner"] ∧
        resolved.schemas.map (·.properties.map (·.type)) = [[], [.named "Api.Pet"]] := by
  have hvalid : strayPet.validate = .ok () := by decide +kernel
  exact ⟨hvalid, ⟨_, (mem_located_iff hvalid).mpr rfl, rfl⟩, rfl, by decide +kernel⟩

theorem foundByName_of_located_petShop :
    petShop.validate = .ok () ∧
      (∃ s, (["Pet", "Size"], s) ∈ petShop.located ∧ s.scopedName = ["Pet", "Size"] ∧
        s.FoundByName petShop) ∧
      ∃ resolved, (petShop.resolve .default).result = .ok resolved := by
  have hvalid : petShop.validate = .ok () := by decide +kernel
  obtain ⟨hlocated, hnames⟩ := foundByName_of_located hvalid
  have hsize := (hlocated ["Pet", "Size"] _).mpr rfl
  exact ⟨hvalid, ⟨_, hsize, rfl, (hnames _ _ hsize).2 rfl⟩, exists_resolve_petShop⟩

end Document

end SwiftClient
