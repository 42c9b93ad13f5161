import SwiftClient.Proofs.Resolution.Failures

/-!
# Types of usages

The type of a usage is composed as the usage is. Whether a usage has a type, and which, does not
depend on where it stands; that is only said of those that have none.
-/
namespace SwiftClient

namespace TypeUsage

/-- The type that a usage has in a package. -/
inductive Typed (package : Option String) : TypeUsage → SwiftType → Prop
  | array {t c : TypeUsage} {type : SwiftType} (kind : t.classification = .array)
    (component : t.component = some c) (inside : Typed package c type) :
    Typed package t (.array type)
  | map {t k c : TypeUsage} {keyType type : SwiftType} (kind : t.classification = .map)
    (component : t.component = some c) (key : t.key = some k)
    (isKey : k.classification.isMapKey) (keyed : Typed package k keyType)
    (inside : Typed package c type) : Typed package t (.dictionary keyType type)
  | named {t : TypeUsage} {name : ScopedName} (kind : t.classification.isNamed)
    (scopedName : t.scopedName = some name) : Typed package t (name.swiftType package)
  | primitive {t : TypeUsage} {type : SwiftType} (kind : t.classification.isPrimitive)
    (scalar : t.classification.swiftType t.format = .ok type) : Typed package t type

variable {package : Option String} {t : TypeUsage} {type : SwiftType}

theorem Typed.swiftType (h : Typed package t type) (context : String) :
    t.swiftType package context = .ok type := by
  induction h with
  | array kind component _ ih =>
    rw [swiftType_array kind component, ih]
    rfl
  | map kind component key isKey _ _ ihk ihc =>
    rw [swiftType_map kind component key, if_pos isKey, ihk, ihc]
    have hscalar := component?_swiftType isKey ihk
    simp only [Outcome.bind_eq_ok, Except.ok.injEq, exists_eq_left', SwiftType.dictionaryOf,
      hscalar, Option.isSome_none, Bool.false_eq_true, if_false]
    rfl
  | named kind scopedName => exact swiftType_named kind scopedName
  | primitive kind scalar => rw [swiftType_primitive kind, scalar]

lemma Typed.unique {type' : SwiftType} (h : Typed package t type) (h' : Typed package t type') :
    type = type' :=
  Except.ok.inj ((h.swiftType "").symm.trans (h'.swiftType ""))

theorem typed_of_swiftType {context : String} (h : t.swiftType package context = .ok type) :
    Typed package t type := by
  fun_induction TypeUsage.swiftType package context t generalizing type with
  | case1 format nullable scopedName component key purpose ih =>
    simp only [Outcome.bind_eq_ok, Outcome.pure_eq_ok] at h
    obtain ⟨inner, hinner, rfl⟩ := h
    exact .array rfl rfl (ih hinner)
  | case5 format nullable scopedName component key purpose isKey ihk ihc =>
    simp only [Outcome.bind_eq_ok] at h
    obtain ⟨keyType, hkey, valueType, hvalue, h⟩ := h
    rw [SwiftType.dictionaryOf, component?_swiftType isKey hkey] at h
    cases h
    exact .map rfl rfl rfl isKey (ihk hkey) (ihc hvalue)
  | case7 => cases h; exact .named ‹_› rfl
  | case9 c format nullable scopedName component key purpose hc hnoc hm hnok hmk hnamed =>
    refine .primitive ?_ h
    cases c with
    | array =>
      rcases component with _ | component
      · exact (hnoc rfl rfl).elim
      · exact (hc component rfl rfl).elim
    | map =>
      rcases component with _ | component
      · exact (hm rfl rfl).elim
      · rcases key with _ | key
        · exact (hnok component rfl rfl rfl).elim
        · exact (hmk component key rfl rfl rfl).elim
    | object | enum | oneOf | interface | hierarchy | wrapper => exact absurd rfl hnamed
    | _ => rfl
  | case2 | case3 | case4 | case6 | case8 => cases h

end TypeUsage

end SwiftClient
