import SwiftClient.Code.Model
import SwiftClient.Proofs.Code.Reading
import SwiftClient.Proofs.Naming.ClassName
import SwiftClient.Proofs.Resolution.Made

/-!
# Types that are declared

The file of a schema declares the schema and, as far as the declarations of schemas hold what is
nested in them, all that is nested in it.
-/
namespace SwiftClient

namespace Code

@[simp] lemma types_nil : types [] = [] := rfl

@[simp] lemma types_append (code code' : Code) :
    types (code ++ code') = types code ++ types code' :=
  read_append code code'

@[simp] lemma types_indented (code : Code) : types (indented code) = (types code).map deeper :=
  read_indented rfl code

@[simp] lemma types_flatMap {α : Type} (items : List α) (g : α → Code) :
    types (items.flatMap g) = items.flatMap fun item => types (g item) := by
  induction items with
  | nil => rfl
  | cons item items ih => rw [List.flatMap_cons, List.flatMap_cons, types_append, ih]

lemma types_plain_cons {start : String} (h : IsPlain start) (rest : String) (code : Code) :
    types ((start ++ rest) :: code) = types code := by
  unfold types
  rw [read_cons, readLine_plain h]
  rfl

lemma types_literal_cons {line : String} (h : IsPlain line) (code : Code) :
    types (line :: code) = types code := by
  have hplain := types_plain_cons h "" code
  rwa [String.append_empty] at hplain

@[simp] lemma types_blank_cons (code : Code) : types ("" :: code) = types code := rfl

lemma types_map_eq_nil {α : Type} {items : List α} {g : α → String}
    (h : ∀ item, readLine typeName? (g item) = none) : types (items.map g) = [] := by
  refine read_eq_nil fun line hline => ?_
  obtain ⟨item, -, rfl⟩ := List.mem_map.mp hline
  exact h item

lemma types_plain_block {start : String} (h : IsPlain start) (rest : String) (body : Code) :
    types (block (start ++ rest) body) = (types body).map deeper := by
  unfold block enclosed
  rw [List.cons_append, String.append_assoc, types_plain_cons h, types_append, types_indented,
    types_literal_cons (by decide), types_nil, List.append_nil]

lemma types_literal_block {head : String} (h : IsPlain head) (body : Code) :
    types (block head body) = (types body).map deeper := by
  have hplain := types_plain_block h "" body
  rwa [String.append_empty] at hplain

@[simp] lemma types_documentation (description : Option String) :
    types (documentation description) = [] := by
  unfold documentation
  split
  · rfl
  · rfl
  · exact types_plain_cons (by decide) _ _

@[simp] lemma types_documented (description : Option String) (declaration : Code) :
    types (documented description declaration) = types declaration := by
  simp [documented]

lemma types_plain_map {α : Type} {start : String} (h : IsPlain start) (items : List α)
    (rest : α → String) : types (items.map fun item => start ++ rest item) = [] :=
  types_map_eq_nil fun item => readLine_plain h (rest item)

@[simp] lemma types_storedProperties (properties : List Resolved.Property) :
    types (storedProperties properties) = [] := by
  have hline : ∀ p : Resolved.Property,
      types ["public var " ++ p.identifier ++ ": " ++ p.usage.expression] = [] := by
    intro p
    rw [String.append_assoc, String.append_assoc, types_plain_cons (by decide), types_nil]
  simp [storedProperties, hline]

@[simp] lemma types_initializer (properties : List Resolved.Property) :
    types (initializer properties) = [] := by
  simp only [initializer, String.append_assoc]
  rw [types_plain_block (by decide), types_plain_map (by decide), List.map_nil]

@[simp] lemma types_codingKeys (properties : List Resolved.Property) :
    types (codingKeys properties) = [] := by
  unfold codingKeys
  split_ifs
  · rfl
  · simp only [String.append_assoc]
    rw [types_blank_cons, types_literal_block (by decide), types_plain_map (by decide),
      List.map_nil]

@[simp] lemma types_structureMembers (properties : List Resolved.Property) :
    types (structureMembers properties) = [] := by
  simp [structureMembers]

@[simp] lemma types_enumCases (members : List Resolved.EnumMember) :
    types (enumCases members) = [] := by
  simp only [enumCases, String.append_assoc]
  exact types_plain_map (by decide) _ _

@[simp] lemma types_memberCases (members : List Resolved.Member) :
    types (memberCases members) = [] := by
  simp only [memberCases, valueCase, String.append_assoc]
  exact types_plain_map (by decide) _ _

@[simp] lemma types_wrapperMembers (type : String) : types (wrapperMembers type) = [] := by
  simp only [wrapperMembers, List.cons_append, List.nil_append, String.append_assoc]
  rw [types_plain_cons (by decide), types_blank_cons, types_plain_block (by decide),
    types_literal_cons (by decide)]
  rfl

lemma types_case {start : String} (h : IsPlain start) (rest : String) (body : Code) :
    types (case (start ++ rest) body) = (types body).map deeper := by
  rw [case, String.append_assoc, types_plain_cons h, types_indented]

@[simp] lemma types_switch (value : String) (cases : Code) :
    types (switch value cases) = types cases := by
  rw [switch, List.cons_append, String.append_assoc, types_plain_cons (by decide), types_append,
    types_literal_cons (by decide), types_nil, List.append_nil]

@[simp] lemma types_discriminatorKeys (d : Resolved.Discriminator) :
    types (discriminatorKeys d) = [] := by
  simp only [discriminatorKeys, String.append_assoc]
  rw [types_literal_block (by decide), types_plain_cons (by decide)]
  rfl

@[simp] lemma types_discriminated (d : Resolved.Discriminator) : types (discriminated d) = [] := by
  have hmapping : ∀ m : Resolved.Mapping, types (case ("case " ++ stringLiteral m.value)
      ["self = ." ++ m.memberName ++ "(try " ++ m.type.expression ++ "(from: decoder))"]) = [] := by
    intro m
    simp only [String.append_assoc]
    rw [types_case (by decide), types_plain_cons (by decide)]
    rfl
  have hdefault : ∀ rest : String,
      types (case "default" ["throw DecodingError.dataCorruptedError(forKey: " ++ rest]) = [] := by
    intro rest
    change types (case ("default" ++ "") _) = []
    rw [types_case (by decide), types_plain_cons (by decide)]
    rfl
  simp only [discriminated, List.cons_append, List.nil_append]
  rw [types_literal_cons (by decide)]
  simp only [String.append_assoc] at hmapping ⊢
  rw [types_plain_cons (by decide), types_switch, types_append, types_flatMap, hdefault]
  simp [hmapping]

@[simp] lemma types_attempted (className : String) (members : List Resolved.Member) :
    types (attempted className members) = [] := by
  have hmember : ∀ m : Resolved.Member, types (block
      ("if let value = try? container.decode(" ++ m.type.expression ++ ".self)")
      ["self = ." ++ m.identifier ++ "(value)", "return"]) = [] := by
    intro m
    simp only [String.append_assoc]
    rw [types_plain_block (by decide), types_plain_cons (by decide), types_literal_cons (by decide)]
    rfl
  simp only [attempted]
  rw [List.cons_append, types_literal_cons (by decide), types_append, types_flatMap]
  simp only [String.append_assoc] at hmember ⊢
  rw [types_plain_cons (by decide)]
  simp [hmember]

lemma types_coding {members decoding encoding : Code} (hmembers : types members = [])
    (hdecoding : types decoding = []) (hencoding : types encoding = []) :
    types (members ++ "" :: decodingInitializer decoding ++ "" :: encodingFunction encoding) =
      [] := by
  unfold decodingInitializer encodingFunction
  rw [types_append, types_append, hmembers, types_blank_cons, types_blank_cons,
    types_literal_block (by decide), types_literal_block (by decide), hdecoding, hencoding]
  rfl

@[simp] lemma types_encodedCases (names : List String) : types (encodedCases names) = [] := by
  have hname : ∀ name : String, types (case ("case ." ++ name ++ "(let value)")
      ["try value.encode(to: encoder)"]) = [] := by
    intro name
    simp only [String.append_assoc]
    rw [types_case (by decide), types_literal_cons (by decide)]
    rfl
  simp [encodedCases, hname]

/-- Names that can be told from what comes after them. -/
def IsTypeName (name : String) : Prop := ':' ∉ name.toList ∧ ' ' ∉ name.toList

lemma isTypeName_className (name : String) : IsTypeName (Naming.className name) :=
  ⟨Naming.not_mem_className (by decide) (by decide) (by decide) name,
    Naming.not_mem_className (by decide) (by decide) (by decide) name⟩

lemma types_declared {head name : String} (hhead : head ∈ typeHeads) (hname : IsTypeName name)
    {tail : String} (htail : (tail ++ " \x7b").toList.head? = some ':' ∨
      (tail ++ " \x7b").toList.head? = some ' ') (body : Code) :
    types (block (head ++ (name ++ tail)) body) = (0, name) :: (types body).map deeper := by
  unfold block enclosed
  rw [List.cons_append, String.append_assoc, String.append_assoc]
  unfold types
  rw [read_cons, readLine_head hhead hname htail]
  change _ :: types (indented body ++ ["\x7d"]) = _
  rw [types_append, types_indented, types_literal_cons (by decide), types_nil, List.append_nil]
  rfl

lemma types_inheriting {head name : String} (hhead : head ∈ typeHeads) (hname : IsTypeName name)
    (inherited : String) (body : Code) :
    types (block (head ++ name ++ ": " ++ inherited) body) =
      (0, name) :: (types body).map deeper := by
  rw [String.append_assoc, String.append_assoc]
  exact types_declared hhead hname (Or.inl (by simp)) body

end Code

namespace Resolved

open Code (deeper)

mutual

/-- All the types that a schema stands for, the outer ones first, with their depths. -/
def Schema.outline : Schema → List (Nat × String)
  | ⟨_, className, _, _, _, _, _, _, _, nested⟩ => (0, className) :: (outlineAll nested).map deeper

def outlineAll : List Schema → List (Nat × String)
  | [] => []
  | s :: rest => s.outline ++ outlineAll rest

end

mutual

def Schema.heldInside : Schema → List (Nat × String)
  | ⟨_, className, _, _, _, _, _, _, kind, nested⟩ =>
    (0, className) ::
      match kind with
      | .enum _ _ => []
      | .wrapper _ => []
      | .oneOf _ _ => []
      | _ => (heldAllInside nested).map deeper

def heldAllInside : List Schema → List (Nat × String)
  | [] => []
  | s :: rest => s.heldInside ++ heldAllInside rest

end

/-- The types in the file of a schema at the top. -/
def Schema.held (s : Schema) : List (Nat × String) :=
  (0, s.className) ::
    match s.kind with
    | .object _ _ _ _ => (heldAllInside s.nested).map deeper
    | .oneOf _ _ => (heldAllInside s.nested).map deeper
    | _ => []

mutual

/-- Within another schema, only structures have other schemas in them. -/
def Schema.HoldsInside : Schema → Prop
  | ⟨_, _, _, _, _, _, _, _, kind, nested⟩ =>
    match kind with
    | .enum _ _ => nested = []
    | .wrapper _ => nested = []
    | .oneOf _ _ => nested = []
    | _ => HoldAllInside nested

def HoldAllInside : List Schema → Prop
  | [] => True
  | s :: rest => s.HoldsInside ∧ HoldAllInside rest

end

/-- At the top, only objects and choices have other schemas in them. -/
def Schema.Holds (s : Schema) : Prop :=
  match s.kind with
  | .object _ _ _ _ => HoldAllInside s.nested
  | .oneOf _ _ => HoldAllInside s.nested
  | _ => s.nested = []

end Resolved

namespace Code

open Resolved (heldAllInside)
open Resolved.Schema (flattenAll flatten_eq)

lemma types_enum {name : String} (hname : IsTypeName name) (valueType : SwiftType)
    (members : List Resolved.EnumMember) :
    types (block (enumHead name valueType) (enumCases members)) = [(0, name)] := by
  have hhead : enumHead name valueType =
      "public enum " ++ name ++ ": " ++ (valueType.expression ++ ", Codable, CaseIterable") := by
    simp only [enumHead, String.append_assoc]
  rw [hhead, types_inheriting (by decide) hname, types_enumCases, List.map_nil]

lemma types_codable {head name : String} (hhead : head ∈ typeHeads) (hname : IsTypeName name)
    (body : Code) :
    types (block (head ++ name ++ ": Codable, Equatable") body) =
      (0, name) :: (types body).map deeper := by
  have hsplit : ": Codable, Equatable" = ": " ++ "Codable, Equatable" := rfl
  rw [hsplit, ← String.append_assoc]
  exact types_inheriting hhead hname _ body

mutual

lemma types_nestedDeclaration (s : Resolved.Schema) (h : ∀ u ∈ s.flatten, IsTypeName u.className) :
    types (nestedDeclaration s) = s.heldInside := by
  obtain ⟨_, className, _, _, _, _, _, _, kind, nested⟩ := s
  rw [flatten_eq, List.forall_mem_cons] at h
  obtain ⟨hname, hnested⟩ := h
  have hbody : ∀ properties, types (structureMembers properties ++
      if nested.isEmpty then [] else "" :: nestedDeclarations nested) = heldAllInside nested := by
    intro properties
    rw [types_append, types_structureMembers, List.nil_append]
    split_ifs with hempty
    · rw [List.isEmpty_iff.mp hempty]
      rfl
    · rw [types_blank_cons, types_nestedDeclarations nested hnested]
  cases kind with
  | enum valueType members => exact types_enum hname valueType members
  | wrapper property =>
    rw [nestedDeclaration, types_codable (by decide) hname, types_wrapperMembers]
    rfl
  | oneOf members discriminator =>
    rw [nestedDeclaration, types_codable (by decide) hname, types_memberCases]
    rfl
  | object => exact (types_codable (by decide) hname _).trans (by rw [hbody]; rfl)
  | interface => exact (types_codable (by decide) hname _).trans (by rw [hbody]; rfl)
  | hierarchy => exact (types_codable (by decide) hname _).trans (by rw [hbody]; rfl)

lemma types_nestedDeclarations (ss : List Resolved.Schema)
    (h : ∀ u ∈ flattenAll ss, IsTypeName u.className) :
    types (nestedDeclarations ss) = heldAllInside ss := by
  match ss with
  | [] => rfl
  | s :: rest =>
    rw [flattenAll, List.forall_mem_append] at h
    rw [nestedDeclarations, types_append, types_documented, types_nestedDeclaration s h.1,
      types_nestedDeclarations rest h.2]
    rfl

end

lemma types_nestedExtension (s : Resolved.Schema) (h : ∀ u ∈ flattenAll s.nested,
    IsTypeName u.className) :
    types (nestedExtension s) = (heldAllInside s.nested).map deeper := by
  unfold nestedExtension
  split_ifs with hempty
  · rw [List.isEmpty_iff.mp hempty]
    rfl
  · rw [types_blank_cons, types_plain_block (by decide), types_nestedDeclarations s.nested h]

/-- The file of a schema declares the schema and what its declaration holds. -/
theorem types_model (s : Resolved.Schema) (h : ∀ u ∈ s.flatten, IsTypeName u.className) :
    types (model s) = s.held := by
  rw [flatten_eq, List.forall_mem_cons] at h
  obtain ⟨hname, hnested⟩ := h
  have himports : ∀ code, types (["", "", "import Foundation"] ++ code) = types code := by
    intro code
    change types ("import Foundation" :: code) = types code
    exact types_literal_cons (by decide) code
  rw [model, himports, types_documented]
  unfold declaration Resolved.Schema.held
  cases s.kind with
  | object properties parent implements discriminator =>
    simp only [object]
    rw [types_append, types_inheriting (by decide) hname, types_structureMembers,
      types_nestedExtension s hnested]
    rfl
  | enum valueType members => exact types_enum hname valueType members
  | interface properties parents implementation =>
    have hbody : types (properties.flatMap fun p => documentation p.description
        ++ ["var " ++ p.identifier ++ ": " ++ p.usage.expression ++ " \x7b get \x7d"]) = [] := by
      have hline : ∀ p : Resolved.Property, types
          ["var " ++ p.identifier ++ ": " ++ p.usage.expression ++ " \x7b get \x7d"] = [] := by
        intro p
        simp only [String.append_assoc]
        exact types_plain_cons (by decide) _ _
      simp [hline]
    simp only [protocol]
    split_ifs
    · rw [String.append_assoc, types_declared (by decide) hname (Or.inr rfl), hbody]
      rfl
    · rw [← String.append_assoc, types_inheriting (by decide) hname, hbody]
      rfl
  | hierarchy properties discriminator members =>
    simp only [hierarchy]
    have hmembers : types ((discriminator.mappings.map fun m => valueCase m.memberName m.type)
        ++ "" :: discriminatorKeys discriminator) = [] := by
      simp only [valueCase, String.append_assoc]
      rw [types_append, types_plain_map (by decide), types_blank_cons, types_discriminatorKeys]
      rfl
    rw [types_codable (by decide) hname,
      types_coding hmembers (types_discriminated _) (types_encodedCases _)]
    rfl
  | wrapper property =>
    have hmembers : types (["public var rawValue: " ++ property.usage.expression, ""]
        ++ block ("public init(rawValue: " ++ property.usage.expression ++ ")")
          ["self.rawValue = rawValue"]) = [] := by
      rw [types_append, types_plain_cons (by decide), types_blank_cons, String.append_assoc,
        types_plain_block (by decide), types_literal_cons (by decide)]
      rfl
    have hdecoding : types ["let container = try decoder.singleValueContainer()",
        "self.rawValue = try container.decode(" ++ property.usage.expression ++ ".self)"] = [] := by
      rw [types_literal_cons (by decide), String.append_assoc, types_plain_cons (by decide)]
      rfl
    have hencoding : types ["var container = encoder.singleValueContainer()",
        "try container.encode(rawValue)"] = [] := by decide
    have hsplit : ": Codable, Equatable, RawRepresentable" =
        ": " ++ "Codable, Equatable, RawRepresentable" := rfl
    simp only [wrapper]
    rw [hsplit, ← String.append_assoc, types_inheriting (by decide) hname,
      types_coding hmembers hdecoding hencoding]
    rfl
  | oneOf members discriminator =>
    simp only [oneOf]
    rw [types_append, types_codable (by decide) hname, types_nestedExtension s hnested]
    cases discriminator with
    | some d =>
      rw [types_coding (types_memberCases _) (by simp) (types_encodedCases _)]
      rfl
    | none =>
      rw [types_coding (types_memberCases _) (types_attempted _ _) (types_encodedCases _)]
      rfl

end Code

namespace Resolved

open Code (deeper)

lemma map_deeper_inj {α : Type} {xs ys : List (Nat × α)} :
    xs.map deeper = ys.map deeper ↔ xs = ys := by
  refine (List.map_injective_iff.mpr fun a b h => ?_).eq_iff
  simp only [deeper, Prod.mk.injEq, Nat.add_right_cancel_iff] at h
  exact Prod.ext h.1 h.2

/-- Parts that are not longer than others make up the same only if they are the same. -/
lemma append_eq_append_iff_of_length_le {α : Type} {xs xs' ys ys' : List α}
    (hxs : xs.length ≤ xs'.length) (hys : ys.length ≤ ys'.length) :
    xs ++ ys = xs' ++ ys' ↔ xs = xs' ∧ ys = ys' := by
  constructor
  · intro h
    have hlength := congrArg List.length h
    rw [List.length_append, List.length_append] at hlength
    exact List.append_inj h (by omega)
  · rintro ⟨rfl, rfl⟩
    rfl

mutual

lemma Schema.length_heldInside_le (s : Schema) : s.heldInside.length ≤ s.outline.length := by
  obtain ⟨_, _, _, _, _, _, _, _, kind, nested⟩ := s
  have hnested := length_heldAllInside_le nested
  cases kind <;> simp [Schema.heldInside, Schema.outline] <;> exact hnested

lemma length_heldAllInside_le (ss : List Schema) :
    (heldAllInside ss).length ≤ (outlineAll ss).length := by
  match ss with
  | [] => exact Nat.le_refl 0
  | s :: rest =>
    have hfirst := s.length_heldInside_le
    have hrest := length_heldAllInside_le rest
    simp only [heldAllInside, outlineAll, List.length_append]
    omega

end

lemma outlineAll_eq_nil_iff {ss : List Schema} : outlineAll ss = [] ↔ ss = [] := by
  cases ss with
  | nil => simp [outlineAll]
  | cons s rest =>
    obtain ⟨_, _, _, _, _, _, _, _, _, _⟩ := s
    simp [outlineAll, Schema.outline]

mutual

lemma Schema.heldInside_eq_outline_iff (s : Schema) : s.heldInside = s.outline ↔ s.HoldsInside := by
  obtain ⟨_, _, _, _, _, _, _, _, kind, nested⟩ := s
  have hnested := heldAllInside_eq_outlineAll_iff nested
  cases kind <;>
    simp only [Schema.heldInside, Schema.outline, Schema.HoldsInside, List.cons.injEq, true_and,
      map_deeper_inj, hnested] <;>
    rw [eq_comm, List.map_eq_nil_iff, outlineAll_eq_nil_iff]

lemma heldAllInside_eq_outlineAll_iff (ss : List Schema) :
    heldAllInside ss = outlineAll ss ↔ HoldAllInside ss := by
  match ss with
  | [] => simp [heldAllInside, outlineAll, HoldAllInside]
  | s :: rest =>
    rw [heldAllInside, outlineAll, append_eq_append_iff_of_length_le s.length_heldInside_le
      (length_heldAllInside_le rest), s.heldInside_eq_outline_iff,
      heldAllInside_eq_outlineAll_iff rest]
    rfl

end

/-- A file declares all that is nested in its schema just if the schemas around others hold them. -/
theorem Schema.held_eq_outline_iff (s : Schema) : s.held = s.outline ↔ s.Holds := by
  obtain ⟨_, _, _, _, _, _, _, _, kind, nested⟩ := s
  have hnested := heldAllInside_eq_outlineAll_iff nested
  cases kind <;>
    simp only [Schema.held, Schema.outline, Schema.Holds, List.cons.injEq, true_and,
      map_deeper_inj, hnested] <;>
    rw [eq_comm, List.map_eq_nil_iff, outlineAll_eq_nil_iff]

end Resolved

end SwiftClient
