import SwiftClient.Proofs.Code.Types

/-!
# Declarations inside others

What the declaration of a schema within another one states, against what that of a schema of its
kind at the top does. Enums and objects without protocols are declared alike; wrappers and choices
are not, since only those at the top say how they are decoded and encoded.
-/
namespace SwiftClient

namespace Code

@[simp] lemma stated_nil : stated [] = [] := rfl

@[simp] lemma stated_append (code code' : Code) :
    stated (code ++ code') = stated code ++ stated code' :=
  read_append code code'

@[simp] lemma stated_indented (code : Code) :
    stated (indented code) = (stated code).map deeper :=
  read_indented rfl code

@[simp] lemma stated_blank_cons (code : Code) : stated ("" :: code) = stated code := rfl

/-- Lines that start like this state something. -/
def IsStatement (start : String) : Prop :=
  (start.toList.head?.any fun c => c ≠ ' ' ∧ c ≠ '/' ∧ c ≠ '\x7d' ∧ c ≠ 'e') = true

instance (start : String) : Decidable (IsStatement start) := inferInstanceAs (Decidable (_ = _))

lemma readLine_statement {start : String} (h : IsStatement start) (rest : String) :
    readLine stated? (start ++ rest) = some (0, start ++ rest) := by
  unfold IsStatement at h
  cases hs : start.toList with
  | nil => simp [hs] at h
  | cons c cs =>
    simp only [hs, List.head?_cons, Option.any_some, decide_eq_true_eq] at h
    obtain ⟨hspace, hslash, hbrace, he⟩ := h
    have hstart : StartsInColumn start := by
      simp [StartsInColumn, hs, hspace]
    have hstated : ¬((start ++ rest).toList = [] ∨ (start ++ rest).toList = ['\x7d'] ∨
        "///".toList <+: (start ++ rest).toList ∨
          "extension ".toList <+: (start ++ rest).toList) := by
      rw [String.toList_append, hs, List.cons_append]
      rintro (h | h | h | h)
      · cases h
      · exact hbrace (List.cons.inj h).1
      · exact hslash (List.cons_prefix_cons.mp h).1.symm
      · exact he (List.cons_prefix_cons.mp h).1.symm
    rw [readLine_start hstart, stated?, if_neg hstated, String.ofList_toList]
    rfl

lemma stated_cons {start : String} (h : IsStatement start) (rest : String) (code : Code) :
    stated ((start ++ rest) :: code) = (0, start ++ rest) :: stated code := by
  unfold stated
  rw [read_cons, readLine_statement h]
  rfl

lemma stated_block {start : String} (h : IsStatement start) (rest : String) (body : Code) :
    stated (block (start ++ rest) body) =
      (0, start ++ rest ++ " \x7b") :: (stated body).map deeper := by
  have hclosing : stated ["\x7d"] = [] := rfl
  unfold block enclosed
  rw [List.cons_append, String.append_assoc, stated_cons h, stated_append,
    stated_indented, hclosing, List.append_nil]

@[simp] lemma stated_documented (description : Option String) (declaration : Code) :
    stated (documented description declaration) = stated declaration := by
  have hline : ∀ text, readLine stated? ("/// " ++ text) = none := by
    intro text
    have hprefix : "///".toList <+: ("/// " ++ text).toList :=
      ⟨' ' :: text.toList, by rw [String.toList_append]; rfl⟩
    have hstart : StartsInColumn "/// " := rfl
    rw [readLine_start hstart, stated?, if_pos (Or.inr (Or.inr (Or.inl hprefix)))]
    rfl
  have hdocumentation : stated (documentation description) = [] := by
    unfold documentation
    split
    · rfl
    · rfl
    · unfold stated
      rw [read_cons, hline]
      rfl
  rw [documented, stated_append, stated_blank_cons, hdocumentation, List.nil_append]

/-- A wrapper at the top, with a name for the member that it wraps. -/
def wrapperOf (member : String) (s : Resolved.Schema) (property : Resolved.Property) : Code :=
  let type := property.usage.expression
  block ("public struct " ++ s.className ++ ": Codable, Equatable, RawRepresentable")
    (["public var " ++ member ++ ": " ++ type, ""]
      ++ block ("public init(" ++ member ++ ": " ++ type ++ ")")
        ["self." ++ member ++ " = " ++ member]
      ++ "" :: decodingInitializer
        ["let container = try decoder.singleValueContainer()",
          "self." ++ member ++ " = try container.decode(" ++ type ++ ".self)"]
      ++ "" :: encodingFunction
        ["var container = encoder.singleValueContainer()",
          "try container.encode(" ++ member ++ ")"])

/-- At the top the member is the raw value. -/
theorem wrapper_eq (s : Resolved.Schema) (property : Resolved.Property) :
    wrapper s property = wrapperOf "rawValue" s property := by
  have hvar : "public var " ++ "rawValue" ++ ": " = "public var rawValue: " := rfl
  have hinit : "public init(" ++ "rawValue" ++ ": " = "public init(rawValue: " := rfl
  have hself : "self." ++ "rawValue" ++ " = " ++ "rawValue" = "self.rawValue = rawValue" := rfl
  have hdecode : "self." ++ "rawValue" ++ " = try container.decode(" =
      "self.rawValue = try container.decode(" := rfl
  have hencode : "try container.encode(" ++ "rawValue" ++ ")" = "try container.encode(rawValue)" :=
    rfl
  simp only [wrapper, wrapperOf, hvar, hinit, hself, hdecode, hencode]

end Code

namespace Resolved

open Code (deeper stated)

/-- A schema without those nested in it. -/
def Schema.alone (s : Schema) : Schema := { s with nested := [] }

/-- What a schema within another one is measured by: the declaration of its kind at the top, with
the name that wrappers give to their member within other types. A structure that stands for an
interface or a hierarchy has nothing to be measured by. -/
def Schema.standard (s : Schema) : Code :=
  match s.kind with
  | .wrapper property => Code.wrapperOf "value" s property
  | .interface _ _ _ => Code.nestedDeclaration s.alone
  | .hierarchy _ _ _ => Code.nestedDeclaration s.alone
  | _ => Code.declaration s.alone

mutual

/-- What schemas within others would state if each were declared as at the top. -/
def Schema.expected : Schema → List (Nat × String)
  | s@⟨_, _, _, _, _, _, _, _, _, nested⟩ =>
    stated s.standard ++ (expectedAll nested).map deeper

def expectedAll : List Schema → List (Nat × String)
  | [] => []
  | s :: rest => s.expected ++ expectedAll rest

end

mutual

/-- Enums, and structures around such, that conform to no protocol. -/
def Schema.InsideAsAtTop : Schema → Prop
  | ⟨_, _, _, _, _, _, _, _, kind, nested⟩ =>
    match kind with
    | .enum _ _ => nested = []
    | .wrapper _ => False
    | .oneOf _ _ => False
    | .object _ _ implements _ => implements = [] ∧ AllInsideAsAtTop nested
    | _ => AllInsideAsAtTop nested

def AllInsideAsAtTop : List Schema → Prop
  | [] => True
  | s :: rest => s.InsideAsAtTop ∧ AllInsideAsAtTop rest

end

mutual

instance Schema.decidableInsideAsAtTop : (s : Schema) → Decidable s.InsideAsAtTop
  | ⟨_, _, _, _, _, _, _, _, kind, nested⟩ =>
    match kind with
    | .enum _ _ => inferInstanceAs (Decidable (nested = []))
    | .wrapper _ => isFalse id
    | .oneOf _ _ => isFalse id
    | .object _ _ implements _ =>
      @instDecidableAnd (implements = []) _ inferInstance (decidableAllInsideAsAtTop nested)
    | .interface _ _ _ => decidableAllInsideAsAtTop nested
    | .hierarchy _ _ _ => decidableAllInsideAsAtTop nested

instance decidableAllInsideAsAtTop : (ss : List Schema) → Decidable (AllInsideAsAtTop ss)
  | [] => isTrue trivial
  | s :: rest =>
    @instDecidableAnd _ _ s.decidableInsideAsAtTop (decidableAllInsideAsAtTop rest)

end

end Resolved

namespace Code

open Resolved (expectedAll AllInsideAsAtTop append_eq_append_iff_of_length_le map_deeper_inj)

variable {s : Resolved.Schema}

lemma stated_structure (name : String) (properties : List Resolved.Property)
    (nested : List Resolved.Schema) :
    stated (block ("public struct " ++ name ++ ": Codable, Equatable")
        (structureMembers properties
          ++ if nested.isEmpty then [] else "" :: nestedDeclarations nested)) =
      (0, "public struct " ++ name ++ ": Codable, Equatable" ++ " \x7b")
        :: (stated (structureMembers properties)).map deeper
        ++ (stated (nestedDeclarations nested)).map deeper := by
  have hnested : stated (if nested.isEmpty then [] else "" :: nestedDeclarations nested) =
      stated (nestedDeclarations nested) := by
    split_ifs with hempty
    · rw [List.isEmpty_iff.mp hempty]
      rfl
    · rfl
  have hhead : "public struct " ++ name ++ ": Codable, Equatable" =
      "public struct " ++ (name ++ ": Codable, Equatable") := String.append_assoc
  rw [hhead, stated_block (by decide), stated_append, hnested, List.map_append]
  rfl

lemma listed_eq_iff (implements : List SwiftType) :
    listed (["Codable", "Equatable"] ++ implements.map (·.expression)) = "Codable, Equatable" ↔
      implements = [] := by
  cases implements with
  | nil => exact iff_of_true rfl rfl
  | cons first rest =>
    refine iff_of_false (fun h => ?_) (List.cons_ne_nil first rest)
    have hlength := congrArg String.length h
    have hcodable : "Codable".length = 7 := rfl
    have hequatable : "Equatable".length = 9 := rfl
    have hcomma : ", ".length = 2 := rfl
    have hboth : "Codable, Equatable".length = 18 := rfl
    rw [listed, List.cons_append, List.cons_append,
      String.intercalate_cons_of_ne_nil (List.cons_ne_nil _ _),
      String.intercalate_cons_of_ne_nil (by simp)] at hlength
    simp only [String.length_append] at hlength
    omega

lemma length_encoding_pos (body : Code) : 0 < (stated (encodingFunction body)).length := by
  have hhead : "public func encode(to encoder: Encoder) throws" =
      "public func encode(to encoder: Encoder) throws" ++ "" := rfl
  rw [encodingFunction, hhead, stated_block (by decide)]
  exact Nat.succ_pos _

lemma length_oneOf_lt (s : Resolved.Schema) (members : List Resolved.Member)
    (discriminator : Option Resolved.Discriminator) :
    (stated (block ("public enum " ++ s.className ++ ": Codable, Equatable")
      (memberCases members))).length < (stated (oneOf s.alone members discriminator)).length := by
  have hhead : "public enum " ++ s.className ++ ": Codable, Equatable" =
      "public enum " ++ (s.className ++ ": Codable, Equatable") := String.append_assoc
  have hname : s.alone.className = s.className := rfl
  have hencoding := length_encoding_pos (encodedCases (members.map (·.identifier)))
  simp only [oneOf, hname, hhead, stated_append,
    stated_block (by decide : IsStatement "public enum "), List.length_append,
    List.length_cons, List.length_map, stated_blank_cons]
  omega

lemma length_wrapped {var init assignment : String} (hvar : IsStatement var)
    (hinit : IsStatement init) (hassignment : IsStatement assignment) (rest rest' : String) :
    (stated ([var ++ rest, ""] ++ block (init ++ rest') [assignment])).length = 3 := by
  have hline : [assignment] = [assignment ++ ""] := by rw [String.append_empty]
  rw [stated_append, stated_cons hvar, stated_block hinit, hline,
    stated_cons hassignment]
  rfl

lemma length_wrapper_lt (s : Resolved.Schema) (property : Resolved.Property) :
    (stated (block ("public struct " ++ s.className ++ ": Codable, Equatable")
      (wrapperMembers property.usage.expression))).length <
        (stated (wrapperOf "value" s property)).length := by
  have hhead : ∀ inherited, "public struct " ++ s.className ++ inherited =
      "public struct " ++ (s.className ++ inherited) := fun _ => String.append_assoc
  have hencoding := length_encoding_pos
    ["var container = encoder.singleValueContainer()", "try container.encode(" ++ "value" ++ ")"]
  have hinside : (stated (wrapperMembers property.usage.expression)).length = 3 := by
    rw [wrapperMembers, String.append_assoc]
    exact length_wrapped (by decide) (by decide) (by decide) _ _
  have htop : (stated (["public var " ++ "value" ++ ": " ++ property.usage.expression, ""]
      ++ block ("public init(" ++ "value" ++ ": " ++ property.usage.expression ++ ")")
        ["self." ++ "value" ++ " = " ++ "value"])).length = 3 := by
    have hinit : "public init(" ++ "value" ++ ": " ++ property.usage.expression ++ ")" =
        "public init(" ++ "value" ++ ": " ++ (property.usage.expression ++ ")") :=
      String.append_assoc
    rw [hinit]
    exact length_wrapped (by decide) (by decide) (by decide) _ _
  rw [stated_append, List.length_append] at htop
  simp only [wrapperOf, hhead, stated_append,
    stated_block (by decide : IsStatement "public struct "), List.length_append,
    List.length_cons, List.length_map, stated_blank_cons, hinside]
  omega

lemma stated_object (s : Resolved.Schema) (properties : List Resolved.Property)
    (implements : List SwiftType) :
    stated (object s.alone properties implements) =
      (0, "public struct " ++ s.className ++ ": "
        ++ listed (["Codable", "Equatable"] ++ implements.map (·.expression)) ++ " \x7b")
        :: (stated (structureMembers properties)).map deeper := by
  have hhead : ∀ inherited, "public struct " ++ s.className ++ ": " ++ inherited =
      "public struct " ++ (s.className ++ ": " ++ inherited) := by
    intro inherited
    simp only [String.append_assoc]
  have hname : s.alone.className = s.className := rfl
  have hextension : nestedExtension s.alone = [] := rfl
  rw [object, hextension, List.append_nil, hname, hhead, stated_block (by decide)]

lemma nestedDeclaration_eq (s : Resolved.Schema) :
    nestedDeclaration s =
      match s.kind with
      | .enum valueType members => block (enumHead s.className valueType) (enumCases members)
      | .wrapper property =>
        block ("public struct " ++ s.className ++ ": Codable, Equatable")
          (wrapperMembers property.usage.expression)
      | .oneOf members _ =>
        block ("public enum " ++ s.className ++ ": Codable, Equatable") (memberCases members)
      | other =>
        block ("public struct " ++ s.className ++ ": Codable, Equatable")
          (structureMembers other.properties
            ++ if s.nested.isEmpty then [] else "" :: nestedDeclarations s.nested) := by
  obtain ⟨_, _, _, _, _, _, _, _, kind, _⟩ := s
  cases kind <;> rfl

lemma stated_nestedDeclaration (s : Resolved.Schema) :
    stated (nestedDeclaration s) = stated (nestedDeclaration s.alone) ++
      match s.kind with
      | .enum _ _ => []
      | .wrapper _ => []
      | .oneOf _ _ => []
      | _ => (stated (nestedDeclarations s.nested)).map deeper := by
  have hkind : s.alone.kind = s.kind := rfl
  have hname : s.alone.className = s.className := rfl
  have hnested : s.alone.nested = [] := rfl
  rw [nestedDeclaration_eq, nestedDeclaration_eq s.alone, hkind, hname, hnested]
  cases s.kind <;> simp only [List.append_nil, stated_structure] <;> simp [nestedDeclarations]

/-- An object within another type is declared as at the top but for the protocols. -/
lemma stated_object_eq_iff (s : Resolved.Schema) (properties : List Resolved.Property)
    (implements : List SwiftType) :
    stated (block ("public struct " ++ s.className ++ ": Codable, Equatable")
        (structureMembers properties ++ [])) = stated (object s.alone properties implements) ↔
      implements = [] := by
  have hinside := stated_structure s.className properties []
  have hempty : List.isEmpty ([] : List Resolved.Schema) = true := rfl
  have hsplit : ": Codable, Equatable" = ": " ++ "Codable, Equatable" := rfl
  rw [hempty, if_pos rfl] at hinside
  rw [hinside, stated_object, nestedDeclarations, stated_nil, List.map_nil, List.append_nil,
    List.cons_eq_cons, Prod.mk.injEq, hsplit, ← String.append_assoc, String.append_left_inj,
    String.append_right_inj, eq_comm (a := "Codable, Equatable"), listed_eq_iff]
  simp

/-- A schema without others in it, declared within another one, states no more than at the top. -/
lemma length_alone_le (s : Resolved.Schema) :
    (stated (nestedDeclaration s.alone)).length ≤ (stated s.standard).length := by
  have hkind : s.alone.kind = s.kind := rfl
  have hname : s.alone.className = s.className := rfl
  have hnested : s.alone.nested = [] := rfl
  rw [nestedDeclaration_eq, hkind, hname, hnested, Resolved.Schema.standard]
  cases hs : s.kind with
  | object properties parent implements discriminator =>
    simp only [stated_structure, declaration, hkind, hs, stated_object]
    simp [nestedDeclarations, Resolved.SchemaKind.properties]
  | enum valueType members =>
    simp only [declaration, hkind, hs]
    exact Nat.le_refl _
  | interface =>
    simp only [nestedDeclaration_eq, hkind, hs]
    exact Nat.le_refl _
  | hierarchy =>
    simp only [nestedDeclaration_eq, hkind, hs]
    exact Nat.le_refl _
  | wrapper property => exact (length_wrapper_lt s property).le
  | oneOf members discriminator =>
    simp only [declaration, hkind, hs]
    exact (length_oneOf_lt s members discriminator).le

/-- A schema without others in it states the same as at the top unless it is a wrapper, a choice, or
an object with protocols. -/
lemma stated_alone_eq_iff (s : Resolved.Schema) :
    stated (nestedDeclaration s.alone) = stated s.standard ↔
      match s.kind with
      | .wrapper _ => False
      | .oneOf _ _ => False
      | .object _ _ implements _ => implements = []
      | _ => True := by
  have hkind : s.alone.kind = s.kind := rfl
  have hname : s.alone.className = s.className := rfl
  have hnested : s.alone.nested = [] := rfl
  rw [nestedDeclaration_eq, hkind, hname, hnested, Resolved.Schema.standard]
  cases hs : s.kind with
  | object properties parent implements discriminator =>
    simp only [declaration, hkind, hs]
    exact stated_object_eq_iff s properties implements
  | enum valueType members =>
    simp only [declaration, hkind, hs]
    exact iff_of_true rfl trivial
  | interface =>
    simp only [nestedDeclaration_eq, hkind, hs]
    exact iff_of_true rfl trivial
  | hierarchy =>
    simp only [nestedDeclaration_eq, hkind, hs]
    exact iff_of_true rfl trivial
  | wrapper property =>
    refine iff_of_false (fun h => ?_) id
    exact absurd (congrArg List.length h) (length_wrapper_lt s property).ne
  | oneOf members discriminator =>
    simp only [declaration, hkind, hs]
    refine iff_of_false (fun h => ?_) id
    exact absurd (congrArg List.length h) (length_oneOf_lt s members discriminator).ne

mutual

lemma length_nestedDeclaration_le (s : Resolved.Schema) :
    (stated (nestedDeclaration s)).length ≤ s.expected.length := by
  have halone := length_alone_le s
  rw [stated_nestedDeclaration]
  obtain ⟨_, _, _, _, _, _, _, _, kind, nested⟩ := s
  have hnested := length_nestedDeclarations_le nested
  cases kind <;> simp [Resolved.Schema.expected] <;> omega

lemma length_nestedDeclarations_le (ss : List Resolved.Schema) :
    (stated (nestedDeclarations ss)).length ≤ (expectedAll ss).length := by
  match ss with
  | [] => exact Nat.le_refl 0
  | s :: rest =>
    have hfirst := length_nestedDeclaration_le s
    have hrest := length_nestedDeclarations_le rest
    simp only [nestedDeclarations, expectedAll, stated_append, stated_documented,
      List.length_append]
    omega

end

lemma length_alone_pos (s : Resolved.Schema) :
    0 < (stated (nestedDeclaration s.alone)).length := by
  have hblock : ∀ {start : String}, IsStatement start → ∀ rest body,
      0 < (stated (block (start ++ rest) body)).length := by
    intro start h rest body
    rw [stated_block h]
    exact Nat.succ_pos _
  rw [nestedDeclaration_eq]
  split <;> simp only [enumHead, String.append_assoc] <;> exact hblock (by decide) _ _

lemma nil_eq_expectedAll_iff {ss : List Resolved.Schema} : [] = expectedAll ss ↔ ss = [] := by
  cases ss with
  | nil => exact iff_of_true rfl rfl
  | cons s rest =>
    refine iff_of_false (fun h => ?_) (List.cons_ne_nil s rest)
    have hpos := (length_alone_pos s).trans_le (length_alone_le s)
    have hlength := congrArg List.length h
    obtain ⟨_, _, _, _, _, _, _, _, _, _⟩ := s
    simp only [expectedAll, Resolved.Schema.expected, List.length_nil,
      List.length_append] at hlength
    omega

lemma nil_eq_map_expectedAll_iff {ss : List Resolved.Schema} :
    [] = (expectedAll ss).map deeper ↔ ss = [] := by
  rw [← nil_eq_expectedAll_iff, eq_comm, List.map_eq_nil_iff, eq_comm]

/-- A declaration that has others in it is as expected if it is alone, and they are. -/
lemma append_declarations_iff {lines lines' : List (Nat × String)} {ss : List Resolved.Schema}
    (hlength : lines.length ≤ lines'.length)
    (hnested : stated (nestedDeclarations ss) = expectedAll ss ↔ AllInsideAsAtTop ss) :
    lines ++ (stated (nestedDeclarations ss)).map deeper =
        lines' ++ (expectedAll ss).map deeper ↔
      lines = lines' ∧ AllInsideAsAtTop ss := by
  have hless : ((stated (nestedDeclarations ss)).map deeper).length ≤
      ((expectedAll ss).map deeper).length := by
    simpa using length_nestedDeclarations_le ss
  rw [append_eq_append_iff_of_length_le hlength hless, map_deeper_inj, hnested]

/-- A declaration that leaves others out is as expected if it is alone, and there are none. -/
lemma append_nil_iff {lines lines' : List (Nat × String)} {ss : List Resolved.Schema}
    (hlength : lines.length ≤ lines'.length) :
    lines ++ [] = lines' ++ (expectedAll ss).map deeper ↔ lines = lines' ∧ ss = [] := by
  rw [append_eq_append_iff_of_length_le hlength (Nat.zero_le _), nil_eq_map_expectedAll_iff]

mutual

/-- What a schema states within another one is what it would at the top, for all nested in it. -/
theorem stated_eq_expected_iff (s : Resolved.Schema) :
    stated (nestedDeclaration s) = s.expected ↔ s.InsideAsAtTop := by
  have halone := length_alone_le s
  have heq := stated_alone_eq_iff s
  rw [stated_nestedDeclaration]
  obtain ⟨_, _, _, _, _, _, _, _, kind, nested⟩ := s
  have hnested := stated_eq_expectedAll_iff nested
  rw [Resolved.Schema.expected]
  cases kind with
  | object properties parent implements discriminator =>
    simp only at heq ⊢
    rw [append_declarations_iff halone hnested, heq]
    rfl
  | enum valueType members =>
    simp only at heq ⊢
    rw [append_nil_iff halone, heq, true_and]
    rfl
  | interface properties parents implementation =>
    simp only at heq ⊢
    rw [append_declarations_iff halone hnested, heq, true_and]
    rfl
  | hierarchy properties discriminator members =>
    simp only at heq ⊢
    rw [append_declarations_iff halone hnested, heq, true_and]
    rfl
  | wrapper property =>
    simp only at heq ⊢
    rw [append_nil_iff halone, heq, false_and]
    rfl
  | oneOf members discriminator =>
    simp only at heq ⊢
    rw [append_nil_iff halone, heq, false_and]
    rfl

theorem stated_eq_expectedAll_iff (ss : List Resolved.Schema) :
    stated (nestedDeclarations ss) = expectedAll ss ↔ AllInsideAsAtTop ss := by
  match ss with
  | [] => exact iff_of_true rfl trivial
  | s :: rest =>
    rw [nestedDeclarations, expectedAll, stated_append, stated_documented,
      append_eq_append_iff_of_length_le (length_nestedDeclaration_le s)
        (length_nestedDeclarations_le rest), stated_eq_expected_iff s,
      stated_eq_expectedAll_iff rest]
    rfl

end

end Code

namespace Resolved

open Code (deeper stated)

/-- What the file of a schema would state if the schemas in it were declared as at the top. -/
def Schema.expectedFile (s : Schema) : List (Nat × String) :=
  (0, "import Foundation") :: stated (Code.declaration s.alone)
    ++ (expectedAll s.nested).map deeper

/-- Only objects and choices have others in them, which are declared as at the top. -/
def Schema.NestsAsAtTop (s : Schema) : Prop :=
  match s.kind with
  | .object _ _ _ _ => AllInsideAsAtTop s.nested
  | .oneOf _ _ => AllInsideAsAtTop s.nested
  | _ => s.nested = []

instance (s : Schema) : Decidable s.NestsAsAtTop :=
  match h : s.kind with
  | .object _ _ _ _ => decidable_of_iff (AllInsideAsAtTop s.nested) (by rw [Schema.NestsAsAtTop, h])
  | .oneOf _ _ => decidable_of_iff (AllInsideAsAtTop s.nested) (by rw [Schema.NestsAsAtTop, h])
  | .enum _ _ | .interface _ _ _ | .hierarchy _ _ _ | .wrapper _ =>
    decidable_of_iff (s.nested = []) (by rw [Schema.NestsAsAtTop, h])

end Resolved

namespace Code

open Resolved (expectedAll map_deeper_inj)

lemma stated_nestedExtension (s : Resolved.Schema) :
    stated (nestedExtension s) = (stated (nestedDeclarations s.nested)).map deeper := by
  have hhead : ∀ text, readLine stated? ("extension " ++ text) = none := by
    intro text
    have hstart : StartsInColumn "extension " := rfl
    have hprefix : "extension ".toList <+: ("extension " ++ text).toList :=
      ⟨text.toList, by rw [String.toList_append]⟩
    rw [readLine_start hstart, stated?, if_pos (Or.inr (Or.inr (Or.inr hprefix)))]
    rfl
  have hclosing : stated ["\x7d"] = [] := rfl
  unfold nestedExtension
  split_ifs with hempty
  · rw [List.isEmpty_iff.mp hempty]
    rfl
  · have hskip : ∀ text code, stated (("extension " ++ text) :: code) = stated code := by
      intro text code
      unfold stated
      rw [read_cons, hhead]
      rfl
    unfold block enclosed
    rw [stated_blank_cons, List.cons_append, String.append_assoc, hskip, stated_append,
      stated_indented, hclosing, List.append_nil]

/-- What is nested in an object or a choice at the top is declared in an extension of it. -/
lemma stated_declaration (s : Resolved.Schema) :
    stated (declaration s) = stated (declaration s.alone) ++
      match s.kind with
      | .object _ _ _ _ => (stated (nestedDeclarations s.nested)).map deeper
      | .oneOf _ _ => (stated (nestedDeclarations s.nested)).map deeper
      | _ => [] := by
  have hkind : s.alone.kind = s.kind := rfl
  have hname : s.alone.className = s.className := rfl
  have hextension : nestedExtension s.alone = [] := rfl
  unfold declaration
  rw [hkind]
  cases s.kind with
  | object properties parent implements discriminator =>
    simp only [object, hname, hextension, List.append_nil, stated_append,
      stated_nestedExtension]
  | oneOf members discriminator =>
    simp only [oneOf, hname, hextension, List.append_nil, stated_append,
      stated_nestedExtension]
  | enum => exact (List.append_nil _).symm
  | interface => exact (List.append_nil _).symm
  | hierarchy => exact (List.append_nil _).symm
  | wrapper => exact (List.append_nil _).symm

/-- The file of a schema states what is expected just if the schemas in it are such as are declared
as at the top. -/
theorem stated_model_eq_iff (s : Resolved.Schema) :
    stated (model s) = s.expectedFile ↔ s.NestsAsAtTop := by
  have himports : ∀ code, stated (["", "", "import Foundation"] ++ code) =
      (0, "import Foundation") :: stated code := fun code => rfl
  rw [model, himports, stated_documented, Resolved.Schema.expectedFile, List.cons_append,
    List.cons.injEq, stated_declaration, List.append_cancel_left_eq,
    Resolved.Schema.NestsAsAtTop]
  cases s.kind <;> simp only [true_and, map_deeper_inj, stated_eq_expectedAll_iff,
    nil_eq_map_expectedAll_iff]

end Code

end SwiftClient
