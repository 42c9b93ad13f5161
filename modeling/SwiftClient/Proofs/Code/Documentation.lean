import SwiftClient.Code.Api
import SwiftClient.Code.Model
import SwiftClient.Proofs.Code.Comments
import SwiftClient.Proofs.Resolution.Undescribed

/-!
# Documentation in code

Descriptions and summaries are put into comments above what they are about. Some are not shown at
all, such as those of properties of a hierarchy. Without descriptions, only the comments are gone.
-/
namespace SwiftClient

/-- A text is shown unless it is empty. -/
def Code.told : Option String → List String
  | none => []
  | some "" => []
  | some text => [text]

namespace Resolved

def Property.told (p : Property) : List String := Code.told p.description

mutual

/-- What is told in the declaration of a schema within another one. -/
def Schema.nestedTold : Schema → List String
  | ⟨_, _, _, _, _, _, _, _, kind, nested⟩ =>
    match kind with
    | .enum _ _ => []
    | .wrapper _ => []
    | .oneOf _ _ => []
    | other => other.properties.flatMap (·.told) ++ Schema.allNestedTold nested

def Schema.allNestedTold : List Schema → List String
  | [] => []
  | s :: rest => Code.told s.description ++ s.nestedTold ++ Schema.allNestedTold rest

end

def Schema.told (s : Schema) : List String :=
  Code.told s.description ++
    match s.kind with
    | .object properties _ _ _ =>
      properties.flatMap (·.told) ++ Schema.allNestedTold s.nested
    | .interface properties _ _ => properties.flatMap (·.told)
    | .oneOf _ _ => Schema.allNestedTold s.nested
    | _ => []

def Parameter.told (p : Parameter) : List String := Code.told p.description

/-- Of an operation, the summary is told, but not the description. -/
def Operation.told (o : Operation) : List String :=
  Code.told o.summary ++ o.parameters.flatMap (·.told)

def Group.told (g : Group) : List String :=
  Code.told g.description ++ g.operations.flatMap (·.told)

end Resolved

namespace Code

lemma documentation_eq (description : Option String) :
    documentation description = (told description).map ("/// " ++ ·) := by
  fun_cases told description with
  | case1 => rfl
  | case2 => rfl
  | case3 text hne => simp only [documentation, List.map_singleton]

lemma commented_map {start : String} (h : IsCommentStart start) (texts : List String) :
    Commented texts (texts.map (start ++ ·)) [] := by
  induction texts with
  | nil => exact .nil
  | cons text rest ih => exact .comment h text ih

lemma isCommentStart_documentation : IsCommentStart "/// " :=
  ⟨by simp [IsOneLine, isLineBreak], List.prefix_append _ [' ']⟩

lemma commented_documentation (description : Option String) :
    Commented (told description) (documentation description) (documentation none) := by
  rw [documentation_eq]
  exact commented_map isCommentStart_documentation _

lemma Commented.documented {texts : List String} {code plain : Code}
    (description : Option String) (h : Commented texts code plain) :
    Commented (told description ++ texts) (Code.documented description code)
      (Code.documented none plain) :=
  .line "" ((commented_documentation description).append h)

section Models

variable (properties : List Resolved.Property)

lemma commented_storedProperties :
    Commented (properties.flatMap (·.told)) (storedProperties properties)
      (storedProperties (properties.map (·.undescribed))) := by
  unfold storedProperties
  rw [List.flatMap_map]
  exact .flatMap fun p _ => (commented_documentation p.description).append_same _

lemma initializer_undescribed :
    initializer (properties.map (·.undescribed)) = initializer properties := by
  unfold initializer
  rw [List.map_map, List.map_map]
  rfl

lemma codingKeys_undescribed :
    codingKeys (properties.map (·.undescribed)) = codingKeys properties := by
  unfold codingKeys
  rw [List.isEmpty_map, List.map_map]
  rfl

lemma commented_structureMembers :
    Commented (properties.flatMap (·.told)) (structureMembers properties)
      (structureMembers (properties.map (·.undescribed))) := by
  unfold structureMembers
  rw [initializer_undescribed, codingKeys_undescribed, List.append_assoc, List.append_assoc]
  exact (commented_storedProperties properties).append_same _

end Models

lemma Commented.unlessEmpty {forest : List Resolved.Schema} {code plain : Code}
    (h : Commented (Resolved.Schema.allNestedTold forest) code plain) :
    Commented (Resolved.Schema.allNestedTold forest)
      (if forest.isEmpty then [] else "" :: code)
      (if (forest.map (·.undescribed)).isEmpty then [] else "" :: plain) := by
  rw [List.isEmpty_map]
  split_ifs with hempty
  · rw [List.isEmpty_iff.mp hempty]
    exact .nil
  · exact .line "" h

mutual

lemma commented_nestedDeclaration : ∀ s : Resolved.Schema,
    Commented s.nestedTold (nestedDeclaration s) (nestedDeclaration s.undescribed)
  | ⟨_, className, _, _, _, _, _, _, kind, nested⟩ => by
    have hnested := (commented_nestedDeclarations nested).unlessEmpty
    rw [Resolved.Schema.undescribed, Resolved.Schema.undescribedAll_eq_map]
    cases kind with
    | enum | wrapper | oneOf => exact .same _
    | object properties | interface properties | hierarchy properties =>
      exact ((commented_structureMembers properties).append hnested).block _

lemma commented_nestedDeclarations : ∀ forest : List Resolved.Schema,
    Commented (Resolved.Schema.allNestedTold forest) (nestedDeclarations forest)
      (nestedDeclarations (forest.map (·.undescribed)))
  | [] => .nil
  | s :: rest => by
    rw [Resolved.Schema.allNestedTold, List.map_cons, nestedDeclarations, nestedDeclarations,
      Resolved.Schema.description_undescribed]
    exact ((commented_nestedDeclaration s).documented s.description).append
      (commented_nestedDeclarations rest)

end

lemma commented_nestedExtension (s : Resolved.Schema) :
    Commented (Resolved.Schema.allNestedTold s.nested) (nestedExtension s)
      (nestedExtension s.undescribed) := by
  rw [Resolved.Schema.undescribed_eq]
  exact ((commented_nestedDeclarations s.nested).block _).unlessEmpty

lemma commented_protocol (s : Resolved.Schema) (properties : List Resolved.Property)
    (parents : List SwiftType) :
    Commented (properties.flatMap (·.told)) (protocol s properties parents)
      (protocol s.undescribed (properties.map (·.undescribed)) parents) := by
  rw [Resolved.Schema.undescribed_eq]
  unfold protocol
  rw [List.flatMap_map]
  exact .block _ (.flatMap fun p _ => (commented_documentation p.description).append_same _)

/-- The model of a schema without descriptions lacks the comments that tell them. -/
theorem commented_model (s : Resolved.Schema) :
    Commented s.told (model s) (model s.undescribed) := by
  have hextension := commented_nestedExtension s
  have hdeclaration : ∀ texts, Commented texts (declaration s) (declaration s.undescribed) →
      Commented (told s.description ++ texts) (model s) (model s.undescribed) := by
    intro texts h
    unfold model
    rw [Resolved.Schema.description_undescribed]
    exact .same_append _ (h.documented _)
  refine hdeclaration _ ?_
  obtain ⟨name, className, scopedName, description, purpose, nullable, classification, type, kind,
    nested⟩ := s
  cases kind with
  | object properties parent implements discriminator =>
    exact ((commented_structureMembers properties).block _).append hextension
  | interface properties parents implementation => exact commented_protocol _ properties parents
  | oneOf members discriminator => exact .same_append _ hextension
  | enum | hierarchy | wrapper => exact .same _

section Groups

variable {o : Resolved.Operation}

lemma signature_undescribed : signature o.undescribed = signature o := by
  unfold signature Resolved.Operation.undescribed
  rw [List.map_map]
  rfl

lemma statements_undescribed : statements o.undescribed = statements o := by
  unfold statements requestArguments Resolved.Operation.undescribed
  rw [List.flatMap_map, List.flatMap_map]
  rfl

/-- An identifier of one line keeps the comment together that it stands in. -/
lemma isCommentStart_parameter {identifier : String} (h : IsOneLine identifier) :
    IsCommentStart ("/// - Parameter " ++ identifier ++ ": ") := by
  have hbefore : IsOneLine "/// - Parameter " := by simp [IsOneLine, isLineBreak]
  have hafter : IsOneLine ": " := by simp [IsOneLine, isLineBreak]
  refine ⟨(hbefore.append h).append hafter, ?_⟩
  rw [String.append_assoc, String.toList_append]
  exact List.prefix_append _ _

lemma commented_parameterDocumentation {p : Resolved.Parameter} (h : IsOneLine p.identifier) :
    Commented p.told (parameterDocumentation p) (parameterDocumentation p.undescribed) := by
  have hdocumentation : parameterDocumentation p =
      p.told.map ("/// - Parameter " ++ p.identifier ++ ": " ++ ·) := by
    unfold parameterDocumentation Resolved.Parameter.told
    fun_cases told p.description with
    | case1 => rfl
    | case2 => rfl
    | case3 text hne => simp only [List.map_singleton]
  rw [hdocumentation]
  exact commented_map (isCommentStart_parameter h) _

lemma commented_method (h : ∀ p ∈ o.parameters, IsOneLine p.identifier) :
    Commented o.told (method o) (method o.undescribed) := by
  unfold method
  rw [signature_undescribed, statements_undescribed]
  unfold Resolved.Operation.undescribed
  rw [List.flatMap_map, List.append_assoc, List.append_assoc]
  refine .documented _ (.append_same ?_ _)
  exact .flatMap fun p hp => commented_parameterDocumentation (h p hp)

/-- The file of a group without descriptions lacks the comments that tell them. -/
theorem commented_api {g : Resolved.Group} (servers : List Server)
    (h : ∀ o ∈ g.operations, ∀ p ∈ o.parameters, IsOneLine p.identifier) :
    Commented g.told (api g servers) (api g.undescribed servers) := by
  have hmethods : Commented (g.operations.flatMap (·.told)) (g.operations.flatMap method)
      ((g.operations.map (·.undescribed)).flatMap method) := by
    rw [List.flatMap_map]
    exact .flatMap fun o ho => commented_method (h o ho)
  have hgroup := (Commented.same_append
    (["public let configuration: Configuration", ""]
      ++ block
        ("public init(configuration: Configuration = Configuration(baseURL: URL(string: "
          ++ stringLiteral (baseUrl servers) ++ ")!))")
        ["self.configuration = configuration"]) hmethods).block
          ("public class " ++ g.className ++ "Api")
  exact .same_append _ (hgroup.documented g.description)

end Groups

end Code

end SwiftClient
