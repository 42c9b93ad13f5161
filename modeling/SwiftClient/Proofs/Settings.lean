import SwiftClient.Proofs.Options

/-!
# Settings of a configuration

Options are read from a configuration and completed from a document in two steps. The outcome is
that of one step: whatever is set stays as it is set, the package has the name that the
configuration or the document gives to it, and what is not set follows from that name. Completing
options once more changes nothing, whatever the document.
-/
namespace SwiftClient

namespace Configuration

variable {c : Configuration} {key : String}

/-- A setting is not given when it is absent or null. -/
def Lacks (c : Configuration) (key : String) : Prop := c.get? key = none ∨ c.get? key = some .null

/-- A text stands for itself and a number for its text. -/
inductive Item : Json → String → Prop
  | text (s : String) : Item (.string s) s
  | number (n : Json.Number) : Item (.number n) n.text

lemma string?_of_lacks (h : c.Lacks key) : c.string? key = .ok none := by
  unfold string?
  rcases h with h | h <;> rw [h]

lemma string?_of_text {s : String} (h : c.get? key = some (.string s)) :
    c.string? key = .ok (some s) := by
  unfold string?
  rw [h]

lemma string?_cases {setting : Option String} (h : c.string? key = .ok setting) :
    (setting = none ∧ c.Lacks key) ∨ ∃ s, setting = some s ∧ c.get? key = some (.string s) := by
  unfold string? at h
  split at h
  · rename_i habsent
    cases h
    exact .inl ⟨rfl, .inl habsent⟩
  · rename_i hnull
    cases h
    exact .inl ⟨rfl, .inr hnull⟩
  · rename_i s hs
    cases h
    exact .inr ⟨s, rfl, hs⟩
  · cases h

lemma bool_of_flag {b absent : Bool} (h : c.get? key = some (.bool b)) :
    c.bool key absent = .ok b := by
  unfold bool
  rw [h]

lemma stringItem_eq_ok {item : Json} {s : String} :
    stringItem key item = .ok s ↔ Item item s := by
  constructor
  · intro h
    unfold stringItem at h
    split at h
    · cases h
      exact .text _
    · cases h
      exact .number _
    · cases h
  · rintro (s | n) <;> rfl

lemma strings_of_list {items : List Json} {ss : List String}
    (h : c.get? key = some (.array items)) (hss : c.strings key = .ok ss) :
    List.Forall₂ Item items ss := by
  unfold strings at hss
  rw [h] at hss
  exact (Outcome.mapM_eq_ok.mp hss).imp fun _ _ => stringItem_eq_ok.mp

/-- The name of the package of a client, from its configuration and its document. -/
def packageFor (c : Configuration) (info : Info) : String :=
  match c.get? "package.name" with
  | some (.string "") => Naming.className info.title
  | some (.string name) => name
  | _ => Options.defaultPackage

end Configuration

namespace Options

variable {c : Configuration} {o : Options}

/-- All settings that a configuration gives are kept, empty texts apart. -/
structure Keeps (o : Options) (c : Configuration) : Prop where
  package : ∀ name, name ≠ "" → c.get? "package.name" = some (.string name) →
    o.package = some name
  sourcePath : ∀ path, path ≠ "" → c.get? "relativeSourceOutputPath" = some (.string path) →
    o.sourcePath = path
  customTemplates : ∀ path, path ≠ "" → c.get? "customTemplates" = some (.string path) →
    o.customTemplates = some (templatesPath c.path path)
  hideTimestamp : ∀ hide, c.get? "hideGenerationTimestamp" = some (.bool hide) →
    o.hideTimestamp = hide
  retryCodes : ∀ items, c.get? "additionalRetryStatusCodes" = some (.array items) →
    List.Forall₂ Configuration.Item items o.retryCodes
  tokenFailureCodes : ∀ items, c.get? "additionalTokenFailureStatusCodes" = some (.array items) →
    List.Forall₂ Configuration.Item items o.tokenFailureCodes
  subsystem : ∀ subsystem, subsystem ≠ "" →
    c.get? "logging.subsystem" = some (.string subsystem) → o.subsystem = subsystem
  enumStyle : ∀ style, c.get? "enumMemberStyle" = some (.string style) →
    Naming.EnumStyle.ofSetting? style = some o.enumStyle

lemma styleOf_some {setting : String} {style : Naming.EnumStyle}
    (h : styleOf (some setting) = .ok style) :
    Naming.EnumStyle.ofSetting? setting = some style := by
  unfold styleOf at h
  dsimp only at h
  split at h
  · rename_i style' hstyle
    cases h
    exact hstyle
  · cases h

/-- Reading keeps what is set. -/
theorem ReadFrom.keeps (h : o.ReadFrom c) : o.Keeps c := by
  obtain ⟨name, hname, hpackage, ⟨path, hpath, hsource⟩, subsystem, hsubsystem, hlogging⟩ :=
    h.package
  obtain ⟨templates, htemplates, hcustom⟩ := h.customTemplates
  obtain ⟨style, hstyle, hstyleOf⟩ := h.enumStyle
  constructor
  case package =>
    intro given hgiven hget
    rw [Configuration.string?_of_text hget] at hname
    cases hname
    rw [hpackage, packageOf]
    exact hgiven
  case sourcePath =>
    intro given _ hget
    rw [Configuration.string?_of_text hget] at hpath
    cases hpath
    exact hsource
  case customTemplates =>
    intro given hgiven hget
    rw [Configuration.string?_of_text hget] at htemplates
    cases htemplates
    rw [hcustom, Option.filter_some_pos (by simpa using hgiven)]
    rfl
  case hideTimestamp =>
    intro hide hget
    have hbool : c.bool "hideGenerationTimestamp" false = .ok hide :=
      Configuration.bool_of_flag hget
    exact (Except.ok.inj (hbool.symm.trans h.hideTimestamp)).symm
  case retryCodes => exact fun items hget => Configuration.strings_of_list hget h.retryCodes
  case tokenFailureCodes =>
    exact fun items hget => Configuration.strings_of_list hget h.tokenFailureCodes
  case subsystem =>
    intro given _ hget
    rw [Configuration.string?_of_text hget] at hsubsystem
    cases hsubsystem
    exact hlogging
  case enumStyle =>
    intro given hget
    rw [Configuration.string?_of_text hget] at hstyle
    cases hstyle
    exact styleOf_some hstyleOf

/-- Completing keeps what is set too, for it only fills in what is empty. -/
theorem Keeps.complete (h : o.Keeps c) (info : Info) : (o.complete info).Keeps c := by
  cases hpackage : o.package with
  | some package =>
    rw [complete_of_isSome (by rw [hpackage, Option.isSome_some])]
    exact h
  | none =>
    rw [complete_of_none hpackage]
    refine { h with package := ?_, sourcePath := ?_, subsystem := ?_ }
    · intro name hname hget
      rw [h.package name hname hget] at hpackage
      cases hpackage
    · intro path hpath hget
      have hsource := h.sourcePath path hpath hget
      dsimp only
      rw [hsource, if_neg hpath]
    · intro subsystem hsubsystem hget
      have hlogging := h.subsystem subsystem hsubsystem hget
      dsimp only
      rw [hlogging, if_neg hsubsystem]

/-- The package has a name, and what is not set is derived from it. -/
structure NamedAfter (o : Options) (c : Configuration) (name : String) : Prop where
  package : o.package = some name
  sourcePath : c.Lacks "relativeSourceOutputPath" → o.sourcePath = sourcePathOf name
  subsystem : c.Lacks "logging.subsystem" → o.subsystem = name

lemma packageFor_of_open (h : c.string? "package.name" = .ok (some "")) (info : Info) :
    c.packageFor info = Naming.className info.title := by
  rcases Configuration.string?_cases h with ⟨hnone, -⟩ | ⟨s, hs, hget⟩
  · cases hnone
  · cases hs
    simp only [Configuration.packageFor, hget]

lemma packageOf_of_known {name : Option String} (h : c.string? "package.name" = .ok name)
    (hname : name ≠ some "") (info : Info) : packageOf name = some (c.packageFor info) := by
  unfold Configuration.packageFor
  rcases Configuration.string?_cases h with ⟨rfl, hget | hget⟩ | ⟨s, rfl, hget⟩
  · rw [hget]
    rfl
  · rw [hget]
    rfl
  · have hs : s ≠ "" := fun hs => hname (by rw [hs])
    rw [hget]
    simp [packageOf]

/-- It makes no difference whether the name is known when the settings are read. -/
theorem ReadFrom.namedAfter (h : o.ReadFrom c) (info : Info) :
    (o.complete info).NamedAfter c (c.packageFor info) := by
  obtain ⟨name, hname, hpackage, ⟨path, hpath, hsource⟩, subsystem, hsubsystem, hlogging⟩ :=
    h.package
  have hlacksPath : c.Lacks "relativeSourceOutputPath" → path = none := fun hlacks =>
    Except.ok.inj (hpath.symm.trans (Configuration.string?_of_lacks hlacks))
  have hlacksSubsystem : c.Lacks "logging.subsystem" → subsystem = none := fun hlacks =>
    Except.ok.inj (hsubsystem.symm.trans (Configuration.string?_of_lacks hlacks))
  by_cases hopen : name = some ""
  · -- the package is named after the document, and what is empty until then is filled in
    subst hopen
    rw [packageFor_of_open hname, complete_of_none hpackage]
    refine ⟨rfl, fun hlacks => ?_, fun hlacks => ?_⟩
    · have hempty : o.sourcePath = "" := by
        rw [hsource, hlacksPath hlacks]
        rfl
      exact if_pos hempty
    · have hempty : o.subsystem = "" := by
        rw [hlogging, hlacksSubsystem hlacks]
        rfl
      exact if_pos hempty
  · -- the name is known from the beginning, so that nothing is left to complete
    have hnamed := packageOf_of_known hname hopen info
    have hne : c.packageFor info ≠ "" := by
      intro hempty
      rw [hempty] at hnamed
      exact packageOf_ne_empty name hnamed
    rw [hnamed] at hpackage
    rw [complete_of_isSome (by rw [hpackage, Option.isSome_some])]
    refine ⟨hpackage, fun hlacks => ?_, fun hlacks => ?_⟩
    · rw [hsource, hlacksPath hlacks, hnamed]
      exact if_neg hne
    · rw [hlogging, hlacksSubsystem hlacks, hnamed]
      rfl

/-- Options that are read from a configuration and completed from a document keep all that is set,
have a package with a name, and have all else after this name. They stay the same when they are
completed once more, from whatever document. -/
theorem complete_ofConfiguration (h : ofConfiguration c = .ok o) (info info' : Info) :
    c.packageFor info ≠ "" ∧ (o.complete info).NamedAfter c (c.packageFor info) ∧
      (o.complete info).Keeps c ∧ (o.complete info).complete info' = o.complete info := by
  have hread := readFrom_of_ofConfiguration h
  have hnamed := hread.namedAfter info
  obtain ⟨package, hne, hpackage⟩ := exists_package_complete h info
  have hclosed : (o.complete info).package.isSome := by rw [hnamed.package, Option.isSome_some]
  refine ⟨?_, hnamed, hread.keeps.complete info, complete_of_isSome hclosed info'⟩
  have hsame : package = c.packageFor info := by
    rw [hnamed.package] at hpackage
    exact (Option.some.inj hpackage).symm
  rw [← hsame]
  exact hne

/-- A package that is named after its document, with a null among the settings. -/
def petSettings : Configuration where
  root := [("additionalRetryStatusCodes", .array [.string "502", .number (.whole 503)]),
    ("enumMemberStyle", .string "Camel-Case"), ("logging", .object [("subsystem", .null)]),
    ("package", .object [("name", .string "")])]

theorem complete_ofConfiguration_petSettings :
    ∃ options, ofConfiguration petSettings = .ok options ∧ options.package = none ∧
      options.complete ⟨"pet store", "1", none⟩ =
        ⟨some "PetStore", "Sources/PetStore", none, false, ["502", "503"], [], "PetStore",
          .camelCase⟩ ∧
      (options.complete ⟨"pet store", "1", none⟩).Keeps petSettings ∧
      (options.complete ⟨"pet store", "1", none⟩).complete ⟨"zoo", "2", none⟩ =
        options.complete ⟨"pet store", "1", none⟩ := by
  obtain ⟨options, h, hpackage, hcomplete⟩ : ∃ options, ofConfiguration petSettings = .ok options ∧
      options.package = none ∧ options.complete ⟨"pet store", "1", none⟩ =
        ⟨some "PetStore", "Sources/PetStore", none, false, ["502", "503"], [], "PetStore",
          .camelCase⟩ := by
    decide +kernel
  obtain ⟨-, -, hkeeps, hagain⟩ :=
    complete_ofConfiguration h ⟨"pet store", "1", none⟩ ⟨"zoo", "2", none⟩
  exact ⟨options, h, hpackage, hcomplete, hkeeps, hagain⟩

end Options

end SwiftClient
