import SwiftClient.Options
import SwiftClient.Proofs.Naming.ClassName
import SwiftClient.Proofs.Outcome

/-!
# Options of a configuration

The package of options that are read from a configuration is open or has a name, and completing
them from a document closes it.
-/
namespace SwiftClient.Options

variable {c : Configuration} {o : Options}

/-- The settings that options are read from. Where none is given there is a default. -/
structure ReadFrom (o : Options) (c : Configuration) : Prop where
  package : ∃ name, c.string? "package.name" = .ok name ∧ o.package = packageOf name ∧
    (∃ path, c.string? "relativeSourceOutputPath" = .ok path ∧
      o.sourcePath = sourcePathFor path ((packageOf name).getD "")) ∧
    ∃ subsystem, c.string? "logging.subsystem" = .ok subsystem ∧
      o.subsystem = subsystem.getD ((packageOf name).getD "")
  customTemplates : ∃ path, c.string? "customTemplates" = .ok path ∧
    o.customTemplates = (path.filter (· ≠ "")).map (templatesPath c.path)
  enumStyle : ∃ style, c.string? "enumMemberStyle" = .ok style ∧ styleOf style = .ok o.enumStyle
  hideTimestamp : c.bool "hideGenerationTimestamp" false = .ok o.hideTimestamp
  retryCodes : c.strings "additionalRetryStatusCodes" = .ok o.retryCodes
  tokenFailureCodes : c.strings "additionalTokenFailureStatusCodes" = .ok o.tokenFailureCodes

theorem readFrom_of_ofConfiguration (h : ofConfiguration c = .ok o) : o.ReadFrom c := by
  simp only [ofConfiguration, Outcome.bind_eq_ok, Outcome.pure_eq_ok] at h
  obtain ⟨name, hname, path, hpath, templates, htemplates, subsystem, hsubsystem, setting, hsetting,
    style, hstyle, hide, hhide, retry, hretry, token, htoken, rfl⟩ := h
  exact {
    package := ⟨name, hname, rfl, ⟨path, hpath, rfl⟩, subsystem, hsubsystem, rfl⟩
    customTemplates := ⟨templates, htemplates, rfl⟩
    enumStyle := ⟨setting, hsetting, hstyle⟩
    hideTimestamp := hhide
    retryCodes := hretry
    tokenFailureCodes := htoken }

lemma of_ofConfiguration (h : ofConfiguration c = .ok o) :
    ∃ name path, c.string? "package.name" = .ok name ∧
      c.string? "relativeSourceOutputPath" = .ok path ∧ o.package = packageOf name ∧
      o.sourcePath = sourcePathFor path ((packageOf name).getD "") := by
  obtain ⟨name, hname, hpackage, ⟨path, hpath, hsource⟩, -⟩ :=
    (readFrom_of_ofConfiguration h).package
  exact ⟨name, path, hname, hpath, hpackage, hsource⟩

lemma packageOf_ne_empty (name : Option String) : packageOf name ≠ some "" := by
  unfold packageOf
  split
  · decide
  · simp
  · rename_i name hname
    simpa using hname

lemma package_ne_empty (h : ofConfiguration c = .ok o) : o.package ≠ some "" := by
  obtain ⟨name, path, -, -, hpackage, -⟩ := of_ofConfiguration h
  rw [hpackage]
  exact packageOf_ne_empty name

lemma complete_of_none (h : o.package = none) (info : Info) :
    o.complete info =
      { o with
        package := some (Naming.className info.title)
        sourcePath := if o.sourcePath = "" then sourcePathOf (Naming.className info.title)
          else o.sourcePath
        subsystem := if o.subsystem = "" then Naming.className info.title else o.subsystem } := by
  unfold complete
  rw [h]

lemma complete_of_isSome (h : o.package.isSome) (info : Info) : o.complete info = o := by
  obtain ⟨name, hname⟩ := Option.isSome_iff_exists.mp h
  simp [complete, hname]

/-- Once a document is known the package has a name. -/
theorem exists_package_complete (h : ofConfiguration c = .ok o) (info : Info) :
    ∃ package, package ≠ "" ∧ (o.complete info).package = some package := by
  cases hpackage : o.package with
  | none =>
    refine ⟨Naming.className info.title, Naming.className_ne_empty _, ?_⟩
    rw [complete_of_none hpackage]
  | some package =>
    refine ⟨package, ?_, ?_⟩
    · rintro rfl
      exact package_ne_empty h hpackage
    · rw [complete_of_isSome (by rw [hpackage, Option.isSome_some]), hpackage]

end SwiftClient.Options
