import Mathlib
import AgentLaunch.Proofs.Bind
import AgentLaunch.Proofs.Validity
import AgentLaunch.Settings

/-!
# From settings to a spec

What settings are completed to: the install root and the version have to be set, the other
parameters have defaults, and the spec that results must not have a blank field.
-/

namespace AgentLaunch.Settings

/-- The value of a parameter, its default included. -/
def value? (s : Settings) (f : Field) : Option String :=
  (s.get f).or (default? f)

/-- The spec of these texts, with the tilde of the install root expanded. -/
def specOf (home : Option String) (text : Field → String) : Spec :=
  .ofFields fun f => if f = .installRoot then expandTilde home (text f) else text f

/-- How these values decide whether there is a spec, and which. -/
structure Decides (home : Option String) (value : Field → Option String)
    (result : Except Problem Spec) : Prop where
  noRoot : value .installRoot = none → result = .error (.missing .installRoot)
  noVersion : value .installRoot ≠ none → value .version = none →
    result = .error (.missing .version)
  blank : ∀ text f, (∀ g, value g = some (text g)) → (specOf home text).IsFirstBlank f →
    result = .error (.domain ⟨f.key⟩)
  ok_iff : ∀ spec, result = .ok spec ↔ ∃ text, (∀ g, value g = some (text g)) ∧
    (∀ f, ¬ (specOf home text).IsBlankAt f) ∧ spec = specOf home text

theorem value_eq (s : Settings) (f : Field) :
    s.value f = match s.value? f with
      | some v => .ok v
      | none => .error (.missing f) := rfl

section ToSpec

variable {home : Option String} {s : Settings}

theorem toSpec_noRoot (h : s.value? .installRoot = none) :
    s.toSpec home = .error (.missing .installRoot) := by
  rw [toSpec, value_eq, h]
  rfl

theorem toSpec_noVersion (hroot : s.value? .installRoot ≠ none)
    (h : s.value? .version = none) : s.toSpec home = .error (.missing .version) := by
  obtain ⟨root, hroot⟩ := Option.ne_none_iff_exists'.mp hroot
  simp only [toSpec, value_eq, hroot, h]
  rfl

theorem toSpec_of_value {text : Field → String} (h : ∀ f, s.value? f = some (text f)) :
    s.toSpec home = (specOf home text).validate.mapError .domain := by
  have hspec : (⟨expandTilde home (text .installRoot), text .version, text .configFileName,
      text .agentName, text .runAsUser⟩ : Spec) = specOf home text := rfl
  simp only [toSpec, value_eq, h, ok_bind, hspec]
  cases (specOf home text).validate <;> rfl

/-- With an install root and a version every parameter has a value. -/
theorem exists_text (hroot : s.value? .installRoot ≠ none) (hversion : s.value? .version ≠ none) :
    ∃ text : Field → String, ∀ f, s.value? f = some (text f) := by
  have hsome : ∀ f, (s.value? f).isSome := by
    intro f
    cases f with
    | installRoot => exact Option.isSome_iff_ne_none.mpr hroot
    | version => exact Option.isSome_iff_ne_none.mpr hversion
    | configFileName => simp [value?, default?]
    | agentName => simp [value?, default?]
    | runAsUser => simp [value?, default?]
  exact ⟨fun f => (s.value? f).get (hsome f), fun f => (Option.some_get (hsome f)).symm⟩

theorem toSpec_decides (home : Option String) (s : Settings) :
    Decides home s.value? (s.toSpec home) where
  noRoot := toSpec_noRoot
  noVersion := toSpec_noVersion
  blank text f htext hblank := by
    rw [toSpec_of_value htext, Spec.validate_of_isFirstBlank hblank]
    rfl
  ok_iff spec := by
    constructor
    · intro hok
      have hroot : s.value? .installRoot ≠ none := by
        intro h
        simp [toSpec_noRoot h] at hok
      have hversion : s.value? .version ≠ none := by
        intro h
        simp [toSpec_noVersion hroot h] at hok
      obtain ⟨text, htext⟩ := exists_text hroot hversion
      have hfull : ∀ f, ¬ (specOf home text).IsBlankAt f := by
        intro f hf
        obtain ⟨g, hg⟩ := Spec.exists_isFirstBlank ⟨f, hf⟩
        rw [toSpec_of_value htext, Spec.validate_of_isFirstBlank hg] at hok
        cases hok
      rw [toSpec_of_value htext, Spec.validate_of_not_blank hfull] at hok
      exact ⟨text, htext, hfull, (Except.ok.inj hok).symm⟩
    · rintro ⟨text, htext, hfull, rfl⟩
      rw [toSpec_of_value htext, Spec.validate_of_not_blank hfull]
      rfl

end ToSpec

end AgentLaunch.Settings
