import AgentLaunch.Spec

/-!
# Validity of specs

Validation stops at the first blank field. A spec without blank fields is returned as it is.
-/

namespace AgentLaunch

/-- The fields that are checked before a field. -/
def Field.before (f : Field) : List Field :=
  Field.all.takeWhile fun g => g ≠ f

namespace Spec

variable {s : Spec} {f : Field}

def IsBlankAt (s : Spec) (f : Field) : Prop :=
  Text.isBlank (s.get f) = true

instance (s : Spec) (f : Field) : Decidable (s.IsBlankAt f) :=
  inferInstanceAs (Decidable (Text.isBlank (s.get f) = true))

/-- A field is blank, and no field that is checked before it is. -/
structure IsFirstBlank (s : Spec) (f : Field) : Prop where
  blank : s.IsBlankAt f
  before : ∀ g ∈ f.before, ¬ s.IsBlankAt g

theorem firstBlank?_eq_none_iff : s.firstBlank? = none ↔ ∀ f, ¬ s.IsBlankAt f := by
  rw [firstBlank?, List.find?_eq_none]
  constructor
  · intro h f
    exact h f f.mem_all
  · intro h f _
    exact h f

theorem all_eq_before_append (f : Field) : ∃ rest, Field.all = f.before ++ f :: rest := by
  cases f <;> exact ⟨_, rfl⟩

theorem firstBlank?_eq_some_iff : s.firstBlank? = some f ↔ s.IsFirstBlank f := by
  rw [firstBlank?, List.find?_eq_some_iff_append]
  constructor
  · rintro ⟨hf, front, rest, hall, hfront⟩
    have hne : ∀ g ∈ front, decide (g ≠ f) = true := by
      intro g hg
      have hblank := hfront g hg
      simp only [decide_eq_true_eq]
      rintro rfl
      simp [hf] at hblank
    have hbefore : f.before = front := by
      rw [Field.before, hall, List.takeWhile_append_of_pos hne]
      simp
    refine ⟨hf, ?_⟩
    intro g hg
    have hblank := hfront g (hbefore ▸ hg)
    simpa [IsBlankAt] using hblank
  · intro h
    obtain ⟨rest, hall⟩ := all_eq_before_append f
    refine ⟨h.blank, f.before, rest, hall, ?_⟩
    intro g hg
    have hblank := h.before g hg
    simpa [IsBlankAt] using hblank

theorem exists_isFirstBlank (h : ∃ f, s.IsBlankAt f) : ∃ f, s.IsFirstBlank f := by
  cases hfirst : s.firstBlank? with
  | none =>
    obtain ⟨f, hf⟩ := h
    exact absurd hf (firstBlank?_eq_none_iff.mp hfirst f)
  | some f => exact ⟨f, firstBlank?_eq_some_iff.mp hfirst⟩

theorem validate_of_isFirstBlank (h : s.IsFirstBlank f) : s.validate = .error ⟨f.key⟩ := by
  rw [validate, firstBlank?_eq_some_iff.mpr h]

theorem validate_of_not_blank (h : ∀ f, ¬ s.IsBlankAt f) : s.validate = .ok s := by
  rw [validate, firstBlank?_eq_none_iff.mpr h]

end Spec

end AgentLaunch
