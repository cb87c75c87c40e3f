import AgentLaunch.Proofs.Settings.Completion

/-!
# Accepted settings

Which settings come to a spec, and to which. The install root and the version have to be set, the
tilde of the install root is expanded, and what is blank after that is refused.
-/

namespace AgentLaunch.Settings

/-- A path, and what it comes to when its tilde is expanded. -/
inductive Expands (home : Option String) : String → String → Prop where
  | alone {directory : String} (known : home = some directory) : Expands home "~" directory
  | below {directory rest : String} (known : home = some directory) :
      Expands home ("~/" ++ rest) (directory ++ "/" ++ rest)
  /-- Everything else, and everything as long as the home directory is unknown. -/
  | kept {path : String} (other : home = none ∨ path ≠ "~" ∧ ∀ rest, path ≠ "~/" ++ rest) :
      Expands home path path

section Tilde

variable {home : Option String} {path expanded : String}

theorem expandTilde_none (path : String) : expandTilde none path = path := by
  unfold expandTilde
  split <;> first | rfl | contradiction

theorem expandTilde_below (directory rest : String) :
    expandTilde (some directory) ("~/" ++ rest) = directory ++ "/" ++ rest := by
  have hpath : ("~/" ++ rest).toList = '~' :: '/' :: rest.toList := by
    rw [String.toList_append]
    rfl
  simp only [expandTilde, hpath]
  rw [← String.toList_inj]
  simp

theorem expandTilde_other (halone : path ≠ "~") (hbelow : ∀ rest, path ≠ "~/" ++ rest) :
    expandTilde home path = path := by
  unfold expandTilde
  split
  next hpath => exact absurd (String.toList_inj.mp hpath) halone
  next rest hpath =>
    have hrest : path = "~/" ++ String.ofList rest := by
      rw [← String.toList_inj, hpath]
      simp
    exact absurd hrest (hbelow _)
  · rfl

theorem expands_expandTilde (home : Option String) (path : String) :
    Expands home path (expandTilde home path) := by
  cases home with
  | none =>
    rw [expandTilde_none]
    exact .kept (.inl rfl)
  | some directory =>
    by_cases halone : path = "~"
    · subst halone
      exact .alone rfl
    · by_cases hbelow : ∃ rest, path = "~/" ++ rest
      · obtain ⟨rest, rfl⟩ := hbelow
        rw [expandTilde_below]
        exact .below rfl
      · have hother : ∀ rest, path ≠ "~/" ++ rest := fun rest hrest => hbelow ⟨rest, hrest⟩
        rw [expandTilde_other halone hother]
        exact .kept (.inr ⟨halone, hother⟩)

theorem Expands.eq (h : Expands home path expanded) : expandTilde home path = expanded := by
  cases h with
  | alone known =>
    rw [known]
    rfl
  | below known => rw [known, expandTilde_below]
  | kept other =>
    rcases other with rfl | ⟨halone, hbelow⟩
    · exact expandTilde_none path
    · exact expandTilde_other halone hbelow

/-- A path is changed only in front of what follows its tilde. -/
theorem Expands.tail (h : Expands home path expanded) :
    expanded = path ∨ ∃ directory rest,
      home = some directory ∧ path = "~" ++ rest ∧ expanded = directory ++ rest := by
  cases h with
  | alone known => exact .inr ⟨_, "", known, rfl, (String.append_empty).symm⟩
  | @below directory rest known =>
    refine .inr ⟨_, "/" ++ rest, known, ?_, String.append_assoc⟩
    rw [← String.append_assoc]
    rfl
  | kept other => exact .inl rfl

end Tilde

/-- The spec of an install root and a version, and of the other parameters as set or by default. -/
def filled (s : Settings) (installRoot version : String) : Spec where
  installRoot := installRoot
  version := version
  configFileName := s.configFileName.getD "cygnus.conf"
  agentName := s.agentName.getD "orionagent"
  runAsUser := s.runAsUser.getD "root"

/-- What settings come to. -/
inductive Completes (home : Option String) (s : Settings) : Except Problem Spec → Prop where
  | noRoot (unset : s.installRoot = none) :
      Completes home s (.error (.configuration ("install_root is not set " ++
        "(use --install-root, FLUME_LAUNCHER_INSTALL_ROOT or the config file)")))
  | noVersion {root : String} (root_eq : s.installRoot = some root) (unset : s.version = none) :
      Completes home s (.error (.configuration ("version is not set " ++
        "(use --version, FLUME_LAUNCHER_VERSION or the config file)")))
  | accepted {root version expanded : String} (root_eq : s.installRoot = some root)
      (version_eq : s.version = some version) (expands : Expands home root expanded)
      (full : ∀ f, ¬ (s.filled expanded version).IsBlankAt f) :
      Completes home s (.ok (s.filled expanded version))
  | refused {root version expanded : String} {invalid : Spec.Invalid}
      (root_eq : s.installRoot = some root) (version_eq : s.version = some version)
      (expands : Expands home root expanded)
      (blank : (s.filled expanded version).validate = .error invalid) :
      Completes home s (.error (.domain invalid))

section Completes

variable {home : Option String} {s : Settings} {root version : String}
  {result : Except Problem Spec}

theorem toSpec_of_set (hroot : s.installRoot = some root) (hversion : s.version = some version) :
    s.toSpec home = (s.filled (expandTilde home root) version).validate.mapError .domain := by
  have hvalue : ∀ f, s.value? f = some ((s.filled root version).get f) := by
    intro f
    cases f with
    | installRoot => simp [value?, get, hroot, filled, Spec.get]
    | version => simp [value?, get, hversion, filled, Spec.get]
    | configFileName | agentName | runAsUser =>
      simp [value?, get, default?, filled, Spec.get, Spec.defaultUser]
  rw [toSpec_of_value hvalue]
  rfl

theorem missing_installRoot : Problem.missing .installRoot = .configuration
    ("install_root is not set " ++
      "(use --install-root, FLUME_LAUNCHER_INSTALL_ROOT or the config file)") := by
  decide +kernel

theorem missing_version : Problem.missing .version = .configuration
    ("version is not set " ++ "(use --version, FLUME_LAUNCHER_VERSION or the config file)") := by
  decide +kernel

theorem completes_toSpec (home : Option String) (s : Settings) :
    Completes home s (s.toSpec home) := by
  cases hroot : s.installRoot with
  | none =>
    rw [toSpec_noRoot (by simp [value?, get, hroot, default?]), missing_installRoot]
    exact .noRoot hroot
  | some root =>
    cases hversion : s.version with
    | none =>
      rw [toSpec_noVersion (by simp [value?, get, hroot])
        (by simp [value?, get, hversion, default?]), missing_version]
      exact .noVersion hroot hversion
    | some version =>
      have hexpands := expands_expandTilde home root
      rw [toSpec_of_set hroot hversion]
      by_cases hblank : ∃ f, (s.filled (expandTilde home root) version).IsBlankAt f
      · obtain ⟨f, hf⟩ := Spec.exists_isFirstBlank hblank
        have hrefused := Spec.validate_of_isFirstBlank hf
        rw [hrefused]
        exact .refused hroot hversion hexpands hrefused
      · have hfull : ∀ f, ¬ (s.filled (expandTilde home root) version).IsBlankAt f :=
          fun f hf => hblank ⟨f, hf⟩
        rw [Spec.validate_of_not_blank hfull]
        exact .accepted hroot hversion hexpands hfull

theorem Completes.eq (h : Completes home s result) : s.toSpec home = result := by
  cases h with
  | noRoot unset =>
    rw [toSpec_noRoot (by simp [value?, get, unset, default?]), missing_installRoot]
  | noVersion root_eq unset =>
    rw [toSpec_noVersion (by simp [value?, get, root_eq]) (by simp [value?, get, unset, default?]),
      missing_version]
  | accepted root_eq version_eq expands full =>
    rw [toSpec_of_set root_eq version_eq, expands.eq, Spec.validate_of_not_blank full]
    rfl
  | refused root_eq version_eq expands blank =>
    rw [toSpec_of_set root_eq version_eq, expands.eq, blank]
    rfl

end Completes

/-- Settings come to what their values say, and to nothing else. A spec that they come to is valid
and has every value that was set, but for the tilde of its install root. -/
theorem accepted_exactly (home : Option String) (s : Settings) :
    (∀ result, s.toSpec home = result ↔ Completes home s result) ∧
    ∀ spec, s.toSpec home = .ok spec →
      spec.validate = .ok spec ∧
      (∀ f v, f ≠ .installRoot → s.get f = some v → spec.get f = v) ∧
      ∃ root, s.installRoot = some root ∧ (spec.installRoot = root ∨
        ∃ directory rest, home = some directory ∧ root = "~" ++ rest ∧
          spec.installRoot = directory ++ rest) := by
  constructor
  · intro result
    constructor
    · rintro rfl
      exact completes_toSpec home s
    · exact Completes.eq
  · intro spec hspec
    have hcompletes := completes_toSpec home s
    rw [hspec] at hcompletes
    cases hcompletes with
    | accepted root_eq version_eq expands full =>
      refine ⟨Spec.validate_of_not_blank full, ?_, _, root_eq, expands.tail⟩
      intro f v hf hv
      cases f with
      | installRoot => exact absurd rfl hf
      | version => exact Option.some.inj (version_eq.symm.trans hv)
      | configFileName | agentName | runAsUser =>
        simp only [get] at hv
        simp [filled, Spec.get, hv]

end AgentLaunch.Settings
