import AgentLaunch.Proofs.Settings.Acceptance
import AgentLaunch.Proofs.Settings.Layers

/-!
# Specs given again

A spec whose fields are all given as options comes out as it is, whatever is below the options. Its
install root is expanded already, and what expansion leaves can only be expanded again if the home
directory brings a tilde of its own.
-/

namespace AgentLaunch

namespace Settings

/-- The settings that set every field of a spec. -/
def ofSpec (spec : Spec) : Settings :=
  .ofFields fun f => some (spec.get f)

def BeginsWithTilde (path : String) : Prop :=
  ∃ rest, path = "~" ++ rest

section Again

variable {home home' : Option String} {path expanded : String} {spec : Spec} {s top : Settings}

theorem expandTilde_of_not_begins (h : ¬ BeginsWithTilde path) : expandTilde home path = path := by
  apply expandTilde_other
  · rintro rfl
    exact h ⟨"", rfl⟩
  · rintro rest rfl
    refine h ⟨"/" ++ rest, ?_⟩
    rw [← String.append_assoc]
    rfl

/-- What follows a home directory begins with a slash, so that it brings no tilde. -/
theorem not_begins_below {directory rest : String} (h : ¬ BeginsWithTilde directory) :
    ¬ BeginsWithTilde (directory ++ "/" ++ rest) := by
  rintro ⟨rest', hrest⟩
  have hchars : directory.toList ++ '/' :: rest.toList = '~' :: rest'.toList := by
    simpa using congrArg String.toList hrest
  cases hdirectory : directory.toList with
  | nil => simp [hdirectory] at hchars
  | cons c cs =>
    rw [hdirectory, List.cons_append, List.cons.injEq] at hchars
    refine h ⟨String.ofList cs, ?_⟩
    rw [← String.toList_inj, hdirectory, hchars.1]
    simp

/-- An expanded path is not expanded again, unless its tilde was kept because the home directory was
unknown. -/
theorem Expands.again (h : Expands home path expanded)
    (hhome : ∀ directory, home = some directory → ¬ BeginsWithTilde directory)
    (hknown : home = none → home' = none) : expandTilde home' expanded = expanded := by
  cases h with
  | alone known => exact expandTilde_of_not_begins (hhome _ known)
  | below known => exact expandTilde_of_not_begins (not_begins_below (hhome _ known))
  | kept other =>
    rcases other with hnone | ⟨halone, hbelow⟩
    · rw [hknown hnone, expandTilde_none]
    · exact expandTilde_other halone hbelow

/-- A home directory with a tilde in front would be expanded in its turn. -/
example : expandTilde (some "~/h") (expandTilde (some "~/h") "~") = "~/h/h" := by decide +kernel

theorem toSpec_again (h : s.toSpec home = .ok spec)
    (hhome : ∀ directory, home = some directory → ¬ BeginsWithTilde directory)
    (hknown : home = none → home' = none) (htop : ∀ f, top.get f = some (spec.get f))
    (below : Settings) : (below.overlay top).toSpec home' = .ok spec := by
  have hcompletes := completes_toSpec home s
  rw [h] at hcompletes
  cases hcompletes with
  | @accepted root version expanded root_eq version_eq expands full =>
    have hvalue : ∀ f, (below.overlay top).value? f = some ((s.filled expanded version).get f) := by
      intro f
      rw [value?, get_overlay, htop]
      rfl
    have hspec : specOf home' (s.filled expanded version).get = s.filled expanded version := by
      change { s.filled expanded version with installRoot := expandTilde home' expanded } = _
      rw [expands.again hhome hknown]
      rfl
    rw [toSpec_of_value hvalue, hspec, Spec.validate_of_not_blank full]
    rfl

end Again

end Settings

namespace Program

open Arguments (Invocation Line given? configVariable)
open Settings (BeginsWithTilde Reading)

section Resolve

variable {fs : FileSystem} {env : Environment} {i : Invocation} {r : Reading} {spec : Spec}

/-- A spec that was found is what the settings on all layers come to. -/
theorem exists_toSpec_of_resolve (h : (resolve fs env i r).value = .ok spec) :
    ∃ s : Settings, s.toSpec env.home? = .ok spec := by
  cases hbuild : Settings.build fs (Settings.selectFile env i.config) env.bindings r with
  | error e =>
    rw [resolve, Logged.value_bind, Settings.load, Settings.buildLogged, hbuild] at h
    cases h
  | ok below =>
    rw [resolve_of_build hbuild] at h
    refine ⟨below.overlay i.settings, ?_⟩
    cases hspec : (below.overlay i.settings).toSpec env.home? with
    | ok found =>
      rw [hspec] at h
      cases h
      rfl
    | error e =>
      rw [hspec] at h
      cases h

end Resolve

/-- A spec was found, by settings alone or by a run, with this home directory. -/
inductive Found (home : Option String) (spec : Spec) : Prop where
  | settings (s : Settings) (h : s.toSpec home = .ok spec)
  | run (fs : FileSystem) (env : Environment) (i : Invocation) (r : Reading)
      (same : env.home? = home) (h : (resolve fs env i r).value = .ok spec)

/-- Given as options, a spec that was found is found again, over whatever other layers there are. -/
theorem found_again (home : Option String) (spec : Spec) (hfound : Found home spec)
    (hhome : ∀ directory, home = some directory → ¬ BeginsWithTilde directory) :
    (∀ (below : Settings) (home' : Option String), (home = none → home' = none) →
      (below.overlay (.ofSpec spec)).toSpec home' = .ok spec) ∧
    ∀ (fs : FileSystem) (env : Environment) (r : Reading), (home = none → env.home? = none) →
      (∀ i : Invocation, (∀ f, i.settings.get f = some (spec.get f)) →
        (∃ below, (Settings.load fs env i.config r).value = .ok below) →
        (resolve fs env i r).value = .ok spec) ∧
      ∀ l : Line, l.IsProper → l.NamesConfig (env.get? configVariable) →
        (∀ f, given? l.options (.field f) = some (spec.get f)) →
        (∃ below,
          (Settings.load fs env (l.config (env.get? configVariable)) r).value = .ok below) →
        ∃ i, Arguments.parse env l.words = .ok i ∧ (resolve fs env i r).value = .ok spec := by
  obtain ⟨s, hs⟩ : ∃ s : Settings, s.toSpec home = .ok spec := by
    cases hfound with
    | settings s h => exact ⟨s, h⟩
    | run fs env i r same h => exact same ▸ exists_toSpec_of_resolve h
  have hresolve : ∀ (fs : FileSystem) (env : Environment) (r : Reading),
      (home = none → env.home? = none) →
      ∀ i : Invocation, (∀ f, i.settings.get f = some (spec.get f)) →
        (∃ below, (Settings.load fs env i.config r).value = .ok below) →
        (resolve fs env i r).value = .ok spec := by
    rintro fs env r hknown i hflags ⟨below, hbelow⟩
    rw [resolve_of_build hbelow, Settings.toSpec_again hs hhome hknown hflags below]
    rfl
  refine ⟨fun below home' hknown => ?_, fun fs env r hknown => ⟨hresolve fs env r hknown, ?_⟩⟩
  · exact Settings.toSpec_again hs hhome hknown (fun f => Settings.get_ofFields _ f) below
  · intro l hl hconfig hflags hload
    refine ⟨_, Arguments.parse_words env l hl hconfig, hresolve fs env r hknown _ ?_ hload⟩
    intro f
    rw [Line.invocation, Settings.get_ofFields, hflags]

/-- A line that gives all five fields, and a settings file and variables with other values. -/
def againLine : Line where
  front := [.spaced .config "agent.toml"]
  verb := .start
  options := [.attached (.field .runAsUser) "root", .spaced (.field .version) "1",
    .attached (.field .installRoot) "/home/u/x~", .spaced (.field .agentName) " b ",
    .spaced (.field .configFileName) "cygnus.conf"]

theorem found_again_sample : ∃ i, Arguments.parse sampleEnvironment
      ["--config", "agent.toml", "start", "--run-as-user=root", "--version", "1",
        "--install-root=/home/u/x~", "--agent-name", " b ", "--conf-file", "cygnus.conf"] = .ok i ∧
    (resolve sampleFiles sampleEnvironment i shortestFirst).value =
      .ok ⟨"/home/u/x~", "1", "cygnus.conf", " b ", "root"⟩ := by
  have hfound : Found (some "/home/u") ⟨"/home/u/x~", "1", "cygnus.conf", " b ", "root"⟩ :=
    .settings ⟨some "~/x~", some "1", none, some " b ", none⟩ (by decide +kernel)
  have hhome : ∀ directory, some "/home/u" = some directory → ¬ BeginsWithTilde directory := by
    rintro directory hdirectory ⟨rest, hrest⟩
    have hchars := congrArg String.toList (Option.some.inj hdirectory ▸ hrest)
    simp at hchars
  obtain ⟨-, hagain⟩ := found_again _ _ hfound hhome
  obtain ⟨-, hline⟩ := hagain sampleFiles sampleEnvironment shortestFirst nofun
  have hload : Settings.build sampleFiles _ sampleEnvironment.bindings shortestFirst = _ :=
    Settings.build_plain sampleFiles_entries rfl (Settings.isPlain_assignments (by decide))
      (sampleEnvironment_entries ▸ Settings.isPlain_assignments (by decide))
  refine hline againLine ⟨by decide, by decide, by decide, by decide⟩ nofun (fun f => ?_) ⟨_, hload⟩
  cases f <;> rfl

end Program

end AgentLaunch
