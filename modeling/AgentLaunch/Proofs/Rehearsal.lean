import AgentLaunch.Program
import AgentLaunch.Proofs.Arguments.CommandWord
import AgentLaunch.Proofs.Launch
import AgentLaunch.Proofs.Settings.Settled
import AgentLaunch.Proofs.Text.Json
import AgentLaunch.Recorder

/-!
# Printing what a launch would run

Where a line that launches has its command word replaced by the word that prints, it comes to the
same spec, and what it prints is the command that the spawner would be handed. Two runs do not meet
their settings in the same order, though. Where a parameter is given more than once, one of them may
find a spec that the other one does not find.
-/

namespace AgentLaunch

theorem Command.decodeList_toJson (c : Command) : Text.Json.decodeList c.toJson = some c.argv :=
  Text.Json.decodeList_encodeList c.argv

namespace Program

open Arguments (Invocation IsCut printWords)
open Settings (HasRoom IsSettled IsWhole Reading)

section Resolve

variable {fs : FileSystem} {env : Environment} {i : Invocation} {r r' : Reading}

/-- The spec depends on the settings file and the settings alone. -/
theorem resolve_congr {j : Invocation} (hconfig : i.config = j.config)
    (hsettings : i.settings = j.settings) (r : Reading) :
    resolve fs env i r = resolve fs env j r := by
  rw [resolve, resolve, hconfig, hsettings]

theorem resolve_of_build_error {e : Settings.LoadError}
    (h : Settings.build fs (Settings.selectFile env i.config) env.bindings r = .error e) :
    (resolve fs env i r).value = .error (.load e) := by
  rw [resolve, Logged.value_bind, Settings.load, Settings.buildLogged, h]
  rfl

/-- Finding the spec does not break the run off. -/
def Unbroken (fs : FileSystem) (env : Environment) (i : Invocation) (r : Reading) : Prop :=
  ∀ f, (resolve fs env i r).value = .error f → f.breakage? = none

theorem unbroken_iff : Unbroken fs env i r ↔
    IsWhole (Settings.build fs (Settings.selectFile env i.config) env.bindings r) := by
  constructor
  · intro h e he
    exact h _ (resolve_of_build_error he)
  · intro h f hf
    cases hbuild : Settings.build fs (Settings.selectFile env i.config) env.bindings r with
    | error e =>
      rw [resolve_of_build_error hbuild] at hf
      cases hf
      exact h e hbuild
    | ok below =>
      rw [resolve_of_build hbuild] at hf
      cases hspec : (below.overlay i.settings).toSpec env.home? with
      | ok spec =>
        rw [hspec] at hf
        cases hf
      | error problem =>
        rw [hspec] at hf
        cases hf
        rfl

theorem unbroken_of_room
    (hroom : HasRoom r.room fs (Settings.selectFile env i.config) env.bindings)
    (hlegible : r.legible = true) : Unbroken fs env i r :=
  unbroken_iff.mpr (hroom.isWhole_build hlegible)

/-- Where no order counts, two runs that are not broken off find the same spec. -/
theorem resolve_settled (h : IsSettled fs (Settings.selectFile env i.config) env.bindings)
    (hr : Unbroken fs env i r) (hr' : Unbroken fs env i r') :
    resolve fs env i r = resolve fs env i r' := by
  have hbuild := Settings.build_settled h (unbroken_iff.mp hr) (unbroken_iff.mp hr')
  rw [resolve, resolve, Settings.load, Settings.load, Settings.buildLogged, Settings.buildLogged,
    hbuild]

end Resolve

section Perform

variable {σ : Type} {fs : FileSystem} {env : Environment} {i : Invocation} {r : Reading}
  {spec : Spec}

theorem perform_of_failure {f : Failure} (p : Platform σ) (now : Int) (s : σ)
    (h : (resolve fs env i r).value = .error f) :
    perform p now fs env i s r = ⟨(f.outcome, s), (resolve fs env i r).events⟩ := by
  rw [perform, Logged.bind_eq, h]
  simp

/-- Printing does nothing with the platform. -/
theorem perform_print (p : Platform σ) (now : Int) (s : σ)
    (h : (resolve fs env i r).value = .ok spec) (hverb : i.verb = .print) :
    perform p now fs env i s r = ⟨(print spec i.json, s), (resolve fs env i r).events⟩ := by
  rw [perform, Logged.bind_eq, h]
  simp [hverb]

theorem perform_start (p : Platform σ) (now : Int) (s : σ)
    (h : (resolve fs env i r).value = .ok spec) (hverb : i.verb = .start) :
    (perform p now fs env i s r).value =
      match (launch p now spec s).value with
      | (.ok receipt, t) => (⟨0, confirmation (Style.isForced env) spec receipt, []⟩, t)
      | (.error failure, t) => (failed (refusal (Style.isForced env) failure), t) := by
  rw [perform, Logged.value_bind, h]
  simp only [hverb, start, Logged.value_bind]
  generalize (launch p now spec s).value = out
  obtain ⟨_ | _, t⟩ := out <;> rfl

/-- Launching hands over what a launch of the spec hands over. -/
theorem perform_watched (p : Platform σ) (now : Int) (s : σ)
    (h : (resolve fs env i r).value = .ok spec) (hverb : i.verb = .start) :
    perform p.watched now fs env i (s, []) r =
      ⟨((perform p now fs env i s r).value.1, (perform p now fs env i s r).value.2, handed p spec),
        (perform p now fs env i s r).events⟩ := by
  rw [perform, perform, Logged.bind_eq, Logged.bind_eq, h]
  simp only [hverb, start, Logged.bind_eq, launch_watched, List.nil_append]
  generalize launch p now spec s = out
  obtain ⟨⟨_ | _, t⟩, events⟩ := out <;> rfl

end Perform

/-- The last thing in a confirmation is the command. -/
theorem exists_confirmation_eq (colour : Bool) (spec : Spec) (receipt : Receipt) :
    ∃ head, confirmation colour spec receipt = head ++ receipt.command.display ++ "\n" := by
  have hrow : ∀ above name value : String,
      ∃ head, above ++ ("  " ++ name ++ " " ++ value ++ "\n") = head ++ value ++ "\n" :=
    fun above name value => ⟨above ++ ("  " ++ name ++ " "), by simp only [String.append_assoc]⟩
  exact hrow _ _ _

theorem command_of_launch {σ : Type} {p : Platform σ} {now : Int} {spec : Spec} {s t : σ}
    {receipt : Receipt} (h : (launch p now spec s).value = (.ok receipt, t)) :
    receipt.command = Command.forAgent spec := by
  cases haccount : (p.resolve spec.runAsUser).value with
  | error e =>
    rw [launch_of_unresolved haccount] at h
    cases h
  | ok account =>
    rw [launch_of_resolved haccount] at h
    dsimp only at h
    split at h
    · cases h
    · cases h
      rfl

/-- A machine without files. -/
def bareFiles : FileSystem where
  workingDirectory := "/"
  read _ := .missing

def bareEnvironment : Environment := ⟨[], none⟩

def sampleOptions : List String := ["--install-root=/opt", "--version", "1.4.0"]

/-- An environment that gives the version two times, once as the first item of a list. -/
def ambiguousEnvironment : Environment where
  bindings := [("FLUME_LAUNCHER_VERSION", "1"), ("FLUME_LAUNCHER_VERSION[0]", "2")]
  accountHome := none

end Program

end AgentLaunch
