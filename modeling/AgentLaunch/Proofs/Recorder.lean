import AgentLaunch.Proofs.Launch
import AgentLaunch.Recorder

/-!
# Launches over the recording spawner

From any state of the spawner, a launch asks for the account of its spec and for nothing else, adds
one request if there is such an account, and leaves as many handles held as there were.
-/

namespace AgentLaunch

/-- Whether a handle that was given out holds its process. -/
def Behavior.keeps : Behavior → Bool
  | .accept | .block => true
  | .anonymous | .refuse _ => false

namespace Recorder

variable {b : Behavior} {q : Request} {r : Recorder} {handle : Handle}

theorem requests_spawn : (spawn b q r).2.requests = r.requests ++ [q] := by
  cases b <;> rfl

theorem live_spawn : (spawn b q r).2.live = if b.keeps then r.live + 1 else r.live := by
  cases b <;> rfl

theorem pid_isSome_of_spawn (h : (spawn b q r).1 = .ok handle) :
    handle.pid.isSome = b.keeps := by
  cases b with
  | accept | block | anonymous =>
    cases h
    rfl
  | refuse e => cases h

theorem spawn_eq_error_iff {e : SpawnError} : (spawn b q r).1 = .error e ↔ b = .refuse e := by
  cases b <;> simp [spawn]

@[simp] theorem requests_release : (release handle r).requests = r.requests := by
  unfold release
  split <;> rfl

theorem live_release (h : handle.pid.isSome = b.keeps) :
    (release handle r).live = if b.keeps then r.live - 1 else r.live := by
  unfold release
  rw [h]
  split <;> rfl

/-- A handle that is let go of at once leaves nothing behind. -/
theorem live_release_spawn (h : (spawn b q r).1 = .ok handle) :
    (release handle (spawn b q r).2).live = r.live := by
  rw [live_release (pid_isSome_of_spawn h), live_spawn]
  split
  · exact Nat.add_sub_cancel r.live 1
  · rfl

/-- The surroundings of a rehearsed launch in which looking accounts up may report events. -/
def platformWith (b : Behavior) (resolve : String → Logged (Except LookupError Account)) :
    Platform Recorder where
  resolve := resolve
  spawn q r := pure (spawn b q r)
  release := release

theorem platform_eq (b : Behavior) (resolve : String → Except LookupError Account) :
    platform b resolve = platformWith b fun name => pure (resolve name) := rfl

/-- What a launch comes to, and the recorder after it, once the account is known. -/
structure Attempted (b : Behavior) (now : Int) (q : Request) (r : Recorder)
    (out : Except LaunchFailure Receipt × Recorder) : Prop where
  requests : out.2.requests = r.requests ++ [q]
  calls : out.2.calls = r.calls + 1
  live : out.2.live = r.live
  refused : ∀ e, b = .refuse e → out.1 = .error (.ofSpawn e) ∧ out.2.lastPid = r.lastPid
  accepted : (∀ e, b ≠ .refuse e) → ∃ handle, (spawn b q r).1 = .ok handle ∧
    out.1 = .ok ⟨q.command, handle.pid, now⟩ ∧ (handle.pid = none ↔ b = .anonymous) ∧
    out.2.lastPid = r.lastPid + 1

/-- Hands a request over, and lets go at once of what comes back. -/
def attempt (b : Behavior) (now : Int) (q : Request) (r : Recorder) :
    Except LaunchFailure Receipt × Recorder :=
  match spawn b q r with
  | (.error e, t) => (.error (.ofSpawn e), t)
  | (.ok handle, t) => (.ok ⟨q.command, handle.pid, now⟩, release handle t)

theorem requests_attempt {now : Int} : (attempt b now q r).2.requests = r.requests ++ [q] := by
  unfold attempt
  rw [← requests_spawn (b := b)]
  split
  next h => rw [h]
  next h => rw [h, requests_release]

theorem live_attempt {now : Int} : (attempt b now q r).2.live = r.live := by
  unfold attempt
  split
  next e t h =>
    have he : (spawn b q r).1 = .error e := by rw [h]
    cases spawn_eq_error_iff.mp he
    cases h
    rfl
  next handle t h =>
    have hhandle : (spawn b q r).1 = .ok handle := by rw [h]
    have ht : t = (spawn b q r).2 := by rw [h]
    rw [ht, live_release_spawn hhandle]

theorem attempted (b : Behavior) (now : Int) (q : Request) (r : Recorder) :
    Attempted b now q r (attempt b now q r) where
  requests := requests_attempt
  calls := by
    rw [calls, requests_attempt]
    exact List.length_append
  live := live_attempt
  refused := by
    rintro e rfl
    exact ⟨rfl, rfl⟩
  accepted := by
    intro hnot
    cases b with
    | accept | block => exact ⟨_, rfl, rfl, by simp, rfl⟩
    | anonymous => exact ⟨_, rfl, rfl, by simp, rfl⟩
    | refuse e => exact absurd rfl (hnot e)

/-- What the launcher itself reports once the account is known. -/
def attemptEvents (b : Behavior) (agent : String) (q : Request) (r : Recorder) : List Event :=
  .launching q :: match (spawn b q r).1 with
    | .error e => [.spawnFailed q.command.program e]
    | .ok handle => [.handedOver handle.pid agent]

theorem launch_of_known (resolve : String → Logged (Except LookupError Account)) {now : Int}
    {spec : Spec} {account : Account} (h : (resolve spec.runAsUser).value = .ok account) :
    launch (platformWith b resolve) now spec r =
      ⟨attempt b now ⟨Command.forAgent spec, account⟩ r,
        (resolve spec.runAsUser).events ++
          attemptEvents b spec.agentName ⟨Command.forAgent spec, account⟩ r⟩ := by
  rw [launch_of_resolved (p := platformWith b resolve) h]
  cases b <;> simp [platformWith, spawn, attempt, attemptEvents]

/-- The outcomes of one launch, for every answer to the lookup and every way to spawn. -/
theorem launch_once (b : Behavior) (resolve : String → Logged (Except LookupError Account))
    (now : Int) (spec : Spec) (r : Recorder) :
    let lookup := resolve spec.runAsUser
    let out := launch (platformWith b resolve) now spec r
    match lookup.value with
    | .error e =>
      out.value = (.error (.ofLookup e), r) ∧
        out.events = lookup.events ++ [.accountUnresolved spec.runAsUser e]
    | .ok account =>
      let q : Request := ⟨Command.forAgent spec, account⟩
      Attempted b now q r out.value ∧
        out.events = lookup.events ++ attemptEvents b spec.agentName q r := by
  intro lookup out
  cases h : lookup.value with
  | error e =>
    have hout : out = _ := launch_of_unresolved (p := platformWith b resolve) h
    rw [hout]
    exact ⟨rfl, rfl⟩
  | ok account =>
    have hout : out = _ := launch_of_known resolve h
    rw [hout]
    exact ⟨attempted b now _ r, rfl⟩

end Recorder

end AgentLaunch
