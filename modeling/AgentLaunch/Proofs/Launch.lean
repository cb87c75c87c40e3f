import AgentLaunch.Launch
import AgentLaunch.Proofs.Bind

/-!
# Single launches

A launch looks one account up. Where it is unknown nothing happens; where it is known the spawner is
handed one request, and no process stays held.
-/

namespace AgentLaunch

section Launch

variable {σ : Type} {p : Platform σ} {now : Int} {spec : Spec} {s t : σ} {account : Account}

theorem launch_of_unresolved {e : LookupError} (h : (p.resolve spec.runAsUser).value = .error e) :
    launch p now spec s = ⟨(.error (.ofLookup e), s),
      (p.resolve spec.runAsUser).events ++ [.accountUnresolved spec.runAsUser e]⟩ := by
  rw [launch, Logged.bind_eq, h]
  rfl

/-- A known account leads to one request, and its answer decides. -/
theorem launch_of_resolved (h : (p.resolve spec.runAsUser).value = .ok account) :
    launch p now spec s =
      let request : Request := ⟨Command.forAgent spec, account⟩
      let answer := p.spawn request s
      let before := (p.resolve spec.runAsUser).events ++ .launching request :: answer.events
      match answer.value with
      | (.error e, t) =>
        ⟨(.error (.ofSpawn e), t), before ++ [.spawnFailed request.command.program e]⟩
      | (.ok handle, t) =>
        ⟨(.ok ⟨request.command, handle.pid, now⟩, p.release handle t),
          before ++ [.handedOver handle.pid spec.agentName]⟩ := by
  rw [launch, Logged.bind_eq, h]
  simp only [Logged.bind_eq, Logged.report]
  generalize (p.spawn ⟨Command.forAgent spec, account⟩ s) = answer
  obtain ⟨⟨_ | _, t⟩, events⟩ := answer <;> simp

/-- The requests that a launch hands to the spawner. -/
def handed (p : Platform σ) (spec : Spec) : List Request :=
  match (p.resolve spec.runAsUser).value with
  | .error _ => []
  | .ok account => [⟨Command.forAgent spec, account⟩]

/-- A platform that works as before and notes every request that its spawner is handed. -/
def Platform.watched (p : Platform σ) : Platform (σ × List Request) where
  resolve := p.resolve
  spawn request s := do
    let (answer, t) ← p.spawn request s.1
    return (answer, t, s.2 ++ [request])
  release handle s := (p.release handle s.1, s.2)

/-- Being watched changes nothing, and what is noted is what a launch hands over. -/
theorem launch_watched (p : Platform σ) (now : Int) (spec : Spec) (s : σ) (seen : List Request) :
    launch p.watched now spec (s, seen) =
      ⟨((launch p now spec s).value.1, (launch p now spec s).value.2, seen ++ handed p spec),
        (launch p now spec s).events⟩ := by
  cases h : (p.resolve spec.runAsUser).value with
  | error e =>
    have hwatched : (p.watched.resolve spec.runAsUser).value = .error e := h
    rw [launch_of_unresolved h, launch_of_unresolved hwatched, handed, h, List.append_nil]
    rfl
  | ok account =>
    have hwatched : (p.watched.resolve spec.runAsUser).value = .ok account := h
    rw [launch_of_resolved h, launch_of_resolved hwatched, handed, h]
    simp only [Platform.watched, Logged.bind_eq]
    generalize (p.spawn ⟨Command.forAgent spec, account⟩ s) = answer
    obtain ⟨⟨_ | _, t⟩, events⟩ := answer <;> simp

end Launch

end AgentLaunch
