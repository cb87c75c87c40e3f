import AgentLaunch.Event

/-!
# Launching

A launch looks the account up, hands the agent's command to a spawner, and lets go of the process
at once: it never waits, and it keeps nothing. Launching twice starts two processes.
-/

namespace AgentLaunch

/-- What a launch needs of its surroundings, whose state has type `σ`. -/
structure Platform (σ : Type) where
  resolve : String → Logged (Except LookupError Account)
  /-- Starts a process; the handle is the caller's. -/
  spawn : Request → σ → Logged (Except SpawnError Handle × σ)
  release : Handle → σ → σ

structure LaunchFailure where
  reason : String
  deriving DecidableEq, Repr

namespace LaunchFailure

def ofLookup (e : LookupError) : LaunchFailure := ⟨e.message⟩

def ofSpawn (e : SpawnError) : LaunchFailure := ⟨e.message⟩

def message (e : LaunchFailure) : String :=
  "Launch failed: " ++ e.reason

end LaunchFailure

/-- What was started. The process number is for information: nothing watches the process. -/
structure Receipt where
  command : Command
  pid : Option UInt32
  /-- Milliseconds since the epoch. -/
  issuedAt : Int
  deriving DecidableEq, Repr

/-- Launches the agent of a spec at the given time. -/
def launch (p : Platform σ) (now : Int) (spec : Spec) (s : σ) :
    Logged (Except LaunchFailure Receipt × σ) := do
  match ← p.resolve spec.runAsUser with
  | .error e =>
    Logged.report (.accountUnresolved spec.runAsUser e)
    return (.error (.ofLookup e), s)
  | .ok account =>
    let request : Request := ⟨Command.forAgent spec, account⟩
    Logged.report (.launching request)
    match ← p.spawn request s with
    | (.error e, s) =>
      Logged.report (.spawnFailed request.command.program e)
      return (.error (.ofSpawn e), s)
    | (.ok handle, s) =>
      Logged.report (.handedOver handle.pid spec.agentName)
      return (.ok ⟨request.command, handle.pid, now⟩, p.release handle s)

end AgentLaunch
