import AgentLaunch.Recorder

/-!
# Sessions

A sequence of steps with one launcher over a recording spawner. Handles that the steps obtain
themselves are kept in numbered slots; those of launches are not kept by anyone.
-/

namespace AgentLaunch.Session

/-- The surroundings that stay the same during a session. -/
structure Setup where
  behavior : Behavior
  resolve : String → Except LookupError Account
  /-- The fixed clock, in milliseconds since the epoch. -/
  now : Int

/-- One thing to do. -/
inductive Step where
  | launch (spec : Spec)
  | spawn (request : Request)
  | wait (slot : Nat)
  | id (slot : Nat)
  | drop (slot : Nat)
  | resolve (user : String)
  | requests
  /-- Compares two recorded requests, given by their numbers. -/
  | same (a b : Nat)
  | now
  deriving Repr

/-- What a step answers. -/
inductive Reply where
  | launched (receipt : Receipt)
  | launchFailed (failure : LaunchFailure)
  | spawned (slot : Nat) (pid : Option UInt32)
  | spawnFailed (error : SpawnError)
  | polled (poll : Poll)
  | pid (pid : Option UInt32)
  | noHandle
  | dropped (was : Bool)
  | account (account : Account)
  | lookupFailed (error : LookupError)
  | requests (requests : List Request)
  | same (equal : Bool)
  | noRequest
  | time (now : Int)
  deriving DecidableEq, Repr

/-- What changes during a session. -/
structure State where
  recorder : Recorder
  /-- The handles of successful spawn steps; dropped ones leave their slot empty. -/
  slots : List (Option Handle)
  deriving DecidableEq, Repr

namespace State

def initial : State := ⟨.initial, []⟩

/-- The handle of a slot, if it was made and not dropped. -/
def handle? (s : State) (slot : Nat) : Option Handle :=
  s.slots[slot]?.join

end State

def platform (c : Setup) : Platform Recorder :=
  Recorder.platform c.behavior c.resolve

def step (c : Setup) (s : State) : Step → Logged (Reply × State)
  | .launch spec => do
    match ← AgentLaunch.launch (platform c) c.now spec s.recorder with
    | (.ok receipt, r) => return (.launched receipt, { s with recorder := r })
    | (.error failure, r) => return (.launchFailed failure, { s with recorder := r })
  | .spawn request => do
    match ← (platform c).spawn request s.recorder with
    | (.ok handle, r) =>
      return (.spawned s.slots.length handle.pid, ⟨r, s.slots ++ [some handle]⟩)
    | (.error e, r) => return (.spawnFailed e, { s with recorder := r })
  | .wait slot =>
    match s.handle? slot with
    | some h => pure (.polled h.poll, s)
    | none => pure (.noHandle, s)
  | .id slot =>
    match s.handle? slot with
    | some h => pure (.pid h.pid, s)
    | none => pure (.noHandle, s)
  | .drop slot =>
    match s.handle? slot with
    | some h =>
      pure (.dropped true, ⟨(platform c).release h s.recorder, s.slots.set slot none⟩)
    | none => pure (.dropped false, s)
  | .resolve user =>
    match c.resolve user with
    | .ok a => pure (.account a, s)
    | .error e => pure (.lookupFailed e, s)
  | .requests => pure (.requests s.recorder.requests, s)
  | .same a b =>
    match s.recorder.requests[a]?, s.recorder.requests[b]? with
    | some p, some q => pure (.same (p = q), s)
    | _, _ => pure (.noRequest, s)
  | .now => pure (.time c.now, s)

/-- A step as it can be seen from outside. -/
structure Entry where
  reply : Reply
  /-- How often the spawner was asked so far. -/
  calls : Nat
  /-- How many handles are held after the step. -/
  live : Nat
  events : List Event
  deriving DecidableEq, Repr

/-- Does one step and notes what can be seen of it. -/
def stepEntry (c : Setup) (s : State) (a : Step) : Entry × State :=
  let out := step c s a
  let next := out.value.2
  (⟨out.value.1, next.recorder.calls, next.recorder.live, out.events⟩, next)

def run (c : Setup) (s : State) : List Step → List Entry
  | [] => []
  | a :: rest =>
    let (entry, next) := stepEntry c s a
    entry :: run c next rest

/-- The state after all steps. -/
def runState (c : Setup) (s : State) (steps : List Step) : State :=
  steps.foldl (fun s a => (stepEntry c s a).2) s

end AgentLaunch.Session
