import AgentLaunch.Launch

/-!
# The recording spawner

A spawner that starts nothing. It records every request, gives out process numbers in order, and
counts the handles that are still held.
-/

namespace AgentLaunch

/-- How a recording spawner answers. -/
inductive Behavior where
  /-- Every request is accepted, and the process is over at once with code 0. -/
  | accept
  /-- Every request is accepted, and the process never ends. -/
  | block
  /-- Every request is accepted by a handle without a process number, over at once without a
  code; the accepted process itself is let go of before the handle is given out. -/
  | anonymous
  /-- Every request is refused. -/
  | refuse (error : SpawnError)
  deriving DecidableEq, Repr

structure Recorder where
  /-- All requests, refused ones included, in order. -/
  requests : List Request
  lastPid : UInt32
  /-- How many accepted processes are still held. -/
  live : Nat
  deriving DecidableEq, Repr

namespace Recorder

def initial : Recorder := ⟨[], 1000, 0⟩

/-- How often the spawner was asked. -/
def calls (r : Recorder) : Nat :=
  r.requests.length

def record (q : Request) (r : Recorder) : Recorder :=
  { r with requests := r.requests ++ [q] }

/-- Gives out the next process number; after the last one the count starts again at 0. -/
def advance (r : Recorder) : Recorder :=
  { r with lastPid := r.lastPid + 1 }

def spawn (b : Behavior) (q : Request) (r : Recorder) : Except SpawnError Handle × Recorder :=
  let r := r.record q
  match b with
  | .refuse e => (.error e, r)
  | .accept =>
    let r := r.advance
    (.ok ⟨some r.lastPid, .finished (some 0)⟩, { r with live := r.live + 1 })
  | .block =>
    let r := r.advance
    (.ok ⟨some r.lastPid, .pending⟩, { r with live := r.live + 1 })
  | .anonymous => (.ok ⟨none, .finished none⟩, r.advance)

/-- Letting go of a handle; one without a process number holds nothing. -/
def release (h : Handle) (r : Recorder) : Recorder :=
  if h.pid.isSome then { r with live := r.live - 1 } else r

/-- The surroundings of a rehearsed launch. -/
def platform (b : Behavior) (resolve : String → Except LookupError Account) :
    Platform Recorder where
  resolve name := pure (resolve name)
  spawn q r := pure (spawn b q r)
  release := release

end Recorder

end AgentLaunch
