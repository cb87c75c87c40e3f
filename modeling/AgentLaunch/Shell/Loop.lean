import AgentLaunch.Shell.State

/-!
# Loops

How loops take their turns, and when a failure ends the shell.
-/

namespace AgentLaunch.Shell.State

/-- The state after one turn of a loop, and whether it takes another one. -/
def afterTurn (s : State) : State × Bool :=
  match s.leaving with
  | none => (s, true)
  | some (.skipped loops onward) =>
    if loops ≤ 1 then ({ s with leaving := none }, onward)
    else ({ s with leaving := some (.skipped (loops - 1) onward) }, false)
  | some _ => (s, false)

def forEach (turn : String → State → State) : List String → State → State
  | [], s => s
  | v :: rest, s =>
    let (s, goesOn) := (turn v s).afterTurn
    if goesOn then forEach turn rest s else s

/-- The state of a process that never ends by itself. -/
def endless (s : State) : State :=
  (s.spend (Nat.pow 10 30)).endedLike (.killed 15)

/-- Takes turns as long as they say so. A turn knows the status of the one before. -/
def whileHolds (turn : Nat → State → State × Nat × Bool) : Nat → Nat → State → State
  | 0, _, s => s.endless
  | n + 1, last, s =>
    let (s, last, goesOn) := turn last s
    if goesOn then whileHolds turn n last s
    else if s.leaving.isSome then s
    else s.withStatus last

/-- Ends the shell if a failure is not to be passed over. -/
def checked (before s : State) : State :=
  if s.switches.failFast && !before.tested && s.status ≠ 0 && s.leaving.isNone then s.stop s.status
  else s

end AgentLaunch.Shell.State
