import AgentLaunch.Shell.State

/-!
# Signals

The names of signals, and the command that sends them.
-/

namespace AgentLaunch.Shell.Signal

open State

def names : List String :=
  ["EXIT", "HUP", "INT", "QUIT", "ILL", "TRAP", "ABRT", "BUS", "FPE", "KILL", "USR1", "SEGV",
    "USR2", "PIPE", "ALRM", "TERM", "STKFLT", "CHLD", "CONT", "STOP", "TSTP", "TTIN", "TTOU", "URG",
    "XCPU", "XFSZ", "VTALRM", "PROF", "WINCH", "IO", "PWR", "SYS"]

/-- The number of a signal given by number or name. -/
def number? (t : String) : Option Nat :=
  match t.toNat? with
  | some n => if n ≤ 64 then some n else none
  | none =>
    let bare := if t.startsWith "SIG" then String.ofList (t.toList.drop 3) else t
    if names.contains bare then some (names.idxOf bare) else none

def kill (s : State) : List String → State
  | "-l" :: _ => s.withStatus 0
  | "-s" :: name :: targets =>
    match number? name with
    | some n => s.send n targets
    | none => s.withStatus shellError
  | "--" :: targets => s.send 15 targets
  | first :: targets =>
    match first.toList with
    | '-' :: name =>
      match number? (String.ofList name) with
      | some n => s.send n (if targets.head? = some "--" then targets.tail else targets)
      | none => s.withStatus shellError
    | _ => s.send 15 (first :: targets)
  | [] => s.withStatus shellError

end AgentLaunch.Shell.Signal
