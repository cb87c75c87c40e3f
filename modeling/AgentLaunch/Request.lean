import AgentLaunch.Account
import AgentLaunch.Command

/-!
# Spawn requests

What a spawner is asked for, what it hands back, and how it can refuse.
-/

namespace AgentLaunch

/-- A command and the account it shall run under. -/
structure Request where
  command : Command
  account : Account
  deriving DecidableEq, Repr

/-- Why a command was not started. -/
inductive SpawnError where
  | programNotFound (program : String)
  /-- Running the program, or changing to the account, is not allowed. -/
  | permissionDenied (reason : String)
  /-- Any other failure. -/
  | io (reason : String)
  deriving DecidableEq, Repr

def SpawnError.message : SpawnError → String
  | .programNotFound program => "Program not found: " ++ program
  | .permissionDenied reason => "Permission denied: " ++ reason
  | .io reason => "IO error: " ++ reason

inductive Poll where
  /-- The process still runs. -/
  | pending
  /-- The process is over; there is no exit code after a signal. -/
  | finished (code : Option Int32)
  deriving DecidableEq, Repr

/-- A hold on a started process. -/
structure Handle where
  /-- The process number, if the system reports one. -/
  pid : Option UInt32
  poll : Poll
  deriving DecidableEq, Repr

end AgentLaunch
