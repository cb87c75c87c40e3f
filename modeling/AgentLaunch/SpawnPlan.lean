import AgentLaunch.Event
import AgentLaunch.OsError

/-!
# Spawn plans

How a request is put to the operating system: the words of the command as they are, nothing
connected to the standard streams, a process group of its own, and another account only where the
caller does not have it already.
-/

namespace AgentLaunch

/-- The effective user and group of the program that starts others. -/
structure Caller where
  uid : UInt32
  gid : UInt32
  deriving DecidableEq, Repr

/-- What a standard stream of a new process is connected to. -/
inductive Stream where
  | null
  | inherited
  deriving DecidableEq, Repr

/-- A command in the form in which the operating system starts it. -/
structure SpawnPlan where
  program : String
  args : List String
  /-- The user to change to, if any. -/
  uid : Option UInt32
  /-- The group to change to, if any. -/
  gid : Option UInt32
  /-- The process group to join; 0 is a new one. -/
  processGroup : Nat
  stdin : Stream
  stdout : Stream
  stderr : Stream
  /-- Whether a word of the request holds a NUL, so that it cannot be passed on. -/
  sawNul : Bool
  deriving DecidableEq, Repr

namespace SpawnPlan

def hasNul (s : String) : Bool :=
  s.toList.contains '\x00'

/-- A word of a plan. One that holds a NUL is replaced, as no word can hold it. -/
def word (s : String) : String :=
  if hasNul s then "<string-with-nul>" else s

def ofRequest (caller : Caller) (r : Request) : SpawnPlan where
  program := word r.command.program
  args := r.command.args.map word
  uid := if caller.uid = r.account.uid then none else some r.account.uid
  gid := if caller.uid = r.account.uid then none else some r.account.gid
  processGroup := 0
  stdin := .null
  stdout := .null
  stderr := .null
  sawNul := r.command.argv.any hasNul

/-- What is reported while the plan is made. -/
def events (caller : Caller) (r : Request) : List Event :=
  if caller.uid = r.account.uid then [] else [.switchingAccount caller.uid r.account]

/-- The user and the group that the new process has. -/
def credentials (caller : Caller) (p : SpawnPlan) : UInt32 × UInt32 :=
  (p.uid.getD caller.uid, p.gid.getD caller.gid)

/-- The error of a plan that cannot be passed on. -/
def nulError : OsError :=
  .ofKind .invalidInput (some "nul byte found in provided data")

end SpawnPlan

end AgentLaunch
