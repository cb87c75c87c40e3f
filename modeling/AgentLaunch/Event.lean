import AgentLaunch.Request
import AgentLaunch.Text.Quoted

/-!
# Events

What a launcher reports while it works. Each event has a level, the part of the program that
reports it, a message, and named values.
-/

namespace AgentLaunch

/-- How important an event is, the most important first. -/
inductive Level where
  | error
  | warn
  | info
  | debug
  | trace
  deriving DecidableEq, Repr

namespace Level

/-- The place of a level: a filter that lets a level pass also passes those of lower rank. -/
def rank : Level → Nat
  | .error => 1
  | .warn => 2
  | .info => 3
  | .debug => 4
  | .trace => 5

def name : Level → String
  | .error => "ERROR"
  | .warn => "WARN"
  | .info => "INFO"
  | .debug => "DEBUG"
  | .trace => "TRACE"

end Level

/-- Something worth reporting. -/
inductive Event where
  /-- A configuration file is about to be read. -/
  | configFile (path : String) (required : Bool)
  | accountResolved (account : Account)
  | accountUnresolved (user : String) (error : LookupError)
  | launching (request : Request)
  /-- The process will run under another account than its parent. -/
  | switchingAccount (callerUid : UInt32) (account : Account)
  | spawned (program : String) (pid : Option UInt32)
  | spawnFailed (program : String) (error : SpawnError)
  /-- The process is on its own from here on. -/
  | handedOver (pid : Option UInt32) (agent : String)
  | accepted (issuedAt : Int)
  deriving DecidableEq, Repr

/-- The value of a named part of an event. -/
inductive EventValue where
  | text (s : String)
  | number (n : Int)
  | truth (b : Bool)
  deriving DecidableEq, Repr

namespace Event

def level : Event → Level
  | .configFile .. | .accountResolved .. | .switchingAccount .. => .debug
  | .launching .. | .spawned .. | .handedOver .. | .accepted .. => .info
  | .accountUnresolved .. | .spawnFailed .. => .warn

/-- The part of the program that reports the event. -/
def target : Event → String
  | .configFile .. => "flume_launcher::settings"
  | .accountResolved .. => "flume_launcher_infra_system::identity"
  | .accountUnresolved .. | .launching .. | .spawnFailed .. | .handedOver .. =>
    "flume_launcher_core::application::launcher"
  | .switchingAccount .. | .spawned .. => "flume_launcher_infra_system::detached_spawner"
  | .accepted .. => "flume_launcher"

def message : Event → String
  | .configFile .. => "Loading config file"
  | .accountResolved .. => "Resolved account"
  | .accountUnresolved .. => "Cannot resolve run-as user"
  | .launching .. => "Launching agent"
  | .switchingAccount .. => "Switching identity"
  | .spawned .. => "Process spawned"
  | .spawnFailed .. => "Agent spawn failed"
  | .handedOver .. => "Agent handed to the OS"
  | .accepted .. => "Launch accepted"

/-- A process number that may be missing, as it is shown in events. -/
def pidText : Option UInt32 → String
  | none => "None"
  | some pid => "Some(" ++ toString pid.toNat ++ ")"

/-- The named values of an event, its message apart. -/
def details : Event → List (String × EventValue)
  | .configFile path required => [("path", .text path), ("required", .truth required)]
  | .accountResolved a =>
    [("user", .text a.name), ("uid", .text (toString a.uid.toNat)),
      ("gid", .text (toString a.gid.toNat))]
  | .accountUnresolved user error => [("user", .text user), ("error", .text error.message)]
  | .launching r =>
    [("program", .text r.command.program), ("args", .text (Text.Quoted.list r.command.args)),
      ("user", .text r.account.name), ("uid", .number r.account.uid.toNat)]
  | .switchingAccount callerUid a =>
    [("from_uid", .number callerUid.toNat), ("to_uid", .number a.uid.toNat),
      ("user", .text a.name)]
  | .spawned program pid => [("program", .text program), ("pid", .text (pidText pid))]
  | .spawnFailed program error => [("program", .text program), ("error", .text error.message)]
  | .handedOver pid agent => [("pid", .text (pidText pid)), ("agent", .text agent)]
  | .accepted issuedAt => [("issued_at_ms", .number issuedAt)]

/-- All named values of an event, the message first. -/
def fields (e : Event) : List (String × EventValue) :=
  ("message", .text e.message) :: e.details

end Event

/-- A value and the events that were reported while it was found. -/
structure Logged (α : Type) where
  value : α
  events : List Event

namespace Logged

instance : Monad Logged where
  pure a := ⟨a, []⟩
  bind x f := ⟨(f x.value).value, x.events ++ (f x.value).events⟩

def report (e : Event) : Logged Unit := ⟨(), [e]⟩

@[simp] theorem value_pure (a : α) : (pure a : Logged α).value = a := rfl

@[simp] theorem events_pure (a : α) : (pure a : Logged α).events = [] := rfl

@[simp] theorem value_bind (x : Logged α) (f : α → Logged β) :
    (x >>= f).value = (f x.value).value := rfl

@[simp] theorem events_bind (x : Logged α) (f : α → Logged β) :
    (x >>= f).events = x.events ++ (f x.value).events := rfl

end Logged

end AgentLaunch
