import AgentLaunch.FileTree
import AgentLaunch.Text.Lossy
import AgentLaunch.Shell.Script

/-!
# Shell state

What processes share, and what a running shell has for itself.
-/

namespace AgentLaunch.Shell

inductive Ending where
  | exited (code : Nat)
  | killed (signal : Nat)
  deriving DecidableEq, Repr

/-- How the status of a shell tells the end of another process. -/
def Ending.status : Ending → Nat
  | .exited code => code
  | .killed signal => 128 + signal

/-- Who a process is to the system. -/
structure Identity where
  pid : UInt32
  uid : UInt32
  gid : UInt32
  /-- The name that the system shows for the process. -/
  title : String
  words : List String
  deriving DecidableEq, Repr

inductive Stream where
  /-- Empty, and what is written is gone. -/
  | null
  /-- A text that is written at its end and read from its front. -/
  | pipe (n : Nat)
  /-- An open file that is written at its end. -/
  | file (n : Nat)
  deriving DecidableEq, Repr

structure System where
  files : FileTree
  /-- What was written to each pipe and was not read yet. -/
  pipes : List (List Char)
  /-- Where the open files are, as long as they are anywhere. -/
  opened : List (Option (List String))
  lastPid : UInt32
  /-- The time that has passed, in nanoseconds. -/
  clock : Nat
  /-- Signals with the processes that did not receive them yet. -/
  signals : List (UInt32 × Nat)

structure Binding where
  name : String
  value : Option String
  exported : Bool
  constant : Bool

/-- Why a script does not go on with the next command. -/
inductive Leaving where
  | ended (ending : Ending)
  /-- Out of a function or a sourced file. -/
  | returned
  /-- Out of loops, or on to the next turn of the last of them. -/
  | skipped (loops : Nat) (onward : Bool)
  deriving DecidableEq

structure Switches where
  /-- Whether a failure that nothing looks at ends the shell. -/
  failFast : Bool
  strict : Bool
  noPaths : Bool
  idle : Bool

structure State where
  system : System
  identity : Identity
  /-- The shell that it is, or was split off. -/
  shell : Identity
  /-- The processes that wait for this one, the first of all last. -/
  waiting : List UInt32
  streams : List (Nat × Stream)
  shellStreams : List (Nat × Stream)
  directory : String
  mask : Nat
  name : String
  arguments : List String
  bindings : List Binding
  functions : List (String × Statement)
  switches : Switches
  /-- What to run on a signal, or at the end, which has number zero. -/
  traps : List (Nat × String)
  /-- The exit code of the last command. -/
  status : Nat
  /-- The exit code of the last command whose output was asked for, for a command without name. -/
  asked : Nat
  /-- Processes that were not waited for, with how they ended; the last one first. -/
  children : List (UInt32 × Ending)
  /-- Whether something looks at whether the command fails. -/
  tested : Bool
  loops : Nat
  /-- Bindings to bring back at the end of the function; outside there are none. -/
  saved : Option (List (String × Option Binding))
  leaving : Option Leaving

namespace State

/-- The exit code of an error of the shell itself. -/
def shellError : Nat := 2

def withStatus (s : State) (code : Nat) : State :=
  { s with status := code }

def stop (s : State) (code : Nat) : State :=
  { s with leaving := some (.ended (.exited code)), status := code }

def endedLike (s : State) (e : Ending) : State :=
  { s with leaving := some (.ended e), status := e.status }

/-- Ends the process because of an error. -/
def fail (s : State) : State :=
  s.stop shellError

def ending (s : State) : Ending :=
  match s.leaving with
  | some (.ended e) => e
  | _ => .exited s.status

/-! ### Variables -/

def binding? (s : State) (name : String) : Option Binding :=
  s.bindings.find? fun b => b.name = name

def value? (s : State) (name : String) : Option String :=
  s.binding? name |>.bind (·.value)

def bind (s : State) (b : Binding) : State :=
  { s with bindings := b :: s.bindings.filter fun c => c.name ≠ b.name }

/-- Gives a variable a value. A constant cannot change. -/
def assign (s : State) (name value : String) : State :=
  match s.binding? name with
  | some b => if b.constant then s.fail else s.bind { b with value := some value }
  | none => s.bind ⟨name, some value, false, false⟩

def unset (s : State) (name : String) : State :=
  match s.binding? name with
  | some b =>
    if b.constant then s.fail
    else { s with bindings := s.bindings.filter fun c => c.name ≠ name }
  | none => s

/-- The variables that programs get to see. -/
def environment (s : State) : List (String × String) :=
  s.bindings.filterMap fun b => if b.exported then b.value.map (b.name, ·) else none

/-- Brings a variable back to how it was. -/
def restore (s : State) (name : String) (old : Option Binding) : State :=
  { s with bindings := old.toList ++ s.bindings.filter fun c => c.name ≠ name }

/-! ### Streams -/

def stream (s : State) (descriptor : Nat) : Option Stream :=
  (s.streams.find? fun d => d.1 = descriptor).map (·.2)

def connect (s : State) (descriptor : Nat) (stream : Stream) : State :=
  { s with streams := (descriptor, stream) :: s.streams.filter fun d => d.1 ≠ descriptor }

def close (s : State) (descriptor : Nat) : State :=
  { s with streams := s.streams.filter fun d => d.1 ≠ descriptor }

def pipe (s : State) (t : List Char) : Stream × State :=
  (.pipe s.system.pipes.length,
    { s with system := { s.system with pipes := s.system.pipes ++ [t] } })

/-- What is in a pipe, which is empty afterwards. -/
def drain (s : State) (n : Nat) : List Char × State :=
  ((s.system.pipes[n]?).getD [],
    { s with system := { s.system with pipes := s.system.pipes.set n [] } })

def input (s : State) : List Char :=
  match s.stream 0 with
  | some (.pipe n) => (s.system.pipes[n]?).getD []
  | _ => []

/-- Leaves only a part of the input to be read. -/
def leaveInput (s : State) (t : List Char) : State :=
  match s.stream 0 with
  | some (.pipe n) => { s with system := { s.system with pipes := s.system.pipes.set n t } }
  | _ => s

def withFiles (s : State) (files : FileTree) : State :=
  { s with system := { s.system with files := files } }

/-- The text of a file of the tree. -/
def contents? (s : State) (place : List String) : Option (List Char) :=
  match s.system.files.get? place with
  | some (.file bytes _) => some (Text.lossy bytes.toList).toList
  | _ => none

def store (s : State) (place : List String) (t : List Char) : State :=
  let executable := match s.system.files.get? place with
    | some (.file _ x) => x
    | _ => false
  s.withFiles (s.system.files.replace place (.file (String.ofList t).toUTF8 executable))

def write? (s : State) (descriptor : Nat) (t : List Char) : Option State :=
  match s.stream descriptor with
  | none => none
  | some .null => some s
  | some (.pipe n) =>
    some { s with system := { s.system with pipes := s.system.pipes.modify n (· ++ t) } }
  | some (.file n) =>
    match (s.system.opened[n]?).join with
    | some place => some (s.store place ((s.contents? place).getD [] ++ t))
    | none => some s

/-- Writes to the output. A command fails without one. -/
def say (s : State) (t : String) : State :=
  match s.write? 1 t.toList with
  | some s => s
  | none => s.withStatus 1

def openForWriting? (s : State) (descriptor : Nat) (append : Bool) (path : String) :
    Option State :=
  match s.system.files.placeToWrite s.directory path with
  | .error _ => none
  | .ok place =>
    match s.system.files.get? place with
    | some (.device _) => some (s.connect descriptor .null)
    | some (.program _) => none
    | found =>
      let s := if append && found.isSome then s else s.store place []
      let n := s.system.opened.length
      let system := { s.system with opened := s.system.opened ++ [some place] }
      some ({ s with system := system }.connect descriptor (.file n))

/-- Moves or removes a file, which stays open where it was. -/
def relocate (s : State) (place : List String) (goal : Option (List String)) : State :=
  let moved := s.system.opened.map fun p =>
    if p = some place then goal else if p = goal then none else p
  { s with system := { s.system with opened := moved } }

/-! ### Processes -/

def pathOf (place : List String) : String :=
  if place = [] then "/" else Path.ofComponents place

def leader (s : State) : UInt32 :=
  (s.waiting.getLast?).getD s.identity.pid

/-- What the system tells of a process: its number, its title, its state, its parent and its group,
and more. -/
def processLine (i : Identity) (parent leader : UInt32) : String :=
  toString i.pid.toNat ++ " (" ++ i.title ++ ") S " ++ toString parent.toNat ++ " " ++
    toString leader.toNat ++ " 1 0 -1 0 0 0\n"

/-- What the system tells of a process in lines. -/
def statusLines (i : Identity) (parent : UInt32) : String :=
  let pid := toString i.pid.toNat
  let four (n : UInt32) : String :=
    String.intercalate "\t" (List.replicate 4 (toString n.toNat))
  String.join ([("Name", i.title), ("Umask", "0022"), ("State", "S (sleeping)"), ("Tgid", pid),
    ("Ngid", "0"), ("Pid", pid), ("PPid", toString parent.toNat), ("TracerPid", "0"),
    ("Uid", four i.uid), ("Gid", four i.gid)].map fun l => l.1 ++ ":\t" ++ l.2 ++ "\n")

/-- The process that a word below the directory of processes means. -/
def process? (s : State) (word : String) : Option (Identity × UInt32) :=
  if word = "self" ∨ word = toString s.identity.pid.toNat then
    some (s.identity, s.waiting.headD 1)
  else if word = toString s.shell.pid.toNat then
    some (s.shell, ((s.waiting.dropWhile (· ≠ s.shell.pid)).drop 1).headD 1)
  else none

/-- What the system tells in the files of processes. -/
def processFile? (s : State) (path : String) : Option String :=
  match path.splitOn "/" with
  | ["", "proc", word, file] =>
    match s.process? word, file with
    | some (i, parent), "stat" => some (processLine i parent s.leader)
    | some (i, _), "comm" => some (i.title ++ "\n")
    | some (i, _), "cmdline" => some (String.join (i.words.map (· ++ "\x00")))
    | some (i, parent), "status" => some (statusLines i parent)
    | _, _ => none
  | _ => none

/-- The descriptor that a path is another name of. -/
def descriptor? (path : String) : Option Nat :=
  match path with
  | "/dev/stdin" => some 0
  | "/dev/stdout" => some 1
  | "/dev/stderr" => some 2
  | _ =>
    ["/dev/fd/", "/proc/self/fd/"].findSome? fun front =>
      let digits := path.toList.drop front.length
      if path.startsWith front ∧ digits ≠ [] ∧ digits.all Char.isDigit then
        (String.ofList digits).toNat? else none

def textOf? (s : State) (path : String) : Option String :=
  match s.processFile? path, descriptor? path with
  | some t, _ => some t
  | none, some 0 => (s.stream 0).map fun _ => String.ofList s.input
  | none, some n => (s.stream n).map fun _ => ""
  | none, none =>
    match s.system.files.lookup s.directory path with
    | .ok (place, .file ..) => (s.contents? place).map String.ofList
    | .ok (_, .device _) => some ""
    | _ => none

/-- Where the streams and the directory of a process are, by the names that the system gives
them. -/
def link? (s : State) (path : String) : Option String :=
  match path.splitOn "/" with
  | ["", "proc", word, "cwd"] => (s.process? word).map fun _ => s.directory
  | ["", "proc", word, "fd", n] =>
    let streams := if word = "self" then some s.streams
      else if word = toString s.shell.pid.toNat then some s.shellStreams
      else if word = toString s.identity.pid.toNat then some s.streams
      else none
    match (streams.getD []).find? fun d => toString d.1 = n with
    | some (_, .null) => some "/dev/null"
    | some (_, .pipe n) => some ("pipe:[" ++ toString n ++ "]")
    | some (_, .file n) => ((s.system.opened[n]?).join).map pathOf
    | none => none
  | _ => none

/-- A process of its own that begins with the same state. -/
def split (s : State) : State :=
  let pid := s.system.lastPid + 1
  { s with
    system := { s.system with lastPid := pid }
    identity := { s.identity with pid := pid }
    waiting := s.identity.pid :: s.waiting
    shellStreams := if s.identity.pid = s.shell.pid then s.streams else s.shellStreams
    traps := s.traps.filter fun t => t.2 = ""
    children := [] }

def spend (s : State) (nanoseconds : Nat) : State :=
  { s with system := { s.system with clock := s.system.clock + nanoseconds } }

/-- The state after a process that was split off has ended. -/
def joined (s child : State) : State :=
  { s with system := child.system, status := child.ending.status }

/-- Sends a signal to processes. None at all is an error. -/
def send (s : State) (signal : Nat) (targets : List String) : State :=
  let pids := s.identity.pid :: s.waiting
  let found (t : String) : Option (List UInt32) :=
    if t = "0" ∨ t = "-" ++ toString s.leader.toNat then some pids
    else if (pids ++ s.children.map (·.1)).any (fun p => toString p.toNat = t) then
      some (pids.filter fun p => toString p.toNat = t)
    else none
  let received := targets.map found
  let signals := (received.filterMap (·)).flatten.map (·, signal)
  let sent := { s with system := { s.system with signals := s.system.signals ++ signals } }
  if targets = [] then sent.withStatus shellError
  else sent.withStatus (if received.contains none then 1 else 0)

/-- The signals that end no process by themselves. -/
def harmless : List Nat := [0, 17, 18, 23, 28]

end State

end AgentLaunch.Shell
