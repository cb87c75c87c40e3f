import AgentLaunch.Shell.State

/-!
# Lookup of programs and homes

Where a program is that is called by its name, and where an account is at home.
-/

namespace AgentLaunch.Shell

namespace Lookup

/-- The exit code of a command that is not found. -/
def notFound : Nat := 127

/-- The exit code of a command that cannot be executed. -/
def cannotExecute : Nat := 126

/-- The directories in which programs are looked for when nothing says which. -/
def defaultPath : String :=
  "/usr/local/sbin:/usr/local/bin:/usr/sbin:/usr/bin:/sbin:/bin"

def candidates (s : State) (name : String) : List String :=
  (((s.value? "PATH").getD defaultPath).splitOn ":").map fun d =>
    if d = "" then name else d ++ "/" ++ name

def node? (s : State) (path : String) : Option FileTree.Node :=
  match s.system.files.lookup s.directory path with
  | .ok (_, node) => some node
  | .error _ => none

/-- Whether a path leads to something that can be executed. -/
def isRunnable (s : State) (path : String) : Bool :=
  match node? s path with
  | some (.file _ x) => x
  | some (.program _) => true
  | _ => false

/-- The exit code of a tool that cannot start a command. -/
def refusal (e : OsError) : Nat :=
  if e = .noEntry then notFound else cannotExecute

/-- Where a tool finds a command by its name, or the exit code of the failure: whatever is not a
program on the way counts as one that cannot be executed. -/
def reach (s : State) (name : String) : Except Nat String :=
  if name = "" then .error notFound
  else if name.toList.contains '/' then
    match s.system.files.lookup s.directory name with
    | .error e => .error (refusal e)
    | .ok _ => if isRunnable s name then .ok name else .error cannotExecute
  else match (candidates s name).find? (isRunnable s) with
    | some path => .ok path
    | none => .error (if (candidates s name).any fun path => (node? s path).isSome
        then cannotExecute else notFound)

/-- Where a command is found by its name, or the exit code of a failure. -/
def find (s : State) (name : String) : Except Nat String :=
  if name.toList.contains '/' then .ok name
  else match (candidates s name).find? (isRunnable s) with
    | some path => .ok path
    | none => .error (if (candidates s name).any fun path => match node? s path with
        | some (.file ..) => true
        | _ => false then cannotExecute else notFound)

/-- Where a script is found by its name: here, or else as a program. -/
def script (s : State) (name : String) : String :=
  if name = "" ∨ name.toList.contains '/' ∨ (node? s name).isSome then name
  else ((candidates s name).find? fun path => (node? s path).isSome).getD name

end Lookup

/-- The home directory of an account, or the own one if there is no name. -/
def State.homeOf? (s : State) (user : String) : Option String :=
  if user = "" then s.value? "HOME"
  else
    let records := (((s.textOf? "/etc/passwd").getD "").splitOn "\n").map (·.splitOn ":")
    (records.find? fun r => r.head? = some user).bind (·[5]?)

end AgentLaunch.Shell
