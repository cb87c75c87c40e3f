import AgentLaunch.FileTree
import AgentLaunch.ScriptHeader
import AgentLaunch.Text.Lossy

/-!
# Images

What runs for a file: the file itself if it is a program of the system, or else the interpreter that
it names as a script, which may be a script again.
-/

namespace AgentLaunch

/-- A program of the system, the name that it is called by, and its arguments. -/
structure Image where
  program : String
  name : String
  args : List String
  deriving DecidableEq, Repr

namespace Image

def maxArgument : Nat := 131071

/-- How many bytes all words of a process can have together, with a pointer for each. -/
def maxWords : Nat := 2097152

/-- How many files are opened on the way to a program. -/
def maxFiles : Nat := 6

/-- How many bytes words take, each with a mark of its end. -/
def byteCount (words : List String) : Nat :=
  words.foldl (fun n w => n + w.utf8ByteSize + 1) 0

/-- The room that is left for arguments beside the variables and the path. -/
def room (bindings argv : List String) (path : String) : Nat :=
  maxWords - 8 * (argv.length + bindings.length) - byteCount (path :: bindings)

def fits (room : Nat) (words : List String) : Bool :=
  words.all (fun w => w.utf8ByteSize ≤ maxArgument) && byteCount words ≤ room

def openFile (files : FileTree) (directory path : String) : Except OsError FileTree.Node := do
  match ← files.lookup directory path with
  | (_, .program name) => return .program name
  | (_, .file contents true) => return .file contents true
  | _ => throw .noAccess

/-- What runs for a path when so many files may still be opened. -/
def follow (files : FileTree) (directory : String) (room : Nat) :
    Nat → String → List String → Except OsError Image
  | 0, path, _ => do
    let _ ← openFile files directory path
    throw .tooManyLevels
  | n + 1, path, argv => do
    match ← openFile files directory path with
    | .program name =>
      if fits room argv then return ⟨name, argv.headD "", argv.tail⟩ else throw .tooBig
    | .file contents _ =>
      if !fits room argv then throw .tooBig
      match ScriptHeader.read? contents with
      | none => throw .noExec
      | some header =>
        let interpreter := Text.lossy header.interpreter
        let argv := interpreter :: (header.argument.map Text.lossy).toList ++ path :: argv.tail
        if !fits room argv then throw .tooBig
        if interpreter = "" then throw .noAccess
        follow files directory room n interpreter argv
    | _ => throw .noAccess

def ofPath (files : FileTree) (directory : String) (bindings : List (String × String))
    (path : String) (argv : List String) : Except OsError Image :=
  let pairs := bindings.map fun v => v.1 ++ "=" ++ v.2
  let space := if fits maxWords pairs then room pairs argv path else 0
  follow files directory space maxFiles path argv

end Image

end AgentLaunch
