import AgentLaunch.Account.Record
import AgentLaunch.Host
import AgentLaunch.Program
import AgentLaunch.Recorder

/-!
# The command line

Reads what a run depends on, and writes what it says. Launching goes as far as the spawner, which
refuses every request: this command line starts no processes.
-/

namespace AgentLaunch.CommandLine

/-- What an error in reading a file says of the file. What is no file, such as a directory, counts
as missing. -/
def replyOfError : IO.Error → FileSystem.Reply
  | .noFileOrDirectory .. | .inappropriateType .. | .noSuchThing .. => .missing
  | .permissionDenied .. => .unreadable .noAccess
  | e => .unreadable (.ofKind .other (some (toString e)))

def read (path : String) : IO FileSystem.Reply := do
  try
    return .contents (← IO.FS.readBinFile path)
  catch e =>
    return replyOfError e

/-- The text of a file. What cannot be read as text is empty. -/
def text (path : String) : IO String := do
  match ← read path with
  | .contents bytes => return (String.fromUTF8? bytes).getD ""
  | .missing | .unreadable _ => return ""

/-- The files at absolute paths, as they are at this moment. -/
def snapshot (workingDirectory : String) (paths : List String) : IO FileSystem := do
  let files ← paths.mapM fun path => do return (path, ← read path)
  return ⟨workingDirectory, fun path => (files.lookup path).getD .missing⟩

/-- The surroundings of a launch: accounts are looked up, and every request is refused. -/
def platform (accounts : AccountTable) : Platform Recorder :=
  { Recorder.platform (.refuse (.io "processes cannot be started here")) accounts.resolve with
    resolve := Host.resolve accounts }

/-- Runs the program with these words, and returns its exit code. -/
def run (words : List String) : IO UInt32 := do
  let records := AccountRecord.ofText (← text "/etc/passwd")
  let user := AccountRecord.user? (← text "/proc/self/status")
  let env : Environment :=
    ⟨Environment.bindingsOfBlock (← text "/proc/self/environ"),
      user.bind (AccountRecord.home? records)⟩
  let directory := (← IO.currentDir).toString
  let fs ← snapshot directory (Program.files directory env words)
  let surroundings := platform (AccountRecord.table records)
  let (outcome, _) := Program.run surroundings 0 fs env words .initial
  IO.print outcome.stdout
  for diagnostic in outcome.stderr do
    IO.eprintln (diagnostic.text (.ofEnvironment env))
  return outcome.exitCode.toUInt32

end AgentLaunch.CommandLine

def main (words : List String) : IO UInt32 :=
  AgentLaunch.CommandLine.run words
