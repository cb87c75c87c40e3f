import AgentLaunch.OsError
import AgentLaunch.Path

/-!
# The environment

The bindings that a program is started with, and the directories that follow from them.
-/

namespace AgentLaunch

/-- What a program knows of its user. -/
structure Environment where
  /-- Names and values; no name occurs twice. -/
  bindings : List (String × String)
  /-- The home directory on record for the account that runs the program. -/
  accountHome : Option String
  deriving DecidableEq, Repr

namespace Environment

def get? (e : Environment) (name : String) : Option String :=
  (e.bindings.find? fun v => v.1 = name).map (·.2)

/-- The bindings that a block of memory holds: each a name and a value with an equals sign between
them, and a NUL after it. Of two with one name the first counts. -/
def bindingsOfBlock (block : String) : List (String × String) :=
  (block.splitOn "\x00").foldl (fun found binding =>
    match binding.splitOn "=" with
    | name :: value :: rest =>
      if found.any (fun b => b.1 = name) then found
      else found ++ [(name, String.intercalate "=" (value :: rest))]
    | _ => found) []

/-- The home directory. An empty variable counts as missing. -/
def home? (e : Environment) : Option String :=
  match e.get? "HOME" with
  | none | some "" => e.accountHome
  | some home => some home

/-- The directory of the user's configuration files. A relative one in the variable is ignored. -/
def configDirectory? (e : Environment) : Option String :=
  e.home?.map fun home =>
    match e.get? "XDG_CONFIG_HOME" with
    | some directory => if Path.isAbsolute directory then directory else Path.join home ".config"
    | none => Path.join home ".config"

end Environment

/-- What comes of reading a file. -/
inductive FileSystem.Reply where
  /-- There is no regular file. -/
  | missing
  /-- There is one, but it cannot be read. -/
  | unreadable (error : OsError)
  | contents (bytes : ByteArray)

structure FileSystem where
  workingDirectory : String
  /-- What comes of reading the file that an absolute path leads to. -/
  read : String → FileSystem.Reply

namespace FileSystem

/-- A path as seen from the root. -/
def absolute (fs : FileSystem) (p : String) : String :=
  Path.join fs.workingDirectory p

/-- Whether an absolute path leads to a regular file. -/
def isFile (fs : FileSystem) (p : String) : Bool :=
  match fs.read p with
  | .missing => false
  | .unreadable _ | .contents _ => true

end FileSystem

end AgentLaunch
