import AgentLaunch.Layout
import AgentLaunch.Spec
import AgentLaunch.Text.Json

/-!
# Commands

The ordered argument vector of one process. It is handed over as it is, never joined and split
again; the joined form is for logs and for reading.
-/

namespace AgentLaunch

/-- A program and its arguments. -/
structure Command where
  program : String
  args : List String
  deriving DecidableEq, Repr

namespace Command

/-- The program followed by its arguments. -/
def argv (c : Command) : List String :=
  c.program :: c.args

/-- The command that runs the agent of a spec. -/
def forAgent (s : Spec) : Command where
  program := Layout.binary s.installRoot s.version
  args :=
    ["agent",
      "--conf", Layout.configDirectory s.installRoot s.version,
      "-f", Layout.configFile s.installRoot s.version s.configFileName,
      "-n", s.agentName,
      Layout.loggerFlag]

/-- The words joined by single spaces, without quoting. -/
def display (c : Command) : String :=
  String.intercalate " " c.argv

def toJson (c : Command) : String :=
  Text.Json.encodeList c.argv

/-- What printing a command shows: the array if asked for, else the joined words. -/
def render (c : Command) (json : Bool) : String :=
  if json then c.toJson else c.display

end Command

end AgentLaunch
