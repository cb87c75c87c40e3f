/-!
# The agent distribution

The fixed shape of an unpacked distribution below its install root. Paths are joined with a slash
and nothing else, so that the install root is carried through exactly as given.
-/

namespace AgentLaunch.Layout

/-- The directory of a distribution, below the install root. -/
def distributionName (version : String) : String :=
  "apache-flume-" ++ version ++ "-bin"

def distribution (installRoot version : String) : String :=
  installRoot ++ "/" ++ distributionName version

/-- The program that runs agents. -/
def binary (installRoot version : String) : String :=
  distribution installRoot version ++ "/bin/flume-ng"

def configDirectory (installRoot version : String) : String :=
  distribution installRoot version ++ "/conf"

def configFile (installRoot version fileName : String) : String :=
  configDirectory installRoot version ++ "/" ++ fileName

/-- The argument that sends the log to its file, from level INFO up. -/
def loggerFlag : String :=
  "-Dflume.root.logger=INFO,LOGFILE"

end AgentLaunch.Layout
