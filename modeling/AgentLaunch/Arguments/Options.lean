import AgentLaunch.Settings

/-!
# Options of the command line

The command words, the options that may follow them, and where each option is known.
-/

namespace AgentLaunch.Arguments

/-- What the program is asked to do. -/
inductive Verb where
  /-- Launch the agent. -/
  | start
  | print
  deriving DecidableEq, Repr

namespace Verb

def all : List Verb := [.start, .print]

def word : Verb → String
  | .start => "start"
  | .print => "print"

end Verb

/-- A part of the command line: before the command word, or after it. -/
inductive Scope where
  | top
  | after (verb : Verb)
  deriving DecidableEq, Repr

inductive ValueOption where
  /-- The settings file. -/
  | config
  | field (f : Field)
  deriving DecidableEq, Repr

/-- An option without a value. -/
inductive Switch where
  | json
  | help
  | version
  deriving DecidableEq, Repr

namespace ValueOption

def flag : ValueOption → String
  | .config => "--config"
  | .field f => f.option

def valueName : ValueOption → String
  | .config => "CONFIG"
  | .field .installRoot => "INSTALL_ROOT"
  | .field .version => "AGENT_VERSION"
  | .field .configFileName => "CONF_FILE"
  | .field .agentName => "AGENT_NAME"
  | .field .runAsUser => "RUN_AS_USER"

/-- The option with its value, as shown in texts. -/
def shown (o : ValueOption) : String :=
  o.flag ++ " <" ++ o.valueName ++ ">"

/-- Options that take a value in a scope. -/
def known : Scope → List ValueOption
  | .top => [.config]
  | .after _ => .config :: Field.all.map .field

end ValueOption

namespace Switch

def flag : Switch → String
  | .json => "--json"
  | .help => "--help"
  | .version => "--version"

/-- The letter of a switch that has a short form. -/
def letter? : Switch → Option Char
  | .json => none
  | .help => some 'h'
  | .version => some 'V'

def known : Scope → List Switch
  | .top => [.help, .version]
  | .after .start => [.help]
  | .after .print => [.json, .help]

end Switch

/-- An option of either kind. -/
inductive Flag where
  | value (o : ValueOption)
  | switch (s : Switch)
  deriving DecidableEq, Repr

/-- The option of a scope that is written `--name`. -/
def Flag.ofLong? (scope : Scope) (flag : String) : Option Flag :=
  match (ValueOption.known scope).find? fun o => o.flag = flag with
  | some o => some (.value o)
  | none => ((Switch.known scope).find? fun s => s.flag = flag).map .switch

/-- The switch of a scope that has this letter. -/
def Switch.ofLetter? (scope : Scope) (c : Char) : Option Switch :=
  (Switch.known scope).find? fun s => s.letter? = some c

/-- The environment variable that names the settings file. -/
def configVariable : String := "FLUME_LAUNCHER_CONFIG"

end AgentLaunch.Arguments
