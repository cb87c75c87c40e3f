import AgentLaunch.Text.Blank

/-!
# Launch specs

The parameters that describe one agent launch. A spec is valid when none of its fields is blank;
whether paths exist or versions are well formed is not looked at.
-/

namespace AgentLaunch

/-- The parameters of a launch, in the order in which they are checked and reported. -/
inductive Field where
  | installRoot
  | version
  | configFileName
  | agentName
  | runAsUser
  deriving DecidableEq, Repr

namespace Field

def all : List Field :=
  [.installRoot, .version, .configFileName, .agentName, .runAsUser]

/-- The name of a parameter in configuration files, in the environment and in messages. -/
def key : Field → String
  | .installRoot => "install_root"
  | .version => "version"
  | .configFileName => "config_file_name"
  | .agentName => "agent_name"
  | .runAsUser => "run_as_user"

theorem mem_all (f : Field) : f ∈ all := by
  cases f <;> simp [all]

theorem key_injective {f g : Field} (h : f.key = g.key) : f = g := by
  cases f <;> cases g <;> first | rfl | exact absurd h (by decide)

end Field

/-- How to start one agent. The texts enter the agent's command line as they are. -/
structure Spec where
  installRoot : String
  version : String
  configFileName : String
  agentName : String
  runAsUser : String
  deriving DecidableEq, Repr

namespace Spec

/-- The account an agent runs under unless told otherwise. -/
def defaultUser : String := "root"

def get (s : Spec) : Field → String
  | .installRoot => s.installRoot
  | .version => s.version
  | .configFileName => s.configFileName
  | .agentName => s.agentName
  | .runAsUser => s.runAsUser

/-- The spec whose fields are given by a function. -/
def ofFields (value : Field → String) : Spec where
  installRoot := value .installRoot
  version := value .version
  configFileName := value .configFileName
  agentName := value .agentName
  runAsUser := value .runAsUser

@[simp] theorem get_ofFields (value : Field → String) (f : Field) :
    (ofFields value).get f = value f := by
  cases f <;> rfl

@[simp] theorem ofFields_get (s : Spec) : ofFields s.get = s := rfl

/-- What is wrong with a spec: a field of this name holds nothing but white space. -/
structure Invalid where
  field : String
  deriving DecidableEq, Repr

def Invalid.message (e : Invalid) : String :=
  "Field '" ++ e.field ++ "' must not be empty"

/-- The first field that is blank, if there is one. -/
def firstBlank? (s : Spec) : Option Field :=
  Field.all.find? fun f => Text.isBlank (s.get f)

/-- A spec without blank fields is returned as it is. -/
def validate (s : Spec) : Except Invalid Spec :=
  match s.firstBlank? with
  | none => .ok s
  | some f => .error ⟨f.key⟩

end Spec

end AgentLaunch
