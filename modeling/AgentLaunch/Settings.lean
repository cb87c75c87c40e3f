import AgentLaunch.Spec

/-!
# Settings

Partly known launch parameters. They are found in layers; of two layers the upper one decides
every field that it sets, also when it sets it to nothing. From the merged layers a spec is made.
-/

namespace AgentLaunch

def Field.option : Field → String
  | .installRoot => "--install-root"
  | .version => "--version"
  | .configFileName => "--conf-file"
  | .agentName => "--agent-name"
  | .runAsUser => "--run-as-user"

def Field.variable (f : Field) : String :=
  "FLUME_LAUNCHER_" ++ f.key.toUpper

/-- The launch parameters that one layer sets. -/
structure Settings where
  installRoot : Option String
  version : Option String
  configFileName : Option String
  agentName : Option String
  runAsUser : Option String
  deriving DecidableEq, Repr

namespace Settings

def get (s : Settings) : Field → Option String
  | .installRoot => s.installRoot
  | .version => s.version
  | .configFileName => s.configFileName
  | .agentName => s.agentName
  | .runAsUser => s.runAsUser

/-- The settings whose fields are given by a function. -/
def ofFields (value : Field → Option String) : Settings where
  installRoot := value .installRoot
  version := value .version
  configFileName := value .configFileName
  agentName := value .agentName
  runAsUser := value .runAsUser

@[simp] theorem get_ofFields (value : Field → Option String) (f : Field) :
    (ofFields value).get f = value f := by
  cases f <;> rfl

@[simp] theorem ofFields_get (s : Settings) : ofFields s.get = s := rfl

/-- The settings of a layer that sets nothing. -/
def empty : Settings :=
  ofFields fun _ => none

/-- The settings of a layer with another one laid over it. -/
def overlay (s top : Settings) : Settings :=
  ofFields fun f => (top.get f).or (s.get f)

theorem get_overlay (s top : Settings) (f : Field) :
    (s.overlay top).get f = (top.get f).or (s.get f) := by
  simp [overlay]

/-- Why no spec can be made from settings. -/
inductive Problem where
  /-- Something that has to be set is not. -/
  | configuration (reason : String)
  | domain (invalid : Spec.Invalid)
  deriving DecidableEq, Repr

def Problem.message : Problem → String
  | .configuration reason => "Configuration error: " ++ reason
  | .domain invalid => "Domain error: " ++ invalid.message

/-- The problem of a parameter that has no default and is not set. -/
def Problem.missing (f : Field) : Problem :=
  .configuration
    (f.key ++ " is not set (use " ++ f.option ++ ", " ++ f.variable ++ " or the config file)")

/-- What a parameter is when no layer sets it. -/
def default? : Field → Option String
  | .installRoot => none
  | .version => none
  | .configFileName => some "cygnus.conf"
  | .agentName => some "orionagent"
  | .runAsUser => some Spec.defaultUser

/-- The value of a parameter: as set, or its default. -/
def value (s : Settings) (f : Field) : Except Problem String :=
  match (s.get f).or (default? f) with
  | some v => .ok v
  | none => .error (.missing f)

/-- A tilde in front that is not followed by a name stands for the home directory. -/
def expandTilde (home : Option String) (path : String) : String :=
  match home, path.toList with
  | some h, ['~'] => h
  | some h, '~' :: '/' :: rest => h ++ String.ofList ('/' :: rest)
  | _, _ => path

def toSpec (home : Option String) (s : Settings) : Except Problem Spec := do
  let installRoot ← s.value .installRoot
  let version ← s.value .version
  let configFileName ← s.value .configFileName
  let agentName ← s.value .agentName
  let runAsUser ← s.value .runAsUser
  let spec : Spec :=
    ⟨expandTilde home installRoot, version, configFileName, agentName, runAsUser⟩
  match spec.validate with
  | .ok spec => return spec
  | .error invalid => throw (.domain invalid)

end Settings

end AgentLaunch
