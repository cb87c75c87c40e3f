import AgentLaunch.Arguments.Parse
import AgentLaunch.Launch
import AgentLaunch.LogFilter
import AgentLaunch.LogFormat
import AgentLaunch.Settings.Load
import AgentLaunch.Style

/-!
# The program

What one run of the program does: it reads its command line, finds the spec, and prints or launches
the agent's command. What it writes to the error stream are reports for its user and those events
that pass the log filter.
-/

namespace AgentLaunch.Program

open Arguments (Invocation Stop)

/-- Why there is no spec to print or launch. -/
inductive Failure where
  | load (error : Settings.LoadError)
  | spec (problem : Settings.Problem)
  deriving DecidableEq, Repr

/-- What failed, and what caused it. -/
def Failure.chain : Failure → String × Option String
  | .load e => (e.context, some e.cause)
  | .spec p@(.configuration _) => (p.message, none)
  | .spec p@(.domain invalid) => (p.message, some invalid.message)

def indent (s : String) : String :=
  String.ofList ("    ".toList ++ s.toList.flatMap fun c =>
    if c = '\n' then "\n    ".toList else [c])

def Failure.report (f : Failure) : String :=
  match f.chain with
  | (top, none) => "Error: " ++ top
  | (top, some cause) => "Error: " ++ top ++ "\n\nCaused by:\n" ++ indent cause

/-- How the run is broken off, if it is. -/
def Failure.breakage? : Failure → Option Breakage
  | .load e => e.breakage?
  | .spec _ => none

/-- The spec that a command line, the environment and a settings file give together. -/
def resolve (fs : FileSystem) (env : Environment) (i : Invocation)
    (r : Settings.Reading := .steady) : Logged (Except Failure Spec) := do
  match ← Settings.load fs env i.config r with
  | .error e => return .error (.load e)
  | .ok below =>
    return ((below.overlay i.settings).toSpec env.home?).mapError .spec

/-- Something that is written to the error stream. -/
inductive Diagnostic where
  /-- Lines for the user. -/
  | report (text : String)
  /-- An entry of the log. -/
  | event (e : Event)
  deriving DecidableEq, Repr

/-- What is written to the error stream. -/
def Diagnostic.text (format : LogFormat) : Diagnostic → String
  | .report text => text
  | .event e => format.entry e

/-- What can be seen of a run. -/
structure Outcome where
  exitCode : Nat
  stdout : String
  stderr : List Diagnostic
  deriving DecidableEq, Repr

/-- The events that pass the filter, as entries of the log. -/
def logged (filter : LogFilter) (events : List Event) : List Diagnostic :=
  (events.filter filter.passes).map .event

def failed (report : String) : Outcome :=
  ⟨1, "", [.report report]⟩

/-- A run that is broken off. What is told about the place where it broke off is not part of the
outcome. -/
def brokenOff (how : Breakage) : Outcome :=
  ⟨how.exitCode, "", []⟩

/-- A run that finds no spec. -/
def Failure.outcome (f : Failure) : Outcome :=
  match f.breakage? with
  | some how => brokenOff how
  | none => failed f.report

/-- What is written when an agent was launched. -/
def confirmation (colour : Bool) (spec : Spec) (receipt : Receipt) : String :=
  let row (name value : String) : String :=
    "  " ++ Style.paint colour .bold name ++ " " ++ value ++ "\n"
  Style.paint colour .boldGreen ("✓ Agent '" ++ spec.agentName ++ "' launched") ++ "\n" ++
    (match receipt.pid with
      | some pid => row "PID:" (toString pid.toNat)
      | none => "") ++
    row "User:" spec.runAsUser ++ row "Command:" receipt.command.display

/-- What is written when an agent was not launched. -/
def refusal (colour : Bool) (failure : LaunchFailure) : String :=
  Style.paint colour .red "✗" ++ " " ++ Style.paint colour .red failure.message

def print (spec : Spec) (json : Bool) : Outcome :=
  ⟨0, (Command.forAgent spec).render json ++ "\n", []⟩

def start (p : Platform σ) (now : Int) (colour : Bool) (spec : Spec) (s : σ) :
    Logged (Outcome × σ) := do
  match ← launch p now spec s with
  | (.ok receipt, s) =>
    Logged.report (.accepted receipt.issuedAt)
    return (⟨0, confirmation colour spec receipt, []⟩, s)
  | (.error failure, s) => return (failed (refusal colour failure), s)

/-- Carries out a command line that is understood. -/
def perform (p : Platform σ) (now : Int) (fs : FileSystem) (env : Environment) (i : Invocation)
    (s : σ) (r : Settings.Reading := .steady) : Logged (Outcome × σ) := do
  match ← resolve fs env i r with
  | .error f => return (f.outcome, s)
  | .ok spec =>
    match i.verb with
    | .print => return (print spec i.json, s)
    | .start => start p now (Style.isForced env) spec s

/-- The help on a topic, which shows what the environment presets. -/
def helpText (env : Environment) (topic : Arguments.Topic) : String :=
  Arguments.Help.text (env.get? Arguments.configVariable) topic

/-- What is written for a command line that is not carried out. -/
def stopped (env : Environment) : Stop → Outcome
  | .usage e => ⟨2, "", [.report (e.firstLine (Style.isForcedForUsage env))]⟩
  | .help topic => ⟨0, Style.shown (Style.isForcedForUsage env) (helpText env topic), []⟩
  | .version => ⟨0, Arguments.versionText, []⟩

/-- The absolute paths of the files that a run reads if they are there. -/
def files (workingDirectory : String) (env : Environment) (words : List String) : List String :=
  match Arguments.parse env words with
  | .error _ => []
  | .ok i =>
    (Settings.selectFile env i.config).toList.flatMap fun file =>
      Settings.candidates workingDirectory file.path

/-- One run of the program. Entries of the log come before the report of a failure. Without a log
filter the run is broken off before anything is done. -/
def run (p : Platform σ) (now : Int) (fs : FileSystem) (env : Environment) (words : List String)
    (s : σ) (r : Settings.Reading := .steady) : Outcome × σ :=
  match Arguments.parse env words with
  | .error stop => (stopped env stop, s)
  | .ok i =>
    match LogFilter.ofEnvironment? env with
    | none => (brokenOff .panicked, s)
    | some filter =>
      let done := perform p now fs env i s r
      let (outcome, s) := done.value
      ({ outcome with stderr := logged filter done.events ++ outcome.stderr }, s)

end AgentLaunch.Program
