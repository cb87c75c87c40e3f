import AgentLaunch.Program
import AgentLaunch.Proofs.Arguments.Line
import AgentLaunch.Proofs.Settings.Completion
import AgentLaunch.Proofs.Settings.Source

/-!
# Layers of settings

For each parameter alone, the value that counts is the one on the command line, or else the one in
the environment, or else the one in the file, or else the default. The spec is made of these values
and of nothing else.
-/

namespace AgentLaunch.Program

open Arguments (Line given? configVariable)
open Settings (IsPlain textFor? variableText? variableEntries)

/-- The value of a parameter on the highest layer that sets it. -/
def layered (l : Line) (env : Environment) (entries : List (String × Tree)) (f : Field) :
    Option String :=
  (given? l.options (.field f)).or <| (variableText? env.bindings f).or <|
    (textFor? entries f).or (Settings.default? f)

theorem resolve_of_build {fs : FileSystem} {env : Environment} {i : Arguments.Invocation}
    {r : Settings.Reading} {below : Settings}
    (h : Settings.build fs (Settings.selectFile env i.config) env.bindings r = .ok below) :
    (resolve fs env i r).value = ((below.overlay i.settings).toSpec env.home?).mapError .spec := by
  rw [resolve, Logged.value_bind, Settings.load, Settings.buildLogged, h]
  rfl

theorem reads_agent {fs : FileSystem} {text : String} (hdirectory : fs.workingDirectory = "/work")
    (hread : fs.read "/work/agent.toml" = .contents text.toUTF8) :
    Settings.Reads fs "agent.toml" "/work/agent.toml" text := by
  have habsolute : fs.absolute "agent.toml" = "/work/agent.toml" := by
    rw [FileSystem.absolute, hdirectory]
    decide +kernel
  have hending : (Path.fileName? "/work/agent.toml").map Settings.hasEnding = some true := by
    decide +kernel
  have hexact : Settings.Reads fs "agent.toml" (fs.absolute "agent.toml") text :=
    .exact (by rw [habsolute, hread]) (by rw [habsolute, hending])
  rwa [habsolute] at hexact

/-- A machine with one settings file. -/
def sampleFiles : FileSystem where
  workingDirectory := "/work"
  read path :=
    if path = "/work/agent.toml" then .contents "version = '1'\nagent_name = \"a\"\n".toUTF8
    else .missing

/-- What the settings file says. -/
def sampleEntries : List (String × Tree) :=
  [(Field.version, "1"), (Field.agentName, "a")].map fun v => (v.1.key, .text v.2)

theorem sampleFiles_entries :
    Settings.fileEntries sampleFiles (some ⟨"agent.toml", true⟩) = .ok sampleEntries := by
  have htoml : Toml.Document.read? "version = '1'\nagent_name = \"a\"\n" =
      some [("version", .scalar (.string "1")), ("agent_name", .scalar (.string "a"))] := by
    cbv
  rw [Settings.fileEntries_of_reads (reads_agent rfl rfl) htoml]
  rfl

def sampleEnvironment : Environment where
  bindings := [("HOME", "/home/u"), ("FLUME_launcher_Version", "2")]
  accountHome := none

theorem sampleEnvironment_entries : variableEntries sampleEnvironment.bindings =
    [(Field.version, "2")].map fun v => (v.1.key, .text v.2) := by
  rfl

def sampleLine : Line where
  front := [.spaced .config "agent.toml"]
  verb := .print
  options := [.attached (.field .installRoot) "~/x", .json]

/-- A reading in which shorter keys come first. -/
def shortestFirst : Settings.Reading :=
  { Settings.Reading.steady with fileRank := fun _ => String.length, variableRank := String.length }

/-- A reading in which longer names of variables come first. -/
def longestFirst : Settings.Reading :=
  { Settings.Reading.steady with variableRank := fun key => 100 - key.length }

end AgentLaunch.Program
