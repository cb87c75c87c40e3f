import AgentLaunch.Event
import AgentLaunch.Settings
import AgentLaunch.Settings.File

/-!
# Loading settings

The settings that a file and the environment give together. The environment is laid over the file.
Within a source no order is fixed: its entries are met in an order that is drawn anew in every run.
-/

namespace AgentLaunch.Settings

/-- The form of a value that is no text. -/
inductive Form where
  | sequence
  | map
  deriving DecidableEq, Repr

def Form.name : Form → String
  | .sequence => "sequence"
  | .map => "map"

inductive LoadError where
  | file (error : SourceError)
  /-- A parameter has a value that is no text, from this origin if it is known. -/
  | wrongType (field : Field) (form : Form) (origin : Option String)
  deriving DecidableEq, Repr

namespace LoadError

/-- What was being done. -/
def context : LoadError → String
  | .file _ => "Failed to load launcher configuration"
  | .wrongType .. => "Invalid launcher configuration"

/-- What went wrong; of a broken document only its kind is told. -/
def cause : LoadError → String
  | .file (.notFound path) => "configuration file \"" ++ path ++ "\" not found"
  | .file (.unregistered path) =>
    "configuration file \"" ++ path ++ "\" is not of a registered file format"
  | .file .notText => "stream did not contain valid UTF-8"
  | .file (.unreadable e) => e.message
  | .file (.notToml _) => "TOML parse error"
  | .file (.brokenOff _) => ""
  | .wrongType field form origin =>
    "invalid type: " ++ form.name ++ ", expected a string for key \x60" ++ field.key ++ "\x60" ++
      (match origin with
        | some o => " in " ++ o
        | none => "")

/-- How the run is broken off, if it is. -/
def breakage? : LoadError → Option Breakage
  | .file (.brokenOff how) => some how
  | _ => none

end LoadError

/-- What the names of variables begin with that are settings. -/
def variablePrefix : String := "flume_launcher_"

/-- The entry that a variable is, if it is one. -/
def entryOfVariable? (name value : String) : Option (String × Tree) :=
  let name := (KeyPath.lower name).toList
  if variablePrefix.toList.isPrefixOf name then
    some (String.ofList (name.drop variablePrefix.length), .text value)
  else none

def variableEntries (bindings : List (String × String)) : List (String × Tree) :=
  bindings.filterMap fun (name, value) => entryOfVariable? name value

/-- The setting that a tree holds for a parameter. -/
def readField (root : List (String × Tree)) (f : Field) : Except LoadError (Option String) :=
  match Tree.get? f.key root with
  | none => .ok none
  | some .unset => .ok none
  | some (.text s) => .ok (some s)
  | some (.list origin _) => .error (.wrongType f .sequence origin)
  | some (.table _) => .error (.wrongType f .map none)

def ofTree (root : List (String × Tree)) : Except LoadError Settings := do
  let installRoot ← readField root .installRoot
  let version ← readField root .version
  let configFileName ← readField root .configFileName
  let agentName ← readField root .agentName
  let runAsUser ← readField root .runAsUser
  return ⟨installRoot, version, configFileName, agentName, runAsUser⟩

/-- The entries of a file, if there is one. -/
def fileEntries (fs : FileSystem) : Option File → Except LoadError (List (String × Tree))
  | none => .ok []
  | some file => (file.entries fs).mapError .file

/-- What a run meets that its input does not decide. -/
structure Reading where
  /-- The rank of a key among those of its table in the file, to which some names lead. -/
  fileRank : List String → String → Nat
  /-- The rank of a key among those of the variables. -/
  variableRank : String → Nat
  /-- How many items the memory has room for in a list. -/
  room : Nat
  room_le : room ≤ Tree.maxItems
  /-- Whether all variables are text, those too that nothing asks for by name. -/
  legible : Bool

/-- Entries are met as they are given, and lists can be long. -/
def Reading.steady : Reading :=
  ⟨fun _ _ => 0, fun _ => 0, 67108864, by decide, true⟩

/-- The tree of the entries of a file and those of variables. Of variables whose names are the same
in small letters the last counts. One that is no text breaks the run off. -/
def merged (file environment : List (String × Tree)) (r : Reading) :
    Except Breakage (List (String × Tree)) := do
  let below ← Tree.addSource r.room [] (Tree.arrangedAll r.fileRank [] file)
  if r.legible then
    Tree.addSource r.room below
      (Tree.arrangedAll (fun _ => r.variableRank) [] (Tree.lastOfEach environment))
  else .error .panicked

/-- The settings that the entries of a file and those of variables give. -/
def ofSources (file environment : List (String × Tree)) (r : Reading) :
    Except LoadError Settings := do
  let root ← (merged file environment r).mapError fun how => .file (.brokenOff how)
  ofTree root

/-- The settings of a file and of environment variables. -/
def build (fs : FileSystem) (file : Option File) (bindings : List (String × String))
    (r : Reading := .steady) : Except LoadError Settings := do
  let entries ← fileEntries fs file
  ofSources entries (variableEntries bindings) r

/-- The settings file of the user. -/
def defaultPath? (env : Environment) : Option String :=
  env.configDirectory?.map fun directory =>
    Path.join (Path.join directory "flume-launcher") "launcher.toml"

/-- The file to be read: the one that was asked for, or else the user's, which may be missing. -/
def selectFile (env : Environment) (explicit : Option String) : Option File :=
  match explicit with
  | some path => some ⟨path, true⟩
  | none => (defaultPath? env).map fun path => ⟨path, false⟩

/-- What is reported before a file is read. -/
def fileEvents (file : Option File) : List Event :=
  file.toList.map fun f => .configFile f.path f.required

/-- Builds settings and reports which file is read. -/
def buildLogged (fs : FileSystem) (file : Option File) (bindings : List (String × String))
    (r : Reading := .steady) : Logged (Except LoadError Settings) :=
  ⟨build fs file bindings r, fileEvents file⟩

/-- The settings below the command line. -/
def load (fs : FileSystem) (env : Environment) (explicit : Option String)
    (r : Reading := .steady) : Logged (Except LoadError Settings) :=
  buildLogged fs (selectFile env explicit) env.bindings r

end AgentLaunch.Settings
