import AgentLaunch.Environment
import AgentLaunch.Settings.Tree
import AgentLaunch.Toml.Document

/-!
# Settings files

Where the settings file is looked for, and what it says. A path names the file itself or, if there
is none, the file with the ending `.toml` appended.
-/

namespace AgentLaunch.Settings

/-- A settings file to be read. One that is not required may be missing or unreadable. -/
structure File where
  path : String
  required : Bool
  deriving DecidableEq, Repr

/-- Why a source gives no entries, or they are not merged. -/
inductive SourceError where
  | notFound (path : String)
  /-- The file that is there has another ending. -/
  | unregistered (path : String)
  | unreadable (error : OsError)
  /-- The file is not encoded in UTF-8. -/
  | notText
  /-- The file breaks the rules of TOML. Its path is seen from the working directory. -/
  | notToml (path : String)
  /-- Merging the entries breaks the run off, so that nobody is told. -/
  | brokenOff (how : Breakage)
  deriving DecidableEq, Repr

def ending : String := ".toml"

/-- Whether a file name consists of a stem and the ending. -/
def hasEnding (name : String) : Bool :=
  ending.toList.isSuffixOf name.toList && name ≠ ending

/-- The absolute paths under which a file is looked for, in order. -/
def candidates (workingDirectory path : String) : List String :=
  let exact := Path.join workingDirectory path
  exact :: (Path.appendEnding? ending exact).toList

/-- The absolute path of the file that a path means. -/
def locate (fs : FileSystem) (path : String) : Except SourceError String :=
  let exact := fs.absolute path
  if fs.isFile exact then
    if ((Path.fileName? exact).map hasEnding).getD false then .ok exact
    else .error (.unregistered exact)
  else
    match Path.appendEnding? ending exact with
    | some longer => if fs.isFile longer then .ok longer else .error (.notFound path)
    | none => .error (.notFound path)

/-- Finds a file and reads it as text. -/
def findText (fs : FileSystem) (path : String) : Except SourceError (String × String) := do
  let found ← locate fs path
  match fs.read found with
  | .missing => throw (.notFound path)
  | .unreadable e => throw (.unreadable e)
  | .contents bytes =>
    match String.fromUTF8? bytes with
    | some text => return (found, text)
    | none => throw .notText

end Settings

namespace Tree

mutual

/-- The value of a document as a part of the tree. Scalars become their texts. -/
def ofToml (origin : String) : Toml.Value → Tree
  | .array items => .list (some origin) (ofItems origin items)
  | .table entries => .table (ofEntries origin entries)
  | .scalar s => .text s.text

def ofItems (origin : String) : List Toml.Value → List Tree
  | [] => []
  | v :: rest => ofToml origin v :: ofItems origin rest

def ofEntries (origin : String) : List (String × Toml.Value) → List (String × Tree)
  | [] => []
  | (key, v) :: rest => (key, ofToml origin v) :: ofEntries origin rest

end

end Tree

namespace Settings

/-- The entries of a text that was found at an absolute path. -/
def parse (fs : FileSystem) (found text : String) : Except SourceError (List (String × Tree)) :=
  let origin := Path.relativeTo fs.workingDirectory found
  match Toml.Document.read? text with
  | some entries => .ok (Tree.ofEntries origin entries)
  | none => .error (.notToml origin)

/-- The entries of a file. What is not required has none if it cannot be found or read, but it has
to be TOML if it can. -/
def File.entries (fs : FileSystem) (file : File) : Except SourceError (List (String × Tree)) :=
  match findText fs file.path with
  | .ok (found, text) => parse fs found text
  | .error e => if file.required then .error e else .ok []

end AgentLaunch.Settings
