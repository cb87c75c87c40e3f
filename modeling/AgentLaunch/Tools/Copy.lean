import AgentLaunch.Tools.Files

/-!
# Copies and moves

Tools that copy files and directories or give them other names. Where they would ask, nobody
answers, and nothing is replaced.
-/

namespace AgentLaunch.Tools.Copy

open Shell (State)
open FileTree (Node)

/-- How a source gets to its goal. -/
inductive Way where
  | copy
  | move
  | install
  deriving DecidableEq

/-- What is at a place that may be free. -/
def there (s : State) (place : List String) : Option Node :=
  s.system.files.get? place

/-- The place that a source gets to: the goal itself. -/
def goalPlace (s : State) (way : Way) (goal : String) : Except OsError (List String) :=
  match foundLink? s goal with
  | .ok (place, .directory) => .ok place
  | _ =>
    if way = .move then s.system.files.placeToMake s.directory (trimmed goal)
    else s.system.files.placeToWrite s.directory (trimmed goal)

/-- Puts a whole directory at a place. What is there already stays. -/
def copyTree (s : State) (place goal : List String) : State :=
  let inside := s.system.files.entries.filter fun e => place.isPrefixOf e.1
  let copied := inside.map fun e => (goal ++ e.1.drop place.length, e.2)
  s.withFiles ⟨s.system.files.entries ++ copied ++ [(goal, .directory)]⟩

def moveTree (s : State) (place goal : List String) : State :=
  let moved := s.system.files.entries.map fun (p, node) =>
    if place.isPrefixOf p then (goal ++ p.drop place.length, node) else (p, node)
  s.withFiles ⟨moved ++ [(place.dropLast, .directory), (goal, .directory)]⟩

/-- Copies a file to a place. A file that is there keeps its mode. -/
def copyFile (s : State) (way : Way) (goal : List String) (node : Node) : State :=
  match there s goal, node with
  | some (.device _), _ => s
  | _, .device _ => s.store goal []
  | some (.file _ x), .file bytes _ =>
    s.withFiles (s.system.files.replace goal (.file bytes (x || way = .install)))
  | _, .file bytes x =>
    s.withFiles (s.system.files.replace goal (.file bytes (x || way = .install)))
  | _, node => s.withFiles (s.system.files.replace goal node)

/-- Gives a file another place, in place of what is there. -/
def renamed (s : State) (place goal : List String) (node : Node) : State :=
  (s.relocate place (some goal)).withFiles ((s.system.files.remove place).replace goal node)

/-- Whether a directory may be copied with all that is in it. -/
def isDeep (r : Reading) : Bool :=
  r.hasAny ["r", "R", "a"]

/-- Whether what is at the goal stays as it is. -/
def keeps (way : Way) (r : Reading) : Bool :=
  match way with
  | .copy => r.hasAny ["i", "n", "u"]
  | .move => (r.last? ["f", "i", "n"]).any (· ≠ "f") || r.has "u"
  | .install => false

def one (way : Way) (r : Reading) (goal : String) (s : State) (source : String) :
    Except OsError State := do
  let linked := way = .move || (way = .copy && (r.hasAny ["P", "d", "a"] ||
    (isDeep r && !r.hasAny ["L", "H"])))
  let (place, node) ← if linked then foundLink? s source else found? s source
  let target ← goalPlace s way goal
  match node with
  | .directory =>
    if way = .install then throw .isDirectory
    else if way = .copy ∧ !isDeep r then throw .isDirectory
    else if place.isPrefixOf target then throw .invalid
    else match there s target with
      | some .directory =>
        if way = .copy then return copyTree s place target
        else if s.system.files.names target ≠ [] then throw .notEmpty
        else return moveTree s place target
      | some _ => throw .notDirectory
      | none => return if way = .copy then copyTree s place target else moveTree s place target
  | node =>
    match there s target with
    | some .directory => throw .isDirectory
    | some _ =>
      if goal.endsWith "/" then throw .notDirectory
      else if place = target then throw .invalid
      else if keeps way r then return s
      else if way = .move then return renamed s place target node
      else if r.hasAny ["l", "s"] ∧ !r.has "f" then throw .present
      else return copyFile s way target node
    | none =>
      if goal.endsWith "/" ∧ way ≠ .install then throw .notDirectory
      else if way = .move then return renamed s place target node
      else if r.has "s" ∧ way = .copy then
        return s.withFiles (s.system.files.replace target (.link source))
      else return copyFile s way target node

/-- Makes the directories that are missing above a path. -/
def withParents (s : State) (path : String) : State :=
  match Mkdir.deep s (parentOf path) with
  | .ok s => s
  | .error _ => s

/-- Brings sources into a directory. One that would replace an earlier one is left out. -/
def into (way : Way) (r : Reading) (directory : String) (s : State) (sources : List String) :
    State :=
  let goal (source : String) : String :=
    if r.has "parents" then directory ++ "/" ++ trimmed source
    else if baseName source = ".." ∨ baseName source = "." then directory
    else directory ++ "/" ++ baseName source
  let goals := sources.map goal
  (sources.zip goals).zipIdx.foldl (fun s ((source, goal), k) =>
    if (goals.take k).contains goal then
      failed (if way = .copy ∧ sources.idxOf source < k then 0 else 1) s
    else
      let s := if r.has "parents" then withParents s goal else s
      each 1 (one way r goal) s [source]) s

/-- Brings all operands but the last to it, or all to a directory that is named. -/
def run (way : Way) (s : State) (r : Reading) : State :=
  let makes := way = .install && r.has "D"
  if r.has "t" ∧ r.has "T" then s.withStatus 1
  else match r.value? "t", r.operands with
    | _, [] => s.withStatus 1
    | some directory, sources =>
      let s := if makes then withParents s (directory ++ "/x") else s
      if isDirectory s directory then into way r directory s sources else s.withStatus 1
    | none, [_] => s.withStatus 1
    | none, operands =>
      let goal := operands.getLastD ""
      let sources := operands.dropLast
      if !r.has "T" ∧ isDirectory s goal then into way r goal s sources
      else if sources.length > 1 ∨ r.has "parents" then s.withStatus 1
      else each 1 (one way r goal) (if makes then withParents s goal else s) sources

/-- The ways to keep what is replaced. -/
def backups : List String :=
  ["none", "off", "simple", "never", "existing", "nil", "numbered", "t"]

/-- What can be kept of a file besides its contents. -/
def kept (t : String) : Bool :=
  (t.splitOn ",").all
    (isChoice ["mode", "timestamps", "ownership", "links", "context", "xattr", "all"])

def cp : Tool where
  letters := "abdfHilLnprst:uvxPRS:TZ"
  names := "archive=a attributes-only backup::=b copy-contents debug dereference=L force=f " ++
    "interactive=i link=l no-clobber=n no-dereference=P no-preserve: no-target-directory=T " ++
    "one-file-system=x parents path=parents preserve:: recursive=R remove-destination sparse: " ++
    "reflink:: strip-trailing-slashes suffix:=S symbolic-link=s target-directory:=t update::=u " ++
    "verbose=v context::=Z help version"
  sound := ruled [("b", isChoice backups), ("preserve", kept), ("no-preserve", kept),
    ("sparse", isChoice ["never", "auto", "always"]),
    ("reflink", isChoice ["auto", "always", "never"]),
    ("u", isChoice ["all", "none", "older"])]
  run s r := if r.has "l" ∧ r.has "s" then s.withStatus 1 else run .copy s r

def mv : Tool where
  letters := "bfint:uvS:TZ"
  names := "backup::=b context=Z debug force=f interactive=i no-clobber=n no-copy " ++
    "no-target-directory=T strip-trailing-slashes suffix:=S target-directory:=t update::=u " ++
    "verbose=v help version"
  sound := ruled [("b", isChoice backups), ("u", isChoice ["all", "none", "older"])]
  run s r :=
    if r.has "b" ∧ r.last? ["f", "i", "n"] = some "n" then s.withStatus 1 else run .move s r

def install (isUser isGroup : String → Bool) : Tool where
  letters := "bcCsDdg:m:o:pt:TvS:Z"
  names := "backup::=b compare=C context::=Z debug directory=d group:=g mode:=m " ++
    "no-target-directory=T owner:=o preserve-timestamps=p preserve-context strip=s " ++
    "strip-program: suffix:=S target-directory:=t verbose=v help version"
  sound := ruled [("b", isChoice backups)]
  run s r :=
    if (r.value? "m").any fun m => (Mode.read? m).isNone then s.withStatus 1
    else if r.has "d" ∧ r.hasAny ["s", "t"] then s.withStatus 1
    else if (r.value? "o").any (!isUser ·) ∨ (r.value? "g").any (!isGroup ·) then s.withStatus 1
    else if r.has "d" then counted 1 none 1 (fun s r => each 1 Mkdir.deep s r.operands) s r
    else if r.has "s" then failed 1 (run .install s r)
    else run .install s r

end AgentLaunch.Tools.Copy
