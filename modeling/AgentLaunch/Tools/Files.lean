import AgentLaunch.Tools.Input
import AgentLaunch.Tools.Mode

/-!
# Tools for files

Tools that make, change, move and remove files and directories.
-/

namespace AgentLaunch.Tools

open Shell (State)
open FileTree (Node)

/-- The place of a path and what is there. -/
def found? (s : State) (path : String) : Except OsError (List String × Node) :=
  s.system.files.lookup s.directory path

/-- The place of a path and what is there, which can be a link. -/
def foundLink? (s : State) (path : String) : Except OsError (List String × Node) :=
  s.system.files.lookupLink s.directory path

def trimmed (path : String) : String :=
  let front := (path.toList.reverse.dropWhile (· = '/')).reverse
  String.ofList (if front = [] ∧ path ≠ "" then ['/'] else front)

def baseName (path : String) : String :=
  let t := (trimmed path).toList
  if t = ['/'] then "/" else String.ofList ((t.reverse.takeWhile (· ≠ '/')).reverse)

/-- What stands in front of the name at the end of a path. -/
def parentOf (path : String) : String :=
  let behind := (trimmed path).toList.reverse.dropWhile (· ≠ '/')
  if behind = [] then "." else trimmed (String.ofList behind.reverse)

/-- Goes on with each of some operands; what fails is a failure of the whole. -/
def each (code : Nat) (body : State → String → Except OsError State) (s : State)
    (paths : List String) : State :=
  paths.foldl (fun s path => match body s path with
    | .ok s => s
    | .error _ => failed code s) s

/-- Takes away all that is below a place, and what is there. -/
def cleared (s : State) (place : List String) : State :=
  let kept := s.system.files.entries.filter fun e => !place.isPrefixOf e.1
  let gone := s.system.opened.map fun p => if p.any place.isPrefixOf then none else p
  let files : FileTree := ⟨kept ++ [(place.dropLast, .directory)]⟩
  { s with system := { s.system with files := files, opened := gone } }

def withDirectory (s : State) (place : List String) : State :=
  s.withFiles (s.system.files.add place .directory)

def directoryPlace (s : State) (path : String) : Except OsError (List String) :=
  s.system.files.placeToMake s.directory (trimmed path)

namespace Mkdir

def one (s : State) (path : String) : Except OsError State := do
  match s.system.files.lookupLink s.directory path with
  | .ok _ => throw .present
  | .error .noEntry => return withDirectory s (← directoryPlace s path)
  | .error e => throw e

/-- Makes a directory and those above it that are missing. -/
def deep (s : State) (path : String) : Except OsError State :=
  let words := Path.words path.toList
  (List.range words.length).foldlM (fun s k =>
    let front := String.intercalate "/" (words.take (k + 1))
    if front = "" then .ok s
    else match found? s front with
      | .ok (_, .directory) => .ok s
      | .ok _ => .error .notDirectory
      | .error .noEntry => (directoryPlace s front).map (withDirectory s)
      | .error e => .error e) s

def tool : Tool where
  letters := "pm:vZ"
  names := "context::=Z mode:=m parents=p verbose=v help version"
  run := counted 1 none 1 fun s r =>
    if (r.value? "m").any fun m => (Mode.read? m).isNone then s.withStatus 1
    else each 1 (fun s path =>
      if path = "" then .error .noEntry else if r.has "p" then deep s path else one s path)
      s r.operands

end Mkdir

namespace Rmdir

def one (s : State) (path : String) : Except OsError State := do
  match ← foundLink? s path with
  | (place, .directory) =>
    if place = [] ∨ (Path.words path.toList).getLast? = some "." then throw .busy
    else if s.system.files.names place ≠ [] then throw .notEmpty
    else return s.withFiles (s.system.files.remove place)
  | _ => throw .notDirectory

/-- A path and those of the directories above it, as far as it names them. -/
def upward : Nat → String → List String
  | 0, _ => []
  | n + 1, path =>
    let above := parentOf path
    if above = "." ∨ above = "/" then [path] else path :: upward n above

def tool : Tool where
  letters := "pv"
  names := "ignore-fail-on-non-empty path=p parents=p verbose=v help version"
  run := counted 1 none 1 fun s r =>
    let lenient := r.has "ignore-fail-on-non-empty"
    let remove (s : State) (path : String) : Except OsError State :=
      match one s path with
      | .error .notEmpty => if lenient then .ok s else .error .notEmpty
      | result => result
    each 1 (fun s path =>
      if r.has "p" then (upward path.length path).foldlM remove s else remove s path) s r.operands

end Rmdir

namespace Rm

/-- Whether an error says that there is nothing to remove. -/
def isMissing (e : OsError) : Bool :=
  e = .noEntry || e = .notDirectory

/-- Which removals are asked about. Nobody answers, so none of them happens. -/
def asks (r : Reading) : Bool :=
  let kinds := r.given.filterMap fun g =>
    match g.key, g.value with
    | "f", _ => some false
    | "i", _ => some true
    | "interactive", none => some true
    | "interactive", some v =>
      some (["always", "yes"].any fun w => v ≠ "" ∧ w.startsWith v)
    | "I", _ => some false
    | _, _ => none
  kinds.getLast?.getD false

def one (r : Reading) (s : State) (path : String) : Except OsError State := do
  let last := (Path.words (trimmed path).toList).getLast?.getD ""
  if (last = "." ∨ last = "..") ∧ r.has "r" then throw .invalid
  match foundLink? s path with
  | .error e => if r.last? ["f", "i"] = some "f" ∧ isMissing e then return s else throw e
  | .ok (place, .directory) =>
    let empty := (s.system.files.names place).isEmpty
    if !r.has "r" ∧ !r.has "d" then throw .isDirectory
    else if place = [] then throw .invalid
    else if !r.has "r" ∧ !empty then throw .notEmpty
    else if asks r then return s
    else return cleared s place
  | .ok (place, _) =>
    if asks r then return s
    else return (s.relocate place none).withFiles (s.system.files.remove place)

def tool : Tool where
  letters := "dfirvIR"
  names := "force=f interactive:: one-file-system no-preserve-root preserve-root:: " ++
    "-presume-input-tty recursive=r dir=d verbose=v help version"
  sound := ruled [("interactive", isChoice ["never", "no", "none", "once", "always", "yes"]),
    ("preserve-root", (· = "all"))]
  run s r :=
    let r :=
      { r with given := r.given.map fun g => if g.key = "R" then { g with key := "r" } else g }
    let once := r.given.any fun g => g.key = "I" || (g.key = "interactive" && g.value.any fun v =>
      v ≠ "" && "once".startsWith v)
    let isOnce := once && r.last? ["f", "i", "I", "interactive"] ≠ some "f" &&
      r.last? ["f", "i", "I", "interactive"] ≠ some "i"
    let forces := r.last? ["f", "i", "I", "interactive"] = some "f" ||
      (r.has "f" && r.value? "interactive" = some "never")
    if r.operands = [] then s.withStatus (if forces then 0 else 1)
    else if isOnce ∧ (r.operands.length > 3 ∨ r.has "r") then s
    else each 1 (one r) s r.operands

end Rm

namespace Links

/-- Makes a name for a file that is there, or for a path. -/
def make (r : Reading) (s : State) (source goal : String) : Except OsError State := do
  let replaces := r.has "f"
  let node ← if r.has "s" then pure (Node.link source)
    else match ← (if r.has "L" then found? s source else foundLink? s source) with
      | (_, .directory) => throw .notPermitted
      | (_, node) => pure node
  let place ← s.system.files.placeToMake s.directory goal
  match s.system.files.get? place with
  | some .directory => throw .present
  | some _ =>
    let sameFile := match foundLink? s source with
      | .ok (p, _) => p = place && !r.has "b"
      | .error _ => false
    if sameFile then throw .present
    else if r.has "b" then
      let kept := place.dropLast ++ [place.getLastD "" ++ "~"]
      let files := match s.system.files.get? place with
        | some old => s.system.files.replace kept old
        | none => s.system.files
      return s.withFiles (files.replace place node)
    else if replaces then return s.withFiles (s.system.files.replace place node)
    else throw .present
  | none => return s.withFiles (s.system.files.replace place node)

/-- Makes links to all operands but the last in the directory that it is, or to the one operand at
the path that it is. -/
def run (s : State) (r : Reading) : State :=
  let into (directory : String) (sources : List String) : State :=
    each 1 (fun s source => make r s source (directory ++ "/" ++ baseName source)) s sources
  let direct := r.hasAny ["n", "T"]
  let leads (path : String) : Bool :=
    if direct then match foundLink? s path with
      | .ok (_, .directory) => !r.has "T"
      | _ => false
    else isDirectory s path
  if r.has "r" ∧ !r.has "s" then s.withStatus 1
  else if r.has "t" ∧ r.has "T" then s.withStatus 1
  else match r.value? "t", r.operands with
    | _, [] => s.withStatus 1
    | some directory, sources =>
      if isDirectory s directory then into directory sources else s.withStatus 1
    | none, [source] => if r.has "T" then s.withStatus 1 else into "." [source]
    | none, [source, goal] =>
      if leads goal then into goal [source]
      else each 1 (fun s source => make r s source goal) s [source]
    | none, operands =>
      let goal := operands.getLastD ""
      if r.has "T" ∨ !isDirectory s goal then s.withStatus 1 else into goal operands.dropLast

def tool : Tool where
  letters := "bdfinrst:vFLPS:T"
  names := "backup::=b directory=F no-dereference=n no-target-directory=T force=f interactive=i " ++
    "suffix:=S target-directory:=t logical=L physical=P relative=r symbolic=s " ++
    "verbose=v help version"
  run := run

def link : Tool where
  run := counted 2 (some 2) 1 fun s r =>
    match r.operands with
    | [a, b] => each 1 (fun s _ => make ⟨[], [], false⟩ s a b) s [a]
    | _ => s.withStatus 1

def unlink : Tool where
  run := counted 1 (some 1) 1 fun s r =>
    each 1 (fun s path => do
      match ← foundLink? s path with
      | (_, .directory) => throw .isDirectory
      | (place, _) => return (s.relocate place none).withFiles (s.system.files.remove place))
      s r.operands

def isReadlinkSilent (r : Reading) : Bool :=
  r.hasAny ["q", "s"]

/-- Whether the names of a path can be there one below the other, as far as they are there. -/
def isWay (s : State) (path : String) : Bool :=
  let ws := Path.words path.toList
  (List.range ws.length).all fun k =>
    let front := String.intercalate "/" (ws.take k)
    let next := (ws[k]?).getD ""
    front = "" || isDirectory s front ||
      (next ≠ ".." && next ≠ "." && (foundLink? s front).toOption.isNone)

/-- The path of a place that need not be there. -/
def resolved (r : Reading) (s : State) (path : String) : Option String :=
  let isFile : Bool := match found? s (trimmed path) with
    | .ok (_, .directory) | .error _ => false
    | .ok _ => true
  if path = "" ∨ (isFile ∧ path.endsWith "/" ∧ !r.has "m") then none
  else match found? s path with
    | .ok (place, _) => some (State.pathOf place)
    | .error _ =>
      if r.has "m" then some (State.pathOf (Path.components (Path.join s.directory path)))
      else if r.has "e" then none
      else if r.has "s" ∧ !r.has "f" ∧ isWay s path then
        some (State.pathOf (Path.components (Path.join s.directory path)))
      else match s.system.files.placeToWrite s.directory (trimmed path) with
        | .ok place => some (State.pathOf place)
        | .error _ => none

def target? (s : State) (path : String) : Option String :=
  match s.link? path with
  | some t => some t
  | none =>
    match foundLink? s path with
    | .error _ => if path = "/proc/self/exe" then some s.name else none
    | .ok (_, .link target) => some target
    | _ => none

def readlink : Tool where
  letters := "efmnqsvz"
  names := "canonicalize=f canonicalize-existing=e canonicalize-missing=m no-newline=n quiet=q " ++
    "silent=s verbose=v zero=z help version"
  run := counted 1 none 1 fun s r =>
    r.operands.foldl (fun s path =>
      let isOfProcess := (s.link? path).isSome || path = "/proc/self/exe"
      let found := if r.hasAny ["f", "e", "m"] ∧ !isOfProcess then resolved r s path
        else target? s path
      match found with
      | some t => s.say (if r.has "n" ∧ r.operands.length = 1 then t
          else t ++ String.singleton (lineMark r "z"))
      | none => failed 1 s) s

def realpath : Tool where
  letters := "eLmPqsz"
  names := "canonicalize-existing=e canonicalize-missing=m relative-to: relative-base: quiet=q " ++
    "strip=s no-symlinks=s zero=z logical=L physical=P help version"
  run := counted 1 none 1 fun s r =>
    let base? := (r.value? "relative-to").map (resolved r s)
    if base? = some none then s.withStatus 1
    else r.operands.foldl (fun s path =>
      match resolved r s path with
      | some t =>
        let shown := match base? with
          | some (some base) =>
            let way := Path.relativeTo base t
            if way = "" then "." else way
          | _ => t
        s.say (shown ++ String.singleton (lineMark r "z"))
      | none => failed 1 s) s

end Links

namespace Touch

/-- Whether a text is a time: two, four, six or no digits of a year, then month, day, hour and
minute, and seconds behind a point. -/
def isStamp (t : String) : Bool :=
  let front := t.toList.takeWhile (· ≠ '.')
  let seconds := t.toList.drop (front.length + 1)
  let pair (k : Nat) : Nat := ofDigits 10 ((front.drop (front.length - 8 + 2 * k)).take 2)
  [8, 10, 12].contains front.length && front.all isDigit &&
    (front.length = t.length || (seconds.length = 2 && seconds.all isDigit &&
      ofDigits 10 seconds ≤ 60)) &&
    1 ≤ pair 0 && pair 0 ≤ 12 && 1 ≤ pair 1 && pair 1 ≤ 31 && pair 2 ≤ 23 && pair 3 ≤ 59

def one (create : Bool) (s : State) (path : String) : Except OsError State :=
  if path = "-" then .ok s
  else match found? s path with
    | .ok _ => .ok s
    | .error .noEntry =>
      if !create then .ok s
      else if path = "" then .error .noEntry
      else (s.system.files.placeToWrite s.directory path).map fun place => s.store place []
    | .error e => .error e

def tool (isDate : String → Bool) : Tool where
  letters := "acd:fhmr:t:"
  names := "time: no-create=c date:=d reference:=r no-dereference=h help version"
  sound := ruled [("t", isStamp),
    ("time", fun t =>
      isChoice ["atime", "access", "use", "mtime", "modify"] t || t = "a" || t = "m")]
  run s r :=
    let missing := (r.value? "r").any fun p => match found? s p with
      | .ok _ => false
      | .error _ => true
    if (r.value? "d").any fun d => !isDate d then s.withStatus 1
    else if r.has "t" ∧ r.hasAny ["d", "r"] then s.withStatus 1
    else if missing then s.withStatus 1
    else if r.has "h" ∧ !r.has "c" ∧ r.operands.contains "" then s.withStatus 1
    else counted 1 none 1 (fun s r => each 1 (one (!r.hasAny ["c", "h"])) s r.operands) s r

end Touch

namespace Truncate

/-- A size, and how it is related to the one before. -/
def size? (t : String) : Option (Option Char × Nat) :=
  let letters := "EgGkKmMPQRTtYZ0"
  match unindented t.toList with
  | c :: rest =>
    if "+-".toList.contains c then
      (Quantity.count? letters (String.ofList rest)).map (some c, ·)
    else if "<>/%".toList.contains c then
      let rest := unindented rest
      if rest.head?.any "+-".toList.contains then none
      else (Quantity.count? letters (String.ofList rest)).bind fun n =>
        if (c = '/' ∨ c = '%') ∧ n = 0 then none else some (some c, n)
    else (Quantity.count? letters (String.ofList (c :: rest))).map (none, ·)
  | [] => none

def after (before : Nat) (change : Option Char × Nat) : Nat :=
  let n := change.2
  match change.1 with
  | some '+' => before + n
  | some '-' => before - n
  | some '<' => min before n
  | some '>' => max before n
  | some '/' => before / n * n
  | some '%' => (before + n - 1) / n * n
  | _ => n

def one (r : Reading) (change : Option Char × Nat) (s : State) (path : String) :
    Except OsError State := do
  match found? s path with
  | .ok (place, .file bytes x) =>
    let size := min (after bytes.size change) 1000000
    let kept := bytes.extract 0 size
    let zeros := List.replicate (size - kept.size) (0 : UInt8)
    return s.withFiles (s.system.files.replace place
      (.file (kept ++ ⟨zeros.toArray⟩) x))
  | .ok _ => throw .invalid
  | .error .noEntry =>
    if r.has "c" then return s
    else
      let place ← s.system.files.placeToWrite s.directory path
      return s.withFiles (s.system.files.replace place
        (.file ⟨(List.replicate (min (after 0 change) 1000000) (0 : UInt8)).toArray⟩ false))
  | .error e => throw e

def tool : Tool where
  letters := "cor:s:"
  names := "no-create=c io-blocks=o reference:=r size:=s help version"
  sound := ruled [("s", fun t => (size? t).any fun z => z.2 ≤ maxSigned)]
  run s r :=
    let sizes := (r.values "s").filterMap size?
    let given := sizes.getLast?.map fun z =>
      (z.1 <|> (sizes.filterMap (·.1)).getLast?.filter fun c => c = '%' || c = '/', z.2)
    let isClear := (List.range sizes.length).all fun k =>
      ((sizes[k]?).bind (·.1)).all (fun c => c ≠ '+' && c ≠ '-') ||
        (sizes.take k).all fun z => z.1.isNone
    let isZero := given.any fun z => (z.1 = some '%' || z.1 = some '/') && z.2 = 0
    if !isClear ∨ isZero then s.withStatus 1 else
    match r.value? "r", given with
    | none, none => s.withStatus 1
    | none, some change =>
      if r.has "o" ∧ !r.has "s" then s.withStatus 1
      else counted 1 none 1 (fun s r => each 1 (one r change) s r.operands) s r
    | some path, change =>
      if change.any fun c => c.1.isNone then s.withStatus 1
      else match found? s path with
        | .ok (_, .file bytes _) =>
          let size := (change.map (after bytes.size)).getD bytes.size
          counted 1 none 1 (fun s r => each 1 (one r (none, size)) s r.operands) s r
        | .ok _ => counted 1 none 1 (fun s r => each 1 (one r (none, 0)) s r.operands) s r
        | .error _ => s.withStatus 1

end Truncate

namespace Chmod

def below (s : State) (place : List String) : List (List String) :=
  (s.system.files.entries.filter fun e => place.isPrefixOf e.1).map (·.1)

def one (r : Reading) (changes : List Mode.Change) (s : State) (path : String) :
    Except OsError State := do
  let (place, _) ← found? s path
  let change (s : State) (p : List String) : State :=
    match s.system.files.get? p with
    | some (.file bytes x) =>
      s.withFiles (s.system.files.replace p (.file bytes (Mode.executable changes x)))
    | _ => s
  return if r.has "R" then (below s place).foldl change s else change s place

/-- The mode that stands among the options, because it begins with a dash. -/
def dashed (r : Reading) : Option String :=
  let parts := r.given.filterMap fun g =>
    if g.key.length = 1 ∧ g.key.toList.all "rwxXstugoa,+=01234567".toList.contains then
      some ("-" ++ g.key ++ g.value.getD "")
    else none
  if parts = [] then none else some (String.intercalate "," parts)

def tool : Tool where
  letters := "Rcfvr::w::x::X::s::t::u::g::o::a::,::+::=::0::1::2::3::4::5::6::7::"
  names := "changes=c recursive=R no-preserve-root preserve-root quiet=f reference: silent=f " ++
    "verbose=v help version"
  run s r :=
    let (mode, paths) := match r.value? "reference", dashed r, r.operands with
      | some _, _, paths => (some "0", paths)
      | none, some mode, paths => (some mode, paths)
      | none, none, mode :: paths => (some mode, paths)
      | none, none, [] => (none, [])
    let missing := (r.value? "reference").any fun p => match found? s p with
      | .ok _ => false
      | .error _ => true
    if missing ∨ paths = [] ∨ (r.has "reference" ∧ (dashed r).isSome) then s.withStatus 1
    else match mode.bind Mode.read? with
      | none => s.withStatus 1
      | some changes =>
        if r.has "reference" then each 1 (fun s p => (found? s p).map fun _ => s) s paths
        else each 1 (one r changes) s paths

end Chmod

end AgentLaunch.Tools
