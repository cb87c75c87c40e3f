import AgentLaunch.Perl.Machine
import AgentLaunch.Tools.Copy

/-!
# Functions of scripts

The functions of the language whose arguments are all values.
-/

namespace AgentLaunch.Perl.Machine

open Tools (Launch)

def first (vs : List Value) : Value :=
  vs.headD .undefined

def valueAt (vs : List Value) (k : Nat) : Value :=
  (vs[k]?).getD .undefined

def one (v : Value) (m : Machine) : List Value × Machine :=
  ([v], m)

/-- Whether something worked, and how it is left. -/
def tried (m : Machine) (r : Except OsError Shell.State) : Bool × Machine :=
  match r with
  | .ok shell => (true, { m with shell := shell })
  | .error e => (false, m.withError e)

/-- Does something for each path: for how many it worked. -/
def counting (f : Shell.State → String → Except OsError Shell.State) (paths : List Value)
    (m : Machine) : List Value × Machine :=
  let (k, m) := paths.foldl (fun (k, m) v =>
    match m.tried (f m.shell (String.ofList v.shown)) with
    | (true, m) => (k + 1, m)
    | (false, m) => (k, m)) (0, m)
  one (.ofNat k) m

def answer (r : Bool × Machine) : List Value × Machine :=
  one (.ofBool r.1) r.2

/-- The position of a text in another one, from a place on. -/
def position? (t part : List Char) (start : Nat) : Option Nat :=
  ((List.range (t.length + 1)).drop start).find? fun k => part.isPrefixOf (t.drop k)

/-- The last position of a text in another one, up to a place. -/
def lastPosition? (t part : List Char) (last : Nat) : Option Nat :=
  ((List.range (t.length + 1)).take (last + 1)).reverse.find? fun k => part.isPrefixOf (t.drop k)

/-- The part of a text that a start and a length tell; each can be counted from the end. -/
def extent? (length : Nat) (start : Int) (count : Option Int) : Option (Nat × Nat) :=
  let n := Int.ofNat length
  let first := if start < 0 then start + n else start
  let last := match count with
    | none => n
    | some c => if c < 0 then n + c else first + c
  if first > n ∨ first < 0 ∧ last < 0 then none
  else
    let first := max first 0
    let last := max first (min last n)
    some (first.toNat, last.toNat)

/-- The number of a signal by its name or its number, and whether a group is meant. -/
def signal? (v : Value) : Option (Nat × Bool) :=
  let t := v.shown
  let (group, t) := match t with
    | '-' :: rest => (true, rest)
    | t => (false, t)
  let name := String.ofList t
  let known := if name = "ZERO" then some 0
    else if name = "EXIT" then none else Shell.Signal.number? name
  match v with
  | .integer n => some (n.natAbs, n < 0)
  | _ => known.map fun n => (n, group)

def sendAll (m : Machine) (signal : Nat) (group : Bool) (targets : List Value) :
    List Value × Machine :=
  let (k, m) := targets.foldl (fun (k, m) v =>
    let pid := v.toInt
    let word := toString (if group then -(Int.ofNat pid.natAbs) else pid)
    let shell := m.shell.send signal [word]
    if shell.status = 0 then (k + 1, { m with shell := { shell with status := m.shell.status } })
    else (k, { m with errno := 3 })) (0, m)
  one (.ofNat k) m

/-- Waits for a process that was split off. -/
def awaited (m : Machine) (pid : Option Int) : List Value × Machine :=
  let isMeant (c : Nat × Shell.Ending) : Bool := pid.all fun p => p = -1 || Int.ofNat c.1 = p
  match m.children.find? isMeant with
  | some c =>
    one (.ofNat c.1) { m with
      children := m.children.filter fun d => d.1 ≠ c.1
      status := statusOf c.2 }
  | none => one (.integer (-1)) { m with errno := 10, status := -1 }

def splits (m : Machine) : List Value × Machine :=
  match m.plan with
  | [] => ([], { m with leaving := some .splits })
  | none :: later =>
    one (.integer 0) { m with shell := m.shell.split, children := [], plan := later }
  | some e :: later =>
    let child := m.shell.split
    let pid := child.identity.pid.toNat
    let system := { m.shell.system with lastPid := child.system.lastPid }
    one (.ofNat pid) { m with
      shell := { m.shell with system := system }
      children := (pid, e) :: m.children
      plan := later }

/-- A number that is written with digits of another base. -/
def ofBased (base : Nat) (t : List Char) : Value :=
  let digits := (t.filter (· ≠ '_')).takeWhile fun c => Tools.digitValue c < base
  .ofInteger (Int.ofNat (Tools.ofDigits base digits))

/-- A number with the base that its beginning tells. -/
def octal (t : List Char) : Value :=
  match (Tools.unindented t).map Char.toLower with
  | '0' :: 'x' :: rest | 'x' :: rest => ofBased 16 rest
  | '0' :: 'b' :: rest | 'b' :: rest => ofBased 2 rest
  | '0' :: 'o' :: rest => ofBased 8 rest
  | rest => ofBased 8 rest

def moment : List Value :=
  [20, 13, 22, 14, 10, 123, 2, 317, 0].map Value.ofNat

/-- Runs a command, which can be told as a single text. -/
def system (launch : Launch) (m : Machine) (vs : List Value) : List Value × Machine :=
  let (status, m) := runCommand launch m (commandOf vs)
  if (m.entry "SIG" "CHLD".toList).shown = "IGNORE".toList then
    one (.integer (-1)) { m with status := -1, errno := 10 }
  else one (.integer status) { m with status := status }

def become (launch : Launch) (m : Machine) (vs : List Value) : List Value × Machine :=
  let command := commandOf vs
  match Shell.Lookup.reach m.shell (command.headD "") with
  | .error code => one (.ofBool false) { m with
      errno := if code = Shell.Lookup.notFound then 2 else 13 }
  | .ok _ =>
    let (ending, shell) := launch command m.shell
    ([], { m with shell := shell }.endedLike ending)

/-- Makes a name for a file or a directory that is moved. -/
def rename (s : Shell.State) (path goal : String) : Except OsError Shell.State := do
  let (place, node) ← Tools.foundLink? s path
  let other ← match Tools.foundLink? s goal with
    | .ok (p, _) => .ok p
    | .error .noEntry => s.system.files.placeToMake s.directory goal
    | .error e => .error e
  match node, (Tools.Copy.there s other) with
  | .directory, some .directory =>
    if s.system.files.names other ≠ [] then throw .notEmpty
    else return Tools.Copy.moveTree s place other
  | .directory, some _ => throw .notDirectory
  | .directory, none => return Tools.Copy.moveTree s place other
  | _, some .directory => throw .isDirectory
  | node, _ => return Tools.Copy.renamed s place other node

/-- The text of the message of a failure. -/
def reason (kind : String) (vs : List Value) : List Char :=
  let t := (vs.map Value.shown).flatten
  let t := if t = [] then kind.toList else t
  if t.getLast? = some '\n' then t else t ++ " at -e line 1.\n".toList

def functionOf? (name : String) : Option (Binary64 → Binary64) :=
  match name with
  | "sin" => some .sin
  | "cos" => some .cos
  | "exp" => some .exp
  | _ => none

/-- The texts of values with another one between them. -/
def joinedBy (vs : List Value) : List Char :=
  match vs with
  | [] => []
  | v :: rest => v.shown.intercalate (rest.map Value.shown)

/-- Makes the first character of a text another one. -/
def withFirst (f : Char → Char) : List Char → List Char
  | c :: rest => f c :: rest
  | [] => []

/-- The integer next to a number, below or above. -/
def rounded (up : Bool) (x : Binary64) : Binary64 :=
  let cut := x.truncate
  let other := cut.add (.ofInt (if up then 1 else -1))
  match x.compare? cut with
  | some .lt => if up then cut else other
  | some .gt => if up then other else cut
  | _ => cut

def extreme (m : Machine) (o : String) (vs : List Value) : Value :=
  match vs with
  | [] => .undefined
  | v :: rest => rest.foldl (fun best v => if (m.operate o v best).1.holds then v else best) v

def pure? (name : String) (vs : List Value) : Option Value :=
  let v := first vs
  let t := v.shown
  match functionOf? name, name with
  | some f, _ => some (Value.normalized (f v.float))
  | none, "lc" => some (.text (t.map Char.toLower))
  | none, "uc" => some (.text (t.map Char.toUpper))
  | none, "lcfirst" => some (.text (withFirst Char.toLower t))
  | none, "ucfirst" => some (.text (withFirst Char.toUpper t))
  | none, "length" => some (if v.isDefined then .ofNat t.length else .undefined)
  | none, "chr" => some (.text [Char.ofNat v.toInt.toNat])
  | none, "ord" => some (.ofNat ((t.head?.map Char.toNat).getD 0))
  | none, "int" =>
    some (match v.numeric with
      | .integer n => .integer n
      | n => Value.normalized n.float.truncate)
  | none, "abs" =>
    some (match v.numeric with
      | .integer n => .ofNat n.natAbs
      | n => .number (if n.float.isNegative then n.float.neg else n.float))
  | none, "hex" =>
    some (match t with
      | '0' :: 'x' :: rest | '0' :: 'X' :: rest => ofBased 16 rest
      | t => ofBased 16 t)
  | none, "oct" => some (octal t)
  | none, "atan2" => some (.number (v.float.atan2 (valueAt vs 1).float))
  | none, "quotemeta" =>
    some (.text (t.flatMap fun c => if Parse.isWordChar c then [c] else ['\\', c]))
  | none, "join" => some (.text (joinedBy vs))
  | none, "sprintf" => some (.text (filled t vs.tail))
  | none, "index" =>
    let found := position? t (valueAt vs 1).shown (valueAt vs 2).toInt.toNat
    some ((found.map Value.ofNat).getD (.integer (-1)))
  | none, "rindex" =>
    let last := match vs[2]? with
      | some p => p.toInt.toNat
      | none => t.length
    some (((lastPosition? t (valueAt vs 1).shown last).map Value.ofNat).getD (.integer (-1)))
  | none, "ref" => some (match v with
      | .code _ => .ofString "CODE"
      | .handle _ => .ofString "GLOB"
      | .reference '@' _ => .ofString "ARRAY"
      | .reference '%' _ => .ofString "HASH"
      | .reference _ _ => .ofString "SCALAR"
      | _ => .text [])
  | none, "fileno" => some (match t with
      | ['S', 'T', 'D', 'I', 'N'] => .integer 0
      | ['S', 'T', 'D', 'O', 'U', 'T'] => .integer 1
      | ['S', 'T', 'D', 'E', 'R', 'R'] => .integer 2
      | _ => .integer 3)
  | none, "floor" => some (Value.normalized (rounded false v.float))
  | none, "ceil" => some (Value.normalized (rounded true v.float))
  | none, "pow" => some (Value.normalized (v.float.pow (valueAt vs 1).float))
  | none, "WIFEXITED" => some (.ofBool (v.toInt % 128 = 0))
  | none, "WEXITSTATUS" => some (.integer (v.toInt / 256 % 256))
  | none, "WIFSIGNALED" => some (.ofBool (v.toInt % 128 ≠ 0))
  | none, "WTERMSIG" => some (.integer (v.toInt % 128))
  | none, "basename" => some (.ofString (Tools.baseName (String.ofList t)))
  | none, "dirname" => some (.ofString (Tools.parentOf (String.ofList t)))
  | none, "time" => some (.ofNat Tools.clockSeconds)
  | none, "rand" => some (.number ((Binary64.ofInt 1).div (.ofInt 2)))
  | none, "srand" => some (.ofNat 42)
  | none, _ => none

/-- The value of a function whose arguments are all values, in a list or as a single one. -/
def apply (launch : Launch) (isList : Bool) (name : String) (vs : List Value) (m : Machine) :
    List Value × Machine :=
  let v := first vs
  let path := String.ofList v.shown
  let goal := String.ofList (valueAt vs 1).shown
  match (Parse.moduleConstant? name).map Value.ofNat <|> pure? name vs, name with
  | some v, _ => one v m
  | none, "sum" | none, "sum0" | none, "product" =>
    let o := if name = "product" then "*" else "+"
    let start : Value := if name = "product" then .integer 1 else .integer 0
    let (total, m) := vs.foldl (fun (t, m) v => m.operate o t v) (start, m)
    one (if vs = [] ∧ name = "sum" then .undefined else total) m
  | none, "max" => one (m.extreme ">" vs) m
  | none, "min" => one (m.extreme "<" vs) m
  | none, "croak" | none, "confess" => ([], m.die path)
  | none, "getcwd" | none, "cwd" => one (.ofString m.shell.directory) m
  | none, "getpid" => one (m.get "$") m
  | none, "raise" => m.sendAll v.toInt.toNat false [m.get "$"]
  | none, "glob" =>
    let names := (m.shell.system.files.names ((Tools.found? m.shell ".").toOption.map
      (·.1) |>.getD [])).filter fun w => !w.startsWith "."
    let fits := names.filter fun w => path = w || path = "*" ||
      (path.startsWith "*" && w.endsWith (String.ofList (path.toList.drop 1)))
    (if isList then fits.map .ofString else [(fits.map Value.ofString).headD .undefined], m)
  | none, "sqrt" =>
    if v.float.isNegative ∧ !v.float.isZero then
      ([], m.die ("Can't take sqrt of " ++ path))
    else one (Value.normalized v.float.sqrt) m
  | none, "log" =>
    if v.float.isZero ∨ v.float.isNegative then ([], m.die ("Can't take log of " ++ path))
    else one (Value.normalized v.float.log) m
  | none, "reverse" =>
    if isList then (vs.reverse, m) else one (.text (vs.map Value.shown).flatten.reverse) m
  | none, "exit" =>
    if m.leaving.isSome then ([], m) else ([], { m with leaving := some (.exited v.toInt) })
  | none, "_exit" =>
    ([], m.endedLike (.exited (v.toInt % 256).toNat))
  | none, "abort" => ([], m.endedLike (.killed 6))
  | none, "system" => system launch m vs
  | none, "exec" => become launch m vs
  | none, "fork" => splits m
  | none, "wait" => awaited m none
  | none, "waitpid" => awaited m (some v.toInt)
  | none, "getppid" => one (.ofNat (m.shell.waiting.headD 1).toNat) m
  | none, "getpgrp" => one (.ofNat m.shell.leader.toNat) m
  | none, "kill" =>
    match signal? v with
    | some (n, group) => m.sendAll n group vs.tail
    | none => ([], m.die ("Unrecognized signal name \"" ++ path ++ "\""))
  | none, "sleep" => one v (m.sleep (v.toInt.toNat * 1000000000))
  | none, "alarm" =>
    let left := m.alarm.map fun t => (t - m.shell.system.clock + 999999999) / 1000000000
    let n := v.toInt.toNat
    one (.ofNat (left.getD 0)) { m with
      alarm := if n = 0 then none else some (m.shell.system.clock + n * 1000000000) }
  | none, "select" =>
    match vs with
    | [_, _, _, t] =>
      let nanoseconds := (t.float.mul (.ofInt 1000000000)).truncated?.getD 0
      one (.integer 0) (m.sleep nanoseconds.toNat)
    | _ => one (.ofString "main::STDOUT") m
  | none, "unlink" =>
    counting (fun s p => do
      match ← Tools.foundLink? s p with
      | (_, .directory) => throw .isDirectory
      | (place, _) =>
        return (s.withFiles (s.system.files.remove place)).relocate place none) vs m
  | none, "mkdir" => answer (m.tried (Tools.Mkdir.one m.shell path))
  | none, "rmdir" => answer (m.tried (Tools.Rmdir.one m.shell path))
  | none, "rename" => answer (m.tried (rename m.shell path goal))
  | none, "link" | none, "symlink" =>
    let made : Except OsError Shell.State := do
      match Tools.foundLink? m.shell goal with
      | .ok _ => throw .present
      | .error .noEntry =>
        let place ← m.shell.system.files.placeToMake m.shell.directory goal
        let node ← if name = "link" then (Tools.foundLink? m.shell path).map (·.2)
          else .ok (.link path)
        return m.shell.withFiles (m.shell.system.files.add place node)
      | .error e => throw e
    answer (m.tried made)
  | none, "readlink" =>
    match Tools.foundLink? m.shell path with
    | .ok (_, .link t) => one (.ofString t) m
    | .ok _ => one .undefined { m with errno := 22 }
    | .error e => one .undefined (m.withError e)
  | none, "chmod" | none, "chown" | none, "utime" =>
    let (paths, mode) := if name = "chmod" then (vs.drop 1, some v.toInt.toNat)
      else (vs.drop 2, none)
    counting (fun s p => do
      let (place, node) ← Tools.found? s p
      match node, mode with
      | .file bytes _, some mode =>
        return s.withFiles (s.system.files.replace place (.file bytes (mode / 64 % 2 = 1)))
      | _, _ => return s) paths m
  | none, "chdir" =>
    match Tools.found? m.shell (if vs = [] then "/" else path) with
    | .ok (place, .directory) =>
      one (.ofBool true) { m with shell := { m.shell with directory := Shell.State.pathOf place } }
    | .ok _ => one (.ofBool false) { m with errno := 20 }
    | .error e => one (.ofBool false) (m.withError e)
  | none, "opendir" =>
    match Tools.found? m.shell goal with
    | .ok (place, .directory) =>
      let names := "." :: ".." :: m.shell.system.files.names place
      let t := (names.map fun w => w.toList ++ ['\n']).flatten
      one (.ofBool true) { m with readers := put (handleName v ++ "/") t m.readers }
    | .ok _ => one (.ofBool false) { m with errno := 20 }
    | .error e => one (.ofBool false) (m.withError e)
  | none, "readdir" =>
    match look (handleName v ++ "/") m.readers with
    | none => (if isList then [] else [.undefined], { m with errno := 9 })
    | some t =>
      let names := Tools.lines t
      if isList then (names.map .text, { m with readers := put (handleName v ++ "/") [] m.readers })
      else match names with
        | w :: _ => one (.text w)
            { m with readers := put (handleName v ++ "/") (t.drop (w.length + 1)) m.readers }
        | [] => one .undefined m
  | none, "closedir" =>
    let kept := m.readers.filter fun r => r.1 ≠ handleName v ++ "/"
    one (.ofBool (kept.length < m.readers.length)) { m with readers := kept }
  | none, "close" =>
    if ["STDIN", "STDOUT", "STDERR"].contains path then one (.ofBool true) m
    else answer (close launch m (handleName v))
  | none, "eof" =>
    let n := if vs = [] then "ARGV" else handleName v
    match m.readerText n with
    | (some t, m) => one (.ofBool (t = [])) m
    | (none, m) => one (.ofBool true) m
  | none, "truncate" =>
    match Tools.found? m.shell path with
    | .ok (place, .file ..) =>
      let t := (m.shell.contents? place).getD []
      one (.ofBool true) { m with
        shell := m.shell.store place (t.take (valueAt vs 1).toInt.toNat) }
    | .ok _ => one (.ofBool false) { m with errno := 21 }
    | .error e => one (.ofBool false) (m.withError e)
  | none, "stat" | none, "lstat" =>
    match Tools.found? m.shell path with
    | .ok _ =>
      let size := ((m.shell.textOf? path).map fun t => t.utf8ByteSize).getD 4096
      if isList then ((List.replicate 13 (Value.integer 1)).set 7 (.ofNat size), m)
      else one (.ofBool true) m
    | .error e => (if isList then [] else [.ofBool false], m.withError e)
  | none, "localtime" | none, "gmtime" =>
    if isList then (moment, m) else one (.ofString "Tue Nov 14 22:13:20 2023") m
  | none, "times" => (List.replicate 4 (.integer 0), m)
  | none, "caller" => (if isList then [] else [.undefined], m)
  | none, "umask" => one (.ofNat m.shell.mask) m
  | none, "wantarray" => one ((m.asked.map Value.ofBool).getD .undefined) m
  | none, "last" => ([], { m with leaving := m.leaving <|> some (.broken path) })
  | none, "next" | none, "redo" =>
    ([], { m with leaving := m.leaving <|> some (.continued path) })
  | none, "warn" => one (.ofBool true) m
  | none, "missing" => ([], { m with errno := 2 }.die "Can't locate a module")
  | none, _ => one (.ofBool true) m

end AgentLaunch.Perl.Machine
