import AgentLaunch.Shell.Glob
import AgentLaunch.Shell.Regex
import AgentLaunch.Shell.Test
import AgentLaunch.Tools.Accounts
import AgentLaunch.Tools.Listing
import AgentLaunch.Tools.Pieces

/-!
# Finding files

The tool that goes through directories and asks an expression about each file. An expression is made
of tests and actions, which all have an answer.
-/

namespace AgentLaunch.Tools.Find

open Shell (State Regex)
open FileTree (Node)

inductive Query where
  | primary (name : String) (values : List String)
  | not (q : Query)
  | both (a b : Query)
  | either (a b : Query)
  /-- Both are asked, and the second one answers. -/
  | sequel (a b : Query)

/-! ### Values of primaries -/

def compared? (t : String) : Option (Ordering × Nat) :=
  let (order, digits) : Ordering × List Char := match t.toList with
    | '+' :: rest => (.gt, rest)
    | '-' :: rest => (.lt, rest)
    | rest => (.eq, rest)
  if digits ≠ [] ∧ digits.all isDigit then some (order, ofDigits 10 digits) else none

/-- The same for a number with places behind its point. -/
def isAge (t : String) : Bool :=
  let bare := match t.toList with
    | '+' :: rest | '-' :: rest => rest
    | rest => rest
  match Numeral.read? bare with
  | some (.quotient _ _ _, []) => !(bare.head?.any isBlank)
  | _ => false

def size? (t : String) : Option (Ordering × Nat × Nat) :=
  let units := [('b', 512), ('c', 1), ('w', 2), ('k', 1024), ('M', 1048576), ('G', 1073741824)]
  match t.toList.reverse with
  | c :: front =>
    match units.find? fun u => u.1 = c with
    | some (_, unit) => (compared? (String.ofList front.reverse)).map fun (o, n) => (o, n, unit)
    | none => (compared? t).map fun (o, n) => (o, n, 512)
  | [] => none

def isKinds (t : String) : Bool :=
  let words := t.splitOn ","
  words.eraseDups.length = words.length &&
    words.all fun w => ["b", "c", "d", "p", "f", "l", "s"].contains w

def isMode (t : String) : Bool :=
  let bare := match t.toList with
    | '-' :: rest => String.ofList rest
    | '/' :: rest => String.ofList rest
    | rest => String.ofList rest
  (Mode.read? bare).isSome

def dialects : List String :=
  ["findutils-default", "ed", "emacs", "gnu-awk", "grep", "posix-awk", "awk", "posix-basic",
    "posix-egrep", "egrep", "posix-extended", "posix-minimal-basic", "sed"]

def isThere (s : State) (path : String) : Bool :=
  (Shell.Test.node? s path).isSome

/-- A group of primaries: their names, how many values they have, and whether those are sound. -/
structure Family where
  names : List String
  values : Nat
  sound : State → List String → Bool

def anything (_ : State) (_ : List String) : Bool := true

def first (test : State → String → Bool) (s : State) (values : List String) : Bool :=
  test s (values.headD "")

def families : List Family :=
  [⟨["-true", "-false", "-print", "-print0", "-ls", "-delete", "-prune", "-quit", "-empty",
      "-executable", "-readable", "-writable", "-nouser", "-nogroup", "-depth", "-d", "-xdev",
      "-mount", "-follow", "-daystart", "-noleaf", "-warn", "-nowarn", "-ignore_readdir_race",
      "-noignore_readdir_race"], 0, anything⟩,
    ⟨["-name", "-iname", "-path", "-ipath", "-wholename", "-iwholename", "-lname", "-ilname",
      "-fstype", "-printf"], 1, anything⟩,
    ⟨["-regex", "-iregex"], 1, first fun _ t => (Regex.read? .plain t.toList).isSome⟩,
    ⟨["-regextype"], 1, first fun _ t => dialects.contains t⟩,
    ⟨["-type", "-xtype"], 1, first fun _ t => isKinds t⟩,
    ⟨["-size"], 1, first fun _ t => (size? t).isSome⟩,
    ⟨["-links", "-inum"], 1, first fun _ t => (compared? t).isSome⟩,
    ⟨["-amin", "-atime", "-cmin", "-ctime", "-mmin", "-mtime", "-used"], 1,
      first fun _ t => isAge t⟩,
    ⟨["-uid", "-gid"], 1, first fun _ t => (compared? t).isSome⟩,
    ⟨["-maxdepth", "-mindepth"], 1, first fun _ t => t ≠ "" && t.toList.all isDigit⟩,
    ⟨["-newer", "-anewer", "-cnewer", "-samefile", "-newermm", "-newerma", "-neweram", "-neweraa",
      "-newercm", "-newermc"], 1, first isThere⟩,
    ⟨["-perm"], 1, first fun _ t => isMode t⟩,
    ⟨["-user"], 1, first fun s t => (Accounts.userNumber? s t).isSome⟩,
    ⟨["-group"], 1, first fun s t => (Accounts.groupNumber? s t).isSome⟩,
    ⟨["-fprint", "-fprint0", "-fls"], 1, anything⟩, ⟨["-fprintf"], 2, anything⟩]

/-- The primaries that only say how to go through directories. -/
def settings : List String :=
  ["-depth", "-d", "-xdev", "-mount", "-follow", "-daystart", "-noleaf", "-warn", "-nowarn",
    "-maxdepth", "-mindepth", "-regextype", "-ignore_readdir_race", "-noignore_readdir_race"]

/-- The primaries that do something, so that paths are not shown by themselves. -/
def actions : List String :=
  ["-print", "-print0", "-printf", "-fprint", "-fprint0", "-fprintf", "-ls", "-fls", "-delete",
    "-exec", "-execdir", "-ok", "-okdir", "-quit"]

def launchers : List String := ["-exec", "-execdir", "-ok", "-okdir"]

/-- The words of a command up to its end, whether it is one for all files, and the rest. -/
def command? : List String → Option (List String × Bool × List String)
  | [] => none
  | ";" :: rest => some ([], false, rest)
  | "\x7b\x7d" :: "+" :: rest => some (["\x7b\x7d"], true, rest)
  | w :: rest => (command? rest).map fun (ws, all, rest) => (w :: ws, all, rest)

/-! ### Reading -/

mutual

/-- Queries with commas between them. The number bounds how often the functions call each other. -/
def sequels (s : State) : Nat → List String → Option (Query × List String)
  | 0, _ => none
  | n + 1, words => do
    let (a, rest) ← eithers s n words
    match rest with
    | "," :: rest =>
      let (b, rest) ← sequels s n rest
      return (.sequel a b, rest)
    | rest => return (a, rest)

def eithers (s : State) : Nat → List String → Option (Query × List String)
  | 0, _ => none
  | n + 1, words => do
    let (a, rest) ← boths s n words
    match rest with
    | w :: more =>
      if w = "-o" ∨ w = "-or" then
        let (b, rest) ← eithers s n more
        return (.either a b, rest)
      else return (a, rest)
    | [] => return (a, [])

def boths (s : State) : Nat → List String → Option (Query × List String)
  | 0, _ => none
  | n + 1, words => do
    let (a, rest) ← one s n words
    match rest with
    | w :: more =>
      if w = "-a" ∨ w = "-and" then
        let (b, rest) ← boths s n more
        return (.both a b, rest)
      else if w = "-o" ∨ w = "-or" ∨ w = "," ∨ w = ")" then return (a, rest)
      else
        let (b, rest) ← boths s n (w :: more)
        return (.both a b, rest)
    | [] => return (a, [])

def one (s : State) : Nat → List String → Option (Query × List String)
  | 0, _ => none
  | n + 1, words =>
    match words with
    | "!" :: rest | "-not" :: rest => do
      let (q, rest) ← one s n rest
      return (.not q, rest)
    | "(" :: rest => do
      match ← sequels s n rest with
      | (q, ")" :: rest) => return (q, rest)
      | _ => none
    | w :: rest =>
      if launchers.contains w then
        match command? rest with
        | some (ws, all, rest) =>
          if ws = [] ∨ (all ∧ (w = "-ok" ∨ w = "-okdir")) ∨ (all ∧ ws.length < 2) then none
          else some (.primary (if all then w ++ "+" else w) ws, rest)
        | none => none
      else match families.find? fun f => f.names.contains w with
        | some f =>
          let values := rest.take f.values
          if values.length < f.values ∨ !f.sound s values then none
          else some (.primary w values, rest.drop f.values)
        | none => none
    | [] => none

end

/-- The names of the primaries of a query with their values. -/
def Query.primaries : Query → List (String × List String)
  | .primary name values => [(name, values)]
  | .not q => q.primaries
  | .both a b | .either a b | .sequel a b => a.primaries ++ b.primaries

/-! ### Asking -/

/-- What is known while files are gone through. -/
structure Walk where
  state : State
  /-- Whether what is below the file is left out. -/
  pruned : Bool
  quit : Bool
  /-- Commands for all files, with the paths so far. -/
  pending : List (List String × List String)

structure File where
  path : String
  start : String
  depth : Nat
  place : List String
  node : Node

def pattern (t : String) : List Shell.Glob.Marked :=
  t.toList.map (·, false)

def fitsText (fold : Bool) (p t : String) : Bool :=
  if fold then Shell.Glob.fits (pattern (p.map Char.toLower)) (t.map Char.toLower).toList
  else Shell.Glob.fits (pattern p) t.toList

def letter : Node → String
  | .directory => "d"
  | .link _ => "l"
  | .device _ => "c"
  | .fifo => "p"
  | _ => "f"

def fitsOrder (o : Ordering) (value n : Nat) : Bool :=
  compare value n = o

/-- A text with what its directives ask for. -/
def formatted (f : File) : List Char → String
  | '%' :: c :: rest =>
    (match c with
      | 'p' => f.path
      | 'f' => baseName f.path
      | 'h' => parentOf f.path
      | 'P' => (f.path.drop (f.start.length + 1)).toString
      | 'H' => f.start
      | 's' => toString (byteSize f.node)
      | 'd' => toString f.depth
      | 'y' => letter f.node
      | 'm' => permissions f.node
      | 'M' => letters f.node
      | 'u' | 'g' => "root"
      | 'U' | 'G' => "0"
      | '%' => "%"
      | _ => "") ++ formatted f rest
  | '\\' :: c :: rest =>
    (match c with
      | 'n' => "\n"
      | 't' => "\t"
      | '0' => "\x00"
      | '\\' => "\\"
      | c => String.ofList ['\\', c]) ++ formatted f rest
  | c :: rest => String.singleton c ++ formatted f rest
  | [] => ""

/-- Puts a path in place of its mark in the words of a command. -/
def filled (path : String) (words : List String) : List String :=
  words.map fun w => String.intercalate path (w.splitOn "\x7b\x7d")

def test (s : State) (f : File) (name : String) (value : String) : Bool :=
  let age : Bool := match value.toList with
    | '+' :: _ => false
    | '-' :: rest => rest.any fun c => isDigit c && c ≠ '0'
    | rest => rest.all fun c => c = '0' || c = '.'
  match name with
  | "-false" | "-nouser" | "-nogroup" => false
  | "-name" => fitsText false value (baseName f.path)
  | "-iname" => fitsText true value (baseName f.path)
  | "-path" | "-wholename" => fitsText false value f.path
  | "-ipath" | "-iwholename" => fitsText true value f.path
  | "-lname" | "-ilname" =>
    match f.node with
    | .link target => fitsText (name = "-ilname") value target
    | _ => false
  | "-regex" | "-iregex" =>
    ((Regex.read? .plain value.toList).map fun e =>
      Regex.isIn (name = "-iregex") true false e f.path.toList).getD false
  | "-type" => (value.splitOn ",").contains (letter f.node)
  | "-xtype" =>
    match found? s f.path with
    | .ok (_, node) => (value.splitOn ",").contains (letter node)
    | .error _ => (value.splitOn ",").contains (letter f.node)
  | "-size" =>
    match size? value with
    | some (o, n, unit) => fitsOrder o ((byteSize f.node + unit - 1) / unit) n
    | none => false
  | "-links" => (compared? value).any fun (o, n) => fitsOrder o 1 n
  | "-inum" => (compared? value).any fun (o, _) => o = .gt
  | "-uid" | "-gid" => (compared? value).any fun (o, n) => fitsOrder o 0 n
  | "-user" => Accounts.userNumber? s value = some 0
  | "-group" => Accounts.groupNumber? s value = some 0
  | "-amin" | "-atime" | "-cmin" | "-ctime" | "-mmin" | "-mtime" | "-used" => age
  | "-empty" =>
    match f.node with
    | .directory => (s.system.files.names f.place).isEmpty
    | .file bytes _ => bytes.size = 0
    | _ => false
  | "-executable" =>
    match f.node with
    | .file _ x => x
    | .device _ | .fifo => false
    | _ => true
  | "-perm" =>
    let n := ofDigits 8 (value.toList.filter isDigit)
    let own := ofDigits 8 (permissions f.node).toList
    match value.toList with
    | '-' :: _ => own &&& n = n
    | '/' :: _ => n = 0 || own &&& n ≠ 0
    | _ => own = n
  | "-samefile" =>
    match found? s value with
    | .ok (place, _) => place = f.place
    | .error _ => false
  | "-fstype" => false
  | n => !n.startsWith "-newer" && n ≠ "-anewer" && n ≠ "-cnewer"

/-- Does what an action says, with its answer. -/
def act (launch : Launch) (f : File) (w : Walk) (name : String) (values : List String) :
    Bool × Walk :=
  let s := w.state
  let said (t : String) : Bool × Walk := (true, { w with state := s.say t })
  let stored (t : String) : Bool × Walk :=
    match written s (values.headD "") true t.toList with
    | .ok s => (true, { w with state := s })
    | .error _ => (true, { w with state := failed 1 s })
  match name with
  | "-print" => said (f.path ++ "\n")
  | "-print0" => said (f.path ++ "\x00")
  | "-printf" => said (formatted f (values.headD "").toList)
  | "-ls" => said (letters f.node ++ " " ++ f.path ++ "\n")
  | "-fprint" | "-fls" => stored (f.path ++ "\n")
  | "-fprint0" => stored (f.path ++ "\x00")
  | "-fprintf" => stored (formatted f ((values[1]?).getD "").toList)
  | "-prune" => (true, { w with pruned := true })
  | "-quit" => (true, { w with quit := true })
  | "-delete" =>
    match f.node with
    | .directory =>
      if f.path = "." then (true, w)
      else if (s.system.files.names f.place).isEmpty then
        (true, { w with state := s.withFiles (s.system.files.remove f.place) })
      else (false, { w with state := failed 1 s })
    | _ => (true, { w with
        state := (s.relocate f.place none).withFiles (s.system.files.remove f.place) })
  | "-ok" | "-okdir" => (false, w)
  | "-exec" | "-execdir" =>
    let path := if name = "-exec" then f.path else "./" ++ baseName f.path
    let directory := if name = "-exec" then s.directory else State.pathOf f.place.dropLast
    let (ending, after) := launch (filled path values) { s with directory := directory }
    (ending = .exited 0, { w with
      state := { after.withStatus s.status with directory := s.directory } })
  | _ =>
    let command := values.dropLast
    let pending := match w.pending.find? fun p => p.1 = command with
      | some p => w.pending.map fun q => if q.1 = command then (q.1, p.2 ++ [f.path]) else q
      | none => w.pending ++ [(command, [f.path])]
    (true, { w with pending := pending })

def Query.ask (launch : Launch) (f : File) (q : Query) (w : Walk) : Bool × Walk :=
  if w.quit then (false, w)
  else match q with
    | .primary name values =>
      if actions.contains name ∨ name = "-prune" ∨ name.endsWith "+" then
        act launch f w name values
      else (test w.state f name (values.headD ""), w)
    | .not q =>
      let (a, w) := q.ask launch f w
      (!a, w)
    | .both a b =>
      let (x, w) := a.ask launch f w
      if x then b.ask launch f w else (false, w)
    | .either a b =>
      let (x, w) := a.ask launch f w
      if x then (true, w) else b.ask launch f w
    | .sequel a b => b.ask launch f (a.ask launch f w).2

structure Plan where
  query : Query
  follows : Bool
  least : Nat
  most : Nat
  deepFirst : Bool

/-- Goes through what is at and below a file. The number bounds how deep that is. -/
def visit (launch : Launch) (p : Plan) : Nat → File → Walk → Walk
  | 0, _, w => w
  | n + 1, f, w =>
    if w.quit then w
    else
      let ask (w : Walk) : Walk :=
        if f.depth < p.least then w else (p.query.ask launch f { w with pruned := false }).2
      let w := { w with pruned := false }
      let before := if p.deepFirst then w else ask w
      let children : List String := match f.node with
        | .directory =>
          if f.depth < p.most && !before.pruned then before.state.system.files.names f.place else []
        | _ => []
      let after := children.foldl (fun w name =>
        let path := (if f.path.endsWith "/" then f.path else f.path ++ "/") ++ name
        let place := f.place ++ [name]
        match w.state.system.files.get? place with
        | some (.link target) =>
          let found := if p.follows then found? w.state path else .error .noEntry
          let (place, node) := match found with
            | .ok found => found
            | .error _ => (place, .link target)
          visit launch p n ⟨path, f.start, f.depth + 1, place, node⟩ w
        | some node => visit launch p n ⟨path, f.start, f.depth + 1, place, node⟩ w
        | none => w) before
      if p.deepFirst then ask after else after

/-- Runs the commands for all files. One that fails is a failure of the whole. -/
def conclude (launch : Launch) (w : Walk) : State :=
  w.pending.foldl (fun s (command, paths) =>
    let (ending, after) := launch (command ++ paths) s
    after.withStatus (if ending = .exited 0 then s.status else 1)) w.state

/-- The options in front: how links are followed, and the rest. Nothing if they are mistaken. -/
def leading (follows : Bool) : List String → Option (Bool × List String)
  | "-P" :: rest => leading false rest
  | "-L" :: rest => leading true rest
  | "-H" :: rest => leading follows rest
  | "-D" :: rest => match rest with
    | _ :: rest => leading follows rest
    | [] => none
  | "--" :: rest => some (follows, rest)
  | w :: rest =>
    if w.startsWith "-O" then
      let digits := (w.toList.drop 2)
      if digits ≠ [] ∧ digits.all isDigit then leading follows rest else none
    else some (follows, w :: rest)
  | [] => some (follows, [])

def begins (w : String) : Bool :=
  (w.startsWith "-" && w ≠ "-") || ["(", "!", ")", ","].contains w

def run (launch : Launch) (s : State) (args : List String) : State :=
  match leading false args with
  | none => s.withStatus 1
  | some (follows, rest) =>
    let starts := rest.takeWhile (!begins ·)
    let words := rest.drop starts.length
    if words.any fun w => ["-help", "--help", "-version", "--version"].contains w then
      s.withStatus 0
    else
      let query? : Option Query :=
        if words = [] then some (.primary "-true" [])
        else match sequels s (8 * words.length + 16) words with
          | some (q, []) => some q
          | _ => none
      match query? with
      | none => s.withStatus 1
      | some q =>
        let used := q.primaries
        let acts := used.any fun (n, _) => (actions.contains n && n ≠ "-quit") || n.endsWith "+"
        let number (n : String) : Option Nat :=
          ((used.filter fun p => p.1 = n).getLast?.bind fun p => p.2.head?).bind String.toNat?
        let has (n : String) : Bool := used.any fun p => p.1 = n
        let plan : Plan := {
          query := if acts then q else .both q (.primary "-print" [])
          follows := follows || has "-follow"
          least := (number "-mindepth").getD 0
          most := (number "-maxdepth").getD 1000
          deepFirst := has "-depth" || has "-d" || has "-delete" }
        if has "-delete" && has "-prune" && !has "-depth" then s.withStatus 1
        else
          let outputs := used.filterMap fun (n, values) =>
            if ["-fprint", "-fprint0", "-fprintf", "-fls"].contains n then values.head? else none
          let emptied := each 1 (fun s path => written s path false []) (s.withStatus 0) outputs
          let begun : Walk := ⟨emptied, false, false, []⟩
          let walk := (if starts = [] then ["."] else starts).foldl (fun w path =>
            let reached := if plan.follows then found? w.state path else foundLink? w.state path
            if w.quit then w
            else match reached with
            | .ok (place, node) => visit launch plan 200 ⟨path, path, 0, place, node⟩ w
            | .error _ => { w with state := failed 1 w.state }) begun
          conclude launch walk

end AgentLaunch.Tools.Find
