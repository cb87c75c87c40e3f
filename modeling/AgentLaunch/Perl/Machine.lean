import AgentLaunch.Awk.Format
import AgentLaunch.Perl.Parse
import AgentLaunch.Shell.Lookup
import AgentLaunch.Shell.Loop
import AgentLaunch.Shell.Regex
import AgentLaunch.Shell.Signal
import AgentLaunch.Shell.Test
import AgentLaunch.Tools.Pieces

/-!
# Machines for scripts

What is known while a script runs: its variables, the files that it has opened, and what went wrong
last.
-/

namespace AgentLaunch.Perl

/-- Why a script does not go on with the next statement. -/
inductive Leaving where
  | exited (code : Int)
  | died (message : Value)
  | returned (vs : List Value)
  /-- Out of a loop, the one with a name if there is one. -/
  | broken (label : String)
  /-- On to the next turn of a loop. -/
  | continued (label : String)
  /-- The process has ended, or has become another program. -/
  | gone
  | splits

/-- A variable as it was before a block. -/
inductive Shadow where
  | scalar (n : String) (old : Option Value)
  | array (n : String) (old : Option (List Value))
  | table (n : String) (old : Option (List (List Char × Value)))

/-- A file or a command that is written to. -/
structure Writer where
  name : String
  path : List Char
  isCommand : Bool
  pending : List Char

structure Machine where
  shell : Shell.State
  program : Program
  scalars : List (String × Value)
  arrays : List (String × List Value)
  tables : List (String × List (List Char × Value))
  /-- The variables that the blocks around hide. -/
  shadows : List Shadow
  errno : Nat
  status : Int
  groups : List (Nat × List Char)
  positions : List (String × Nat)
  readers : List (String × List Char)
  writers : List Writer
  handles : Nat
  /-- When a signal comes from the clock. -/
  alarm : Option Nat
  lineNumber : Nat
  /-- The name of the loop that comes next. -/
  label : String
  result : List Value
  /-- Whether the function that runs is asked for a list; nothing outside of all functions. -/
  asked : Option Bool
  /-- What becomes of the splits of the process that are still to come: the new process goes on, or
  the old one with a new one that ended. -/
  plan : List (Option Shell.Ending)
  /-- The processes that were split off and were not waited for. -/
  children : List (Nat × Shell.Ending)
  leaving : Option Leaving

namespace Machine

def put {α β : Type} [DecidableEq α] (k : α) (v : β) (vs : List (α × β)) : List (α × β) :=
  (k, v) :: vs.filter fun e => e.1 ≠ k

/-- Puts a value where its key is, or at the end. -/
def put_last {α β : Type} [DecidableEq α] (k : α) (v : β) (vs : List (α × β)) : List (α × β) :=
  if vs.any fun e => e.1 = k then vs.map fun e => if e.1 = k then (k, v) else e
  else vs ++ [(k, v)]

def look {α β : Type} [DecidableEq α] (k : α) (vs : List (α × β)) : Option β :=
  (vs.find? fun e => e.1 = k).map (·.2)

def array (m : Machine) (n : String) : List Value :=
  (look n m.arrays).getD []

def setArray (m : Machine) (n : String) (vs : List Value) : Machine :=
  { m with arrays := put n vs m.arrays }

def table (m : Machine) (n : String) : List (List Char × Value) :=
  (look n m.tables).getD []

def setTable (m : Machine) (n : String) (vs : List (List Char × Value)) : Machine :=
  { m with tables := put n vs m.tables }

def get (m : Machine) (n : String) : Value :=
  match n with
  | "$" => .ofNat m.shell.identity.pid.toNat
  | "?" => .integer m.status
  | "!" => .ofNat m.errno
  | "." => .ofNat m.lineNumber
  | "&" => ((look 0 m.groups).map Value.text).getD .undefined
  | n =>
    if n ≠ "" ∧ n ≠ "0" ∧ n.toList.all Char.isDigit then
      ((look (Tools.ofDigits 10 n.toList) m.groups).map Value.text).getD .undefined
    else (look n m.scalars).getD .undefined

def set (m : Machine) (n : String) (v : Value) : Machine :=
  match n with
  | "?" => { m with status := v.toInt % 65536 }
  | "!" => { m with errno := (v.toInt % 4294967296).toNat }
  | "." => { m with lineNumber := v.toInt.toNat }
  | n => { m with scalars := put n v m.scalars }

/-- The place in an array that an index means; it can be counted from the end. -/
def place? (vs : List Value) (i : Int) : Option Nat :=
  if i ≥ 0 then some i.toNat
  else if i + Int.ofNat vs.length ≥ 0 then some (i + Int.ofNat vs.length).toNat else none

def item (m : Machine) (n : String) (i : Int) : Value :=
  let vs := m.array n
  ((place? vs i).bind (vs[·]?)).getD .undefined

def maxLength : Nat := 1000000

def setItem (m : Machine) (n : String) (i : Int) (v : Value) : Machine :=
  let vs := m.array n
  match place? vs i with
  | some k =>
    if k > maxLength then m
    else
      let longer := vs ++ List.replicate (k + 1 - vs.length) Value.undefined
      m.setArray n (longer.set k v)
  | none => m

def entry (m : Machine) (n : String) (k : List Char) : Value :=
  (look k (m.table n)).getD .undefined

def setEntry (m : Machine) (n : String) (k : List Char) (v : Value) : Machine :=
  m.setTable n (put_last k v (m.table n))

/-- Hides a variable until the block ends. It is empty then, or as it was. -/
def hide (m : Machine) (keeps : Bool) : Expr → Machine
  | .scalar n =>
    let m := { m with shadows := .scalar n (look n m.scalars) :: m.shadows }
    if keeps then m else m.set n .undefined
  | .array n =>
    let m := { m with shadows := .array n (look n m.arrays) :: m.shadows }
    if keeps then m else m.setArray n []
  | .table n =>
    let m := { m with shadows := .table n (look n m.tables) :: m.shadows }
    if keeps then m else m.setTable n []
  | _ => m

/-- Brings back what was hidden since there were so many hidden variables. -/
def bringBack (m : Machine) (depth : Nat) : Machine :=
  let taken := m.shadows.take (m.shadows.length - depth)
  let m := { m with shadows := m.shadows.drop taken.length }
  taken.foldl (fun m h =>
    match h with
    | .scalar n (some v) => { m with scalars := put n v m.scalars }
    | .scalar n none => { m with scalars := m.scalars.filter fun e => e.1 ≠ n }
    | .array n (some v) => m.setArray n v
    | .array n none => { m with arrays := m.arrays.filter fun e => e.1 ≠ n }
    | .table n (some v) => m.setTable n v
    | .table n none => { m with tables := m.tables.filter fun e => e.1 ≠ n }) m

def fresh (m : Machine) (sign : Char) : Value × Machine :=
  (.reference sign (" " ++ toString m.handles), { m with handles := m.handles + 1 })

def die (m : Machine) (message : String) : Machine :=
  if m.leaving.isSome then m
  else { m with leaving := some (.died (.ofString (message ++ " at -e line 1.\n"))) }

def endedLike (m : Machine) (e : Shell.Ending) : Machine :=
  { m with shell := m.shell.endedLike e, leaving := some .gone }

def numberOf : OsError → Nat
  | .number n => n.toNat
  | .ofKind _ _ => 5

def withError (m : Machine) (e : OsError) : Machine :=
  { m with errno := numberOf e }

/-! ### Values -/

def operate (m : Machine) (o : String) (a b : Value) : Value × Machine :=
  let whole (f : Int → Int → Int) (g : Binary64 → Binary64 → Binary64) : Value × Machine :=
    match a.numeric, b.numeric with
    | .integer x, .integer y => (Value.ofInteger (f x y), m)
    | x, y => (Value.normalized (g x.float y.float), m)
  let bits (v : Value) : Nat := (v.toInt % 18446744073709551616).toNat
  let compared : Option Ordering :=
    match a.numeric, b.numeric with
    | .integer x, .integer y => some (compare x y)
    | x, y => x.float.compare? y.float
  let texts : Ordering :=
    compare (a.shown.map Char.toNat) (b.shown.map Char.toNat)
  let ordered (o : Option Ordering) : Value :=
    match o with
    | some .lt => .integer (-1)
    | some .eq => .integer 0
    | some .gt => .integer 1
    | none => .undefined
  match o with
  | "+" => whole (· + ·) Binary64.add
  | "-" => whole (· - ·) Binary64.sub
  | "*" => whole (· * ·) Binary64.mul
  | "/" =>
    if b.float.isZero then (.undefined, m.die "Illegal division by zero")
    else match a.numeric, b.numeric with
      | .integer x, .integer y =>
        if x % y = 0 then (.integer (x / y), m) else (.number (a.float.div b.float), m)
      | _, _ => (Value.normalized (a.float.div b.float), m)
  | "%" =>
    let (x, y) := (a.toInt, b.toInt)
    if y = 0 then (.undefined, m.die "Illegal modulus zero")
    else
      let r := x % y
      (.integer (if y < 0 ∧ r ≠ 0 then r + y else r), m)
  | "**" => (Value.normalized (a.float.pow b.float), m)
  | "." => (.text (a.shown ++ b.shown), m)
  | "x" =>
    let k := min (max b.toInt 0).toNat maxLength
    (.text (List.replicate k a.shown).flatten, m)
  | "<<" => (.ofNat (bits a * Nat.pow 2 (min b.toInt.toNat 64) % 18446744073709551616), m)
  | ">>" => (.ofNat (bits a / Nat.pow 2 (min b.toInt.toNat 64)), m)
  | "&" => (.ofNat (bits a &&& bits b), m)
  | "|" => (.ofNat (bits a ||| bits b), m)
  | "^" => (.ofNat (bits a ^^^ bits b), m)
  | "==" => (.ofBool (compared = some .eq), m)
  | "!=" => (.ofBool (compared ≠ some .eq), m)
  | "<" => (.ofBool (compared = some .lt), m)
  | ">" => (.ofBool (compared = some .gt), m)
  | "<=" => (.ofBool (compared = some .lt || compared = some .eq), m)
  | ">=" => (.ofBool (compared = some .gt || compared = some .eq), m)
  | "<=>" => (ordered compared, m)
  | "eq" => (.ofBool (texts == .eq), m)
  | "ne" => (.ofBool (texts != .eq), m)
  | "lt" => (.ofBool (texts == .lt), m)
  | "gt" => (.ofBool (texts == .gt), m)
  | "le" => (.ofBool (texts != .gt), m)
  | "ge" => (.ofBool (texts != .lt), m)
  | "cmp" => (ordered (some texts), m)
  | _ => (.undefined, m.die "Unknown operation")

def formatted (vs : List Value) : List Awk.Value :=
  vs.map fun v => match v with
    | .integer n => .number (.ofInt n)
    | .number x => .number x
    | v => .text v.shown

def filled (format : List Char) (vs : List Value) : List Char :=
  let missing := List.replicate (format.length + 1) Awk.Value.unset
  (Awk.Format.fill? ('g', 15) (format.length + 1) format (formatted vs ++ missing)).getD format

/-! ### Patterns -/

/-- The source of a pattern in the dialect of the system. -/
def patternText : Nat → Bool → List Char → List Char
  | 0, _, t => t
  | _, _, [] => []
  | n + 1, inside, '\\' :: c :: rest =>
    let put (t : String) : List Char := t.toList ++ patternText n inside rest
    match c, inside with
    | 'd', false => put "[0-9]"
    | 'd', true => put "0-9"
    | 'D', false => put "[^0-9]"
    | 'w', true => put "0-9A-Za-z_"
    | 's', true => put " \t\n"
    | 'A', false => put "\\\x60"
    | 'z', false | 'Z', false => put "\\'"
    | 'n', _ => put "\n"
    | 't', _ => put "\t"
    | c, _ => '\\' :: c :: patternText n inside rest
  | n + 1, false, '(' :: '?' :: ':' :: rest => '(' :: patternText n false rest
  | n + 1, false, c :: '?' :: rest =>
    if "*+?\x7d".toList.contains c then c :: patternText n false rest
    else if c = '(' then '(' :: patternText n false ('?' :: rest)
    else c :: patternText n (c = '[') ('?' :: rest)
  | n + 1, inside, c :: rest =>
    if inside then c :: patternText n (c ≠ ']') rest
    else if c = '[' then
      match rest with
      | '^' :: rest => '[' :: '^' :: patternText n true rest
      | rest => '[' :: patternText n true rest
    else c :: patternText n false rest

/-- Whether something is repeated that is not there. -/
def dangles : List Char → Bool
  | '*' :: _ | '+' :: _ | '?' :: _ => true
  | t => inside t
where
  inside : List Char → Bool
    | '\\' :: _ :: rest => inside rest
    | '(' :: '?' :: rest => inside rest
    | '(' :: '*' :: _ | '(' :: '+' :: _ | '|' :: '*' :: _ | '|' :: '+' :: _
    | '|' :: '?' :: _ => true
    | '[' :: _ :: rest => inside rest
    | _ :: rest => inside rest
    | [] => false

def regex? (source : List Char) : Option Shell.Regex :=
  if dangles source then none
  else Shell.Regex.read? ⟨true, true⟩ (patternText source.length false source)

/-- The groups of a pattern that fits between two places. -/
def groupsOf (p q : Shell.Regex.Spot) : List (Nat × List Char) :=
  (0, p.rest.take (p.rest.length - q.rest.length)) :: q.groups

def groupValues (groups : List (Nat × List Char)) (count : Nat) : List Value :=
  (List.range count).map fun k => ((look (k + 1) groups).map Value.text).getD .undefined

def groupCount (source : List Char) : Nat :=
  let rec count : List Char → Nat
    | '\\' :: _ :: rest => count rest
    | '(' :: '?' :: rest => count rest
    | '(' :: rest => 1 + count rest
    | _ :: rest => count rest
    | [] => 0
  count source

def expanded : List Char → List Char
  | a :: '-' :: b :: rest =>
    (List.range (b.toNat + 1 - a.toNat)).map (fun k => Char.ofNat (a.toNat + k)) ++ expanded rest
  | a :: rest => a :: expanded rest
  | [] => []

/-! ### Files and processes -/

/-- The first line of a text, and the rest. -/
def firstLine (t : List Char) : List Char × List Char :=
  let l := t.takeWhile (· ≠ '\n')
  (l ++ (t.drop l.length).take 1, t.drop (l.length + 1))

/-- The first part of a text up to a separator, which belongs to it, and the rest. -/
def upTo (mark : List Char) : List Char → List Char × List Char
  | [] => ([], [])
  | c :: rest =>
    if mark.isPrefixOf (c :: rest) then (mark, (c :: rest).drop mark.length)
    else
      let (l, rest) := upTo mark rest
      (c :: l, rest)

/-- The first record of a text, and the rest. Without a separator, records are paragraphs. -/
def firstRecord (mark t : List Char) : List Char × List Char :=
  if mark = ['\n'] then firstLine t
  else if mark = [] then
    let (l, rest) := upTo ['\n', '\n'] (t.dropWhile (· = '\n'))
    (l, rest.dropWhile (· = '\n'))
  else upTo mark t

def allLines (t : List Char) : List (List Char) :=
  let ls := Tools.lines t
  (List.range ls.length).map fun k =>
    let l := (ls[k]?).getD []
    if k + 1 = ls.length ∧ t.getLast? ≠ some '\n' then l else l ++ ['\n']

/-- What is left to be read of a file. -/
def readerText (m : Machine) (name : String) : Option (List Char) × Machine :=
  match look name m.readers with
  | some t => (some t, m)
  | none =>
    if name = "STDIN" then
      let t := m.shell.input
      (some t, { m with
        shell := m.shell.leaveInput []
        readers := put name t m.readers })
    else if name = "ARGV" then
      let paths := m.array "ARGV"
      let names := if paths.isEmpty then ["-"] else paths.map fun v => String.ofList v.shown
      let (t, shell) := names.foldl (fun (t, s) path =>
        match Tools.textAt s path with
        | (some u, s) => (t ++ u, s)
        | (none, s) => (t, s)) ([], m.shell)
      (some t, { m with shell := shell, readers := put name t m.readers }.setArray "ARGV" [])
    else (none, m)

def readLine (m : Machine) (name : String) : Value × Machine :=
  match m.readerText name with
  | (none, m) | (some [], m) => (.undefined, m)
  | (some t, m) =>
    let (l, rest) := match look "/" m.scalars with
      | some .undefined => (t, [])
      | some v => firstRecord v.shown t
      | none => firstLine t
    (.text l, { m with readers := put name rest m.readers, lineNumber := m.lineNumber + 1 })

def readAll (m : Machine) (name : String) : List Value × Machine :=
  match m.readerText name with
  | (none, m) => ([], m)
  | (some t, m) =>
    let ls := allLines t
    (ls.map .text, { m with
      readers := put name [] m.readers
      lineNumber := m.lineNumber + ls.length })

def say (m : Machine) (t : List Char) : Machine :=
  { m with shell := m.shell.say (String.ofList t) }

/-- Writes to an open file; nothing if there is none. -/
def writeTo? (m : Machine) (name : String) (t : List Char) : Option Machine :=
  if name = "STDOUT" then some (m.say t)
  else if name = "STDERR" then some m
  else match m.writers.find? fun w => w.name = name with
    | none => none
    | some w =>
      if w.isCommand then
        some { m with writers := m.writers.map fun v =>
          if v.name = name then { v with pending := v.pending ++ t } else v }
      else match Tools.written m.shell (String.ofList w.path) true t with
        | .ok shell => some { m with shell := shell }
        | .error _ => none

def needsShell (t : List Char) : Bool :=
  t.any fun c => "$&*()\x7b\x7d[]'\";\\|?<>~\x60\n".toList.contains c

def commandOf (vs : List Value) : List String :=
  match vs with
  | [v] =>
    let t := v.shown
    if needsShell t then ["/bin/sh", "-c", String.ofList t]
    else ((t.splitBy fun a b => Tools.isBlank a == Tools.isBlank b).filter fun w =>
      !(w.head?.any Tools.isBlank)).map String.ofList
  | vs => vs.map fun v => String.ofList v.shown

def statusOf : Shell.Ending → Int
  | .exited code => Int.ofNat code * 256
  | .killed signal => Int.ofNat signal

/-- Runs a command. One that cannot be started has an error. -/
def runCommand (launch : Tools.Launch) (m : Machine) (command : List String) : Int × Machine :=
  match Shell.Lookup.reach m.shell (command.headD "") with
  | .error code =>
    (-1, { m with errno := if code = Shell.Lookup.notFound then 2 else 13, status := -1 })
  | .ok _ =>
    let (ending, shell) := launch command m.shell
    let status := statusOf ending
    (status, { m with shell := { shell with streams := m.shell.streams }, status := status })

def outputOf (launch : Tools.Launch) (m : Machine) (command : List String) :
    List Char × Machine :=
  let (stream, piped) := m.shell.pipe []
  let (_, after) := runCommand launch { m with shell := piped.connect 1 stream } command
  let shell := { after.shell with streams := m.shell.streams }
  match stream with
  | .pipe n =>
    let (t, shell) := shell.drain n
    (t, { after with shell := shell })
  | _ => ([], { after with shell := shell })

def close (launch : Tools.Launch) (m : Machine) (name : String) : Bool × Machine :=
  match m.writers.find? fun w => w.name = name with
  | some w =>
    let m := { m with writers := m.writers.filter fun v => v.name ≠ name }
    if w.isCommand then
      let (stream, piped) := m.shell.pipe w.pending
      let (status, after) := runCommand launch { m with shell := piped.connect 0 stream }
        (commandOf [.text w.path])
      (status = 0, { after with shell := { after.shell with streams := m.shell.streams } })
    else (true, m)
  | none =>
    if m.readers.any fun r => r.1 = name then
      (true, { m with readers := m.readers.filter fun r => r.1 ≠ name })
    else (false, { m with errno := 9 })

/-- The error number that opening a file leaves behind, as it is no terminal. -/
def noTerminal : Nat := 25

def openFile (launch : Tools.Launch) (m : Machine) (name mode : String) (path : List Char) :
    Bool × Machine :=
  let p := String.ofList path
  let m := { m with
    readers := m.readers.filter fun r => r.1 ≠ name
    writers := m.writers.filter fun w => w.name ≠ name }
  let place := m.shell.system.files.lookup m.shell.directory p
  match mode with
  | "<" | "+<" =>
    match (m.shell.textOf? p), place with
    | some t, _ => (true, { m with
        readers := (name, t.toList) :: m.readers
        errno := noTerminal })
    | none, .ok (_, .directory) => (true, { m with
        readers := (name, []) :: m.readers
        errno := noTerminal })
    | none, .ok _ => (true, { m with readers := (name, []) :: m.readers, errno := noTerminal })
    | none, .error e => (false, m.withError e)
  | ">" | ">>" | "+>" =>
    match m.shell.system.files.placeToWrite m.shell.directory p with
    | .error e => (false, m.withError e)
    | .ok _ =>
      match Tools.written m.shell p (mode = ">>") [] with
      | .ok shell => (true, { m with
          shell := shell
          writers := ⟨name, path, false, []⟩ :: m.writers
          errno := noTerminal })
      | .error e => (false, m.withError e)
  | "|-" =>
    match Shell.Lookup.reach m.shell ((commandOf [.text path]).headD "") with
    | .ok _ => (true, { m with writers := ⟨name, path, true, []⟩ :: m.writers })
    | .error _ => (false, { m with errno := 2 })
  | "-|" =>
    let (t, after) := m.outputOf launch (commandOf [.text path])
    if after.status = -1 then (false, { m with errno := 2 })
    else (true, { after with readers := (name, t) :: after.readers })
  | _ => (false, { m with errno := 22 })

def modeOf (t : List Char) : String × List Char :=
  let trim (t : List Char) : List Char :=
    let t := t.dropWhile Tools.isBlank
    (t.reverse.dropWhile Tools.isBlank).reverse
  match trim t with
  | '>' :: '>' :: rest => (">>", trim rest)
  | '+' :: '<' :: rest => ("<", trim rest)
  | '>' :: rest => (">", trim rest)
  | '<' :: rest => ("<", trim rest)
  | '|' :: rest => ("|-", trim rest)
  | t => if t.getLast? = some '|' then ("-|", trim t.dropLast) else ("<", t)

/-- The name of the file that a value stands for. -/
def handleName (v : Value) : String :=
  match v with
  | .handle n => n
  | v => String.ofList v.shown

/-- Lets time pass, up to the signal from the clock. -/
def sleep (m : Machine) (nanoseconds : Nat) : Machine :=
  let until_ := m.shell.system.clock + nanoseconds
  match m.alarm with
  | some t =>
    if t ≤ until_ then
      let shell := m.shell.spend (t - m.shell.system.clock)
      let pending := (shell.identity.pid, 14) :: shell.system.signals
      { m with
        alarm := none
        shell := { shell with system := { shell.system with signals := pending } } }
    else { m with shell := m.shell.spend nanoseconds }
  | none => { m with shell := m.shell.spend nanoseconds }

def takeSignals (m : Machine) : List Nat × Machine :=
  let own (p : UInt32 × Nat) : Bool := p.1 = m.shell.identity.pid
  let system := m.shell.system
  ((system.signals.filter own).map (·.2),
    { m with shell := { m.shell with system := { system with
        signals := system.signals.filter fun p => !own p } } })

end Machine

end AgentLaunch.Perl
