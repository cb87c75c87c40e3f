import AgentLaunch.Shell.Lookup
import AgentLaunch.Shell.Signal
import AgentLaunch.Tools.Accounts
import AgentLaunch.Tools.Files
import AgentLaunch.Tools.Lines

/-!
# Starters

Tools that run a command which their operands name, in their own process or in new ones.
-/

namespace AgentLaunch.Tools.Starters

open Shell (State Ending)

inductive Outcome where
  | done (s : State)
  | becomes (s : State) (command : List String)

structure Starter where
  letters : String := "+"
  names : String := "help version"
  /-- The exit code for a mistake in the options. -/
  usage : Nat := 125
  rewritten : List String → List String := id
  sound : Given → Bool := fun _ => true
  run : Launch → State → Reading → Outcome

def Starter.start (t : Starter) (launch : Launch) (s : State) (args : List String) : Outcome :=
  let g := Grammar.ofText t.letters t.names
  let r := g.read (t.rewritten args)
  match r.given.find? fun o => g.informs o.key || !t.sound o with
  | some o => .done (s.withStatus (if g.informs o.key then 0 else t.usage))
  | none =>
    if r.mistaken then .done (s.withStatus t.usage) else t.run launch (s.withStatus 0) r

/-- Becomes the command that the operands name, of which there has to be one. -/
def becoming (code : Nat) (s : State) (r : Reading) : Outcome :=
  if r.operands = [] then .done (s.withStatus code) else .becomes s r.operands

/-- Becomes the command that the operands name, or a shell. -/
def becomingOrShell (s : State) (r : Reading) : Outcome :=
  .becomes s (if r.operands = [] then ["/bin/sh"] else r.operands)

def leaving (s : State) (e : Ending) : State :=
  { s with leaving := some (.ended (match e with
    | .exited code => .exited code
    | .killed signal => .exited (128 + signal))), status := e.status }

/-! ### Changes for a command -/

namespace Env

/-- The words of a text in which quotes and backslashes can keep blanks. The number bounds how many
characters there are. -/
def words? : Nat → Option Char → Option (List Char) → List Char → Option (List String)
  | 0, _, _, _ => none
  | _, some _, _, [] => none
  | _, none, word, [] => some (word.map String.ofList).toList
  | n + 1, quote, word, c :: rest =>
    let put (c : Char) (rest : List Char) : Option (List String) :=
      words? n quote (some (word.getD [] ++ [c])) rest
    match quote with
    | some q =>
      if c = q then words? n none (some (word.getD [])) rest
      else if c = '\\' ∧ q = '"' then
        match rest with
        | d :: rest => put d rest
        | [] => none
      else put c rest
    | none =>
      if c = '"' ∨ c = '\'' then words? n (some c) (some (word.getD [])) rest
      else if isBlank c then
        (words? n none none rest).map ((word.map String.ofList).toList ++ ·)
      else if c = '#' ∧ word.isNone then some []
      else if c = '\\' then
        match rest with
        | 'n' :: rest => put '\n' rest
        | 't' :: rest => put '\t' rest
        | 'c' :: _ => some (word.map String.ofList).toList
        | d :: rest => if isBlank d ∨ "\"'\\$#_".toList.contains d then put d rest else none
        | [] => none
      else put c rest

/-- Words with the texts of one option taken apart. A mistake in them becomes one in the options. -/
def rewritten : List String → List String
  | [] => []
  | w :: rest =>
    let apart (t : String) (rest : List String) : List String :=
      match words? (t.length + 2) none none t.toList with
      | some ws => ws ++ rest
      | none => ["-\x00"]
    if !w.startsWith "-" ∨ w = "-" ∨ w = "--" then
      w :: (if w = "-" then rewritten rest else rest)
    else if w.startsWith "-S" ∧ w ≠ "-S" then apart (w.drop 2).toString rest
    else if w.startsWith "--split-string=" then apart (w.drop 15).toString rest
    else match rest with
      | v :: more =>
        if w = "-S" ∨ w = "-vS" ∨ w = "--split-string" then apart v more
        else if w = "-u" ∨ w = "-C" then w :: v :: rewritten more
        else w :: rewritten (v :: more)
      | [] => [w]

def assignment? (w : String) : Option (String × String) :=
  let name := w.toList.takeWhile (· ≠ '=')
  if name.length = w.length then none
  else some (String.ofList name, String.ofList (w.toList.drop (name.length + 1)))

def run (_ : Launch) (s : State) (r : Reading) : Outcome :=
  let clears := r.has "i" || r.operands.head? = some "-"
  let operands := if r.operands.head? = some "-" then r.operands.tail else r.operands
  let assignments := operands.takeWhile fun w => (assignment? w).isSome
  let command := operands.drop assignments.length
  let kept := s.bindings.filter fun b =>
    !clears && !(r.values "u").contains b.name
  let bound := (assignments.filterMap assignment?).foldl (fun s (name, value) =>
    s.bind ⟨name, some value, true, false⟩) { s with bindings := kept }
  let place? := (r.value? "C").map fun d => match found? s d with
    | .ok (place, .directory) => some (State.pathOf place)
    | _ => none
  match command, place? with
  | [], some _ => .done (s.withStatus 125)
  | [], none =>
    .done (s.say (String.join (bound.environment.map fun v =>
      v.1 ++ "=" ++ v.2 ++ String.singleton (lineMark r "0"))))
  | _ :: _, some none => .done (s.withStatus 125)
  | _ :: _, place? =>
    if r.has "0" then .done (s.withStatus 125)
    else .becomes { bound with directory := (place?.join).getD s.directory } command

def starter : Starter where
  letters := "+C:iS:u:v0"
  names := "ignore-environment=i null=0 unset:=u chdir:=C default-signal:: ignore-signal:: " ++
    "block-signal:: list-signal-handling debug=v split-string:=S help version"
  rewritten := rewritten
  sound := ruled [("u", fun t => t ≠ "" && !t.toList.contains '='),
    ("default-signal", fun t => (t.splitOn ",").all fun w => (Shell.Signal.number? w).isSome),
    ("ignore-signal", fun t => (t.splitOn ",").all fun w => (Shell.Signal.number? w).isSome),
    ("block-signal", fun t => (t.splitOn ",").all fun w => (Shell.Signal.number? w).isSome)]
  run := run

end Env

def isInteger (t : String) : Bool :=
  let digits := match unindented t.toList with
    | '-' :: rest | '+' :: rest => rest
    | rest => rest
  digits ≠ [] && digits.all isDigit

namespace Nice

def rewritten (args : List String) : List String :=
  match args with
  | first :: rest =>
    match first.toList with
    | '-' :: c :: d :: more =>
      if isDigit c ∨ ((c = '-' ∨ c = '+') ∧ isDigit d) then
        "-n" :: String.ofList (c :: d :: more) :: rest else args
    | ['-', c] => if isDigit c then "-n" :: String.singleton c :: rest else args
    | _ => args
  | [] => []

def starter : Starter where
  letters := "+n:"
  names := "adjustment:=n help version"
  rewritten := rewritten
  run _ s r :=
    if (r.value? "n").any (!isInteger ·) then .done (s.withStatus 125)
    else if r.operands = [] ∧ r.given = [] then .done (sayLines s ["0"])
    else becoming 125 s r

end Nice

/-- The streams that a mode of buffering can be set for, each with what its mode can be. -/
def stdbuf : Starter where
  letters := "+i:o:e:"
  names := "input:=i output:=o error:=e help version"
  sound :=
    let isSize (t : String) : Bool := Quantity.atLeast "EGkKMPQRTYZ0" 0 t
    ruled [("i", isSize), ("o", fun t => t = "L" || isSize t), ("e", fun t => t = "L" || isSize t)]
  run _ s r := if r.given = [] then .done (s.withStatus 125) else becoming 125 s r

namespace Timeout

def run (launch : Launch) (s : State) (r : Reading) : Outcome :=
  match r.operands with
  | limit :: command :: args =>
    match Duration.read? limit with
    | none => .done (s.withStatus 125)
    | some limit =>
      let (ending, after) := launch (command :: args) s
      let signal := ((r.value? "s").bind Shell.Signal.number?).getD 15
      let spent := after.system.clock - s.system.clock
      match limit with
      | .nanoseconds n =>
        if n > 0 ∧ spent > n ∧ signal ≠ 0 then
          let cut := { after with system := { after.system with clock := s.system.clock + n } }
          .done (if signal = 9 ∧ !r.has "foreground" then cut.endedLike (.killed 9)
            else if r.has "preserve-status" ∨ signal = 9 then leaving cut (.killed signal)
            else cut.withStatus 124)
        else .done (after.endedLike ending)
      | .endless => .done (after.endedLike ending)
  | _ => .done (s.withStatus 125)

def starter : Starter where
  letters := "+k:s:v"
  names := "kill-after:=k signal:=s verbose=v foreground preserve-status help version"
  sound := ruled [("k", fun t => (Duration.read? t).isSome),
    ("s", fun t => (Shell.Signal.number? (t.map Char.toUpper)).isSome)]
  run := run

end Timeout

/-- The first process of its group splits off another one, and does not wait for it by itself. -/
def setsid : Starter where
  letters := "+Vhcfw"
  names := "ctty=c fork=f wait=w version=V help=h"
  usage := 1
  run launch s r :=
    if r.operands = [] then .done (s.withStatus 1)
    else if r.has "f" ∨ s.identity.pid = s.leader then
      let (ending, after) := if r.has "c" then (.exited 1, s) else launch r.operands s
      .done (if r.has "w" then leaving after ending else after.withStatus 0)
    else if r.has "c" then .done (s.withStatus 1)
    else .becomes s r.operands

namespace Flock

def run (launch : Launch) (s : State) (r : Reading) : Outcome :=
  match r.operands with
  | [] => .done (s.withStatus 64)
  | [file] =>
    if file ≠ "" ∧ file.toList.all isDigit then
      .done (s.withStatus (if (s.stream (ofDigits 10 file.toList)).isSome then 0 else 65))
    else .done (s.withStatus 64)
  | file :: command =>
    let opened : Except OsError State := match found? s file with
      | .ok _ => .ok s
      | .error _ => (s.system.files.placeToWrite s.directory file).map fun place => s.store place []
    match opened, command with
    | .error _, _ => .done (s.withStatus 66)
    | .ok s, flag :: rest =>
      if flag = "-c" ∨ flag = "--command" then
        match rest with
        | [text] =>
          let (ending, after) := launch ["/bin/sh", "-c", text] s
          .done (leaving after ending)
        | _ => .done (s.withStatus 64)
      else inside launch s command
    | .ok s, [] => inside launch s command
where
  inside (launch : Launch) (s : State) (command : List String) : Outcome :=
    match Shell.Lookup.reach s (command.headD "") with
    | .error _ => .done (s.withStatus 69)
    | .ok _ =>
      let (ending, after) := launch command s
      .done (leaving after ending)

def starter : Starter where
  letters := "+sexnoFuw:E:hV?"
  names := "shared=s exclusive=x unlock=u nonblocking=n nb=n timeout:=w wait:=w " ++
    "conflict-exit-code:=E close=o no-fork=F verbose help=h version=V"
  usage := 64
  sound := ruled [("E", fun t => isInteger t && (Quantity.count? "" t).any (· ≤ 255)),
    ("w", fun t => (Numeral.read? t.toList).any fun n => n.2 = [])]
  run := run

end Flock

/-! ### Several commands -/

namespace Xargs

/-- The words of a text in which quotes and backslashes can keep blanks. A line can be one word. The
number bounds how many characters there are. -/
def words? (byLine : Bool) : Nat → Option Char → Option (List Char) → List Char →
    Option (List (List String))
  | 0, _, _, _ => none
  | _, some _, _, [] => none
  | _, none, word, [] => some [(word.map String.ofList).toList]
  | n + 1, quote, word, c :: rest =>
    let put (c : Char) (rest : List Char) : Option (List (List String)) :=
      words? byLine n quote (some (word.getD [] ++ [c])) rest
    let close (ls : List (List String)) : List (List String) :=
      match ls with
      | l :: more => ((word.map String.ofList).toList ++ l) :: more
      | [] => [(word.map String.ofList).toList]
    match quote with
    | some q =>
      if c = '\n' then none
      else if c = q then words? byLine n none (some (word.getD [])) rest
      else put c rest
    | none =>
      if c = '"' ∨ c = '\'' then words? byLine n (some c) (some (word.getD [])) rest
      else if c = '\n' then (words? byLine n none none rest).map fun ls => close ([] :: ls)
      else if isBlank c then
        if byLine then (if word.isNone then words? byLine n none none rest else put c rest)
        else (words? byLine n none none rest).map close
      else if c = '\\' then
        match rest with
        | d :: rest => put d rest
        | [] => none
      else put c rest

/-- The character that a text names as the end of words. -/
def delimiter? (t : String) : Option Char :=
  match t.toList with
  | [c] => some c
  | ['\\', c] =>
    ([('n', '\n'), ('t', '\t'), ('0', '\x00'), ('\\', '\\'), ('a', '\x07'), ('b', '\x08'),
      ('f', '\x0c'), ('r', '\r'), ('v', '\x0b')].find? fun p => p.1 = c).map (·.2)
  | '\\' :: 'x' :: digits =>
    if digits ≠ [] ∧ digits.length ≤ 2 ∧ digits.all (digitValue · < 16) then
      some (Char.ofNat (ofDigits 16 digits)) else none
  | '\\' :: digits =>
    if digits ≠ [] ∧ digits.length ≤ 3 ∧ digits.all (digitValue · < 8) then
      some (Char.ofNat (ofDigits 8 digits)) else none
  | _ => none

/-- Cuts a list into parts of a length. The number bounds how many there are. -/
def parts {α : Type} (size : Nat) : Nat → List α → List (List α)
  | 0, _ | _, [] => []
  | n + 1, xs => xs.take size :: parts size n (xs.drop size)

/-- Puts a text in place of its mark in words. -/
def filled (mark t : String) (ws : List String) : List String :=
  ws.map fun w => if mark = "" then w else String.intercalate t (w.splitOn mark)

/-- Runs commands one after another, until one of them says that it is enough. -/
def all (launch : Launch) : State → List (List String) → State
  | s, [] => s
  | s, command :: rest =>
    match Shell.Lookup.reach s (command.headD "") with
    | .error code => s.withStatus code
    | .ok _ =>
      let (ending, after) := launch command s
      match ending with
      | .exited 0 => all launch (after.withStatus s.status) rest
      | .exited 255 => after.withStatus 124
      | .exited _ => all launch (after.withStatus 123) rest
      | .killed _ => after.withStatus 125

def run (launch : Launch) (s : State) (r : Reading) : Outcome :=
  let command := if r.operands = [] then ["echo"] else r.operands
  let mark := r.last? ["I", "i", "L", "l", "n"] |>.bind fun k =>
    if k = "I" ∨ k = "i" then some ((r.value? k).getD "\x7b\x7d") else none
  let separator := match r.last? ["0", "d"] with
    | some "0" => some '\x00'
    | some _ => (r.value? "d").bind delimiter?
    | none => none
  let (text?, s) : Option (List Char) × State := match r.value? "a" with
    | some path => ((s.textOf? path).map String.toList, s)
    | none => (some s.input, s.leaveInput [])
  match text? with
  | none => .done (s.withStatus 1)
  | some t =>
    let lines? : Option (List (List String)) := match separator with
      | some c => some ((partsAt c t).map fun w => [String.ofList w])
      | none => words? mark.isSome (t.length + 1) none none t
    match lines? with
    | none => .done (s.withStatus 1)
    | some ls =>
      let size (ws : List String) : Nat := ws.foldl (fun n w => n + w.utf8ByteSize + 1) 0
      let limit := ((r.value? "s").bind (Quantity.count? "")).getD 100000
      let longest := ls.flatten.foldl (fun n w => max n (w.utf8ByteSize + 1)) 0
      if size command + longest > limit then .done (s.withStatus 1) else
      let ls := ls.filter (· ≠ [])
      let ls := match (r.value? "E") <|> (r.value? "e") with
        | some stop => if separator.isSome ∨ stop = "" then ls
            else ls.map (fun l => l.takeWhile (· ≠ stop)) |>.filter (· ≠ [])
        | none => ls
      let count (k : String) : Option Nat :=
        (r.last? ["I", "i", "L", "l", "n"]).bind fun last =>
          if last = k then some (((r.value? k).bind (Quantity.count? "")).getD 1) else none
      let commands := match mark with
        | some m => ls.flatten.map fun w => filled m w command
        | none =>
          let batches := match count "n", (count "L" <|> count "l") with
            | some n, _ => parts n ls.flatten.length ls.flatten
            | none, some n => (parts n ls.length ls).map List.flatten
            | none, none => if ls.flatten = [] then [] else [ls.flatten]
          if batches = [] ∧ !r.has "r" then [command] else batches.map (command ++ ·)
      .done (all launch s commands)

def starter : Starter where
  letters := "+0a:E:e::i::I:l::L:n:oprs:txP:d:"
  names := "null=0 arg-file:=a delimiter:=d eof::=e replace::=i max-lines::=l max-args:=n " ++
    "open-tty=o interactive=p no-run-if-empty=r max-chars:=s verbose=t show-limits=S exit=x " ++
    "max-procs:=P process-slot-var: version=v help=h"
  usage := 1
  sound := ruled [("n", fun t => (Quantity.count? "" t).any (· ≥ 1)),
    ("L", fun t => (Quantity.count? "" t).any (· ≥ 1)),
    ("l", fun t => (Quantity.count? "" t).any (· ≥ 1)),
    ("P", fun t => (Quantity.count? "" t).isSome), ("d", fun t => (delimiter? t).isSome),
    ("s", fun t => (Quantity.count? "" t).any (· ≥ 1)),
    ("process-slot-var", fun t => !t.toList.contains '=')]
  run := run

end Xargs

namespace RunParts

/-- Whether a name is one of a program that is run. -/
def isPart (name : String) : Bool :=
  name ≠ "" && name.toList.all fun c => (c.isAlphanum && c.toNat < 128) || c = '_' || c = '-'

def run (launch : Launch) (s : State) (r : Reading) : Outcome :=
  match r.operands with
  | [path] =>
    match found? s path with
    | .ok (place, .directory) =>
      let names := (s.system.files.names place).filter isPart
      let names := if r.has "reverse" then names.reverse else names
      let parts := names.map (path ++ "/" ++ ·)
      if r.has "list" then .done (sayLines s parts)
      else
        let runnable := parts.filter (Shell.Lookup.isRunnable s)
        if r.has "test" then .done (sayLines s runnable)
        else .done (runnable.foldl (fun s part =>
          if s.status ≠ 0 ∧ r.has "exit-on-error" then s
          else
            let (ending, after) := launch (part :: r.values "a") s
            match ending with
            | .exited 0 => after.withStatus s.status
            | _ => after.withStatus 1) s)
    | _ => .done (s.withStatus 1)
  | _ => .done (s.withStatus 1)

def starter : Starter where
  letters := "u:ha:vV"
  names := "test list verbose=v debug=d report reverse umask:=u arg:=a help=h version=V " ++
    "lsbsysinit regex: stdin exit-on-error new-session"
  usage := 1
  sound := ruled [("u", fun t => t ≠ "" && t.toList.all fun c => digitValue c < 8)]
  run := run

end RunParts

/-! ### Plain ones -/

def architectures : List String :=
  ["uname26", "linux32", "linux64", "i386", "i486", "i586", "i686", "athlon", "x86_64"]

def archLetters : String := "+hVv3BFILRSTXZ"

def archNames : String :=
  "help=h version=V verbose=v addr-no-randomize=R fdpic-funcptrs=F mmap-page-zero=Z " ++
    "addr-compat-layout=L read-implies-exec=X 32bit=B short-inode=I whole-seconds=S " ++
    "sticky-timeouts=T 3gb=3 4gb uname-2.6 list"

def setarch : Starter where
  letters := archLetters
  names := archNames
  usage := 1
  rewritten args := match args with
    | first :: rest => if architectures.contains first then rest else
        if first.startsWith "-" ∧ first ≠ "-" then args else ["-\x00"]
    | [] => ["-\x00"]
  run _ s r := if r.has "list" then .done s else becomingOrShell s r

def posing : Starter where
  letters := archLetters
  names := archNames
  usage := 1
  run _ s r := if r.has "list" then .done s else becomingOrShell s r

def ionice : Starter where
  letters := "+n:c:p:P:u:tVh"
  names := "classdata:=n class:=c help=h ignore=t pid:=p pgid:=P uid:=u version=V"
  usage := 1
  sound := ruled [("n", Quantity.atLeast "" 0),
    ("c", fun t => ["0", "1", "2", "3"].contains t || ["none", "realtime", "best-effort",
      "idle"].contains (t.map Char.toLower))]
  run _ s r :=
    let isThere (t : String) : Bool := t = "0" || t = "1" || t = toString s.identity.pid.toNat
    if r.has "p" then
      .done (if ((r.value? "p").toList ++ r.operands).all isThere then s else s.withStatus 1)
    else if r.has "P" then .done (s.withStatus 1)
    else if r.has "u" then .done s
    else if r.operands = [] ∧ !r.hasAny ["c", "n"] then .done s
    else becoming 1 s r

def taskset : Starter where
  letters := "+apchV"
  names := "all-tasks=a pid=p cpu-list=c help=h version=V"
  usage := 1
  run _ s r :=
    let isFine (mask : String) : Bool :=
      if r.has "c" then (mask.splitOn ",").all isCpus
      else
        let digits := if mask.startsWith "0x" then mask.toList.drop 2 else mask.toList
        digits.all (fun c => digitValue c < 16 || c = ',') &&
          digits.any fun c => digitValue c % 16 > 0
    let isThere (t : String) : Bool := t = "0" || t = "1" || t = toString s.identity.pid.toNat
    match r.operands with
    | [pid] => .done (if r.has "p" ∧ isThere pid then s else s.withStatus 1)
    | mask :: command :: args =>
      if !isFine mask then .done (s.withStatus 1)
      else if r.has "p" then .done (if isThere command then s else s.withStatus 1)
      else .becomes s (command :: args)
    | [] => .done (s.withStatus 1)
where
  /-- Whether a text names some of the first processors. -/
  isCpus (t : String) : Bool :=
    match t.splitOn "-" with
    | [a] => (Quantity.count? "" a).any (· < 4)
    | [a, b] =>
      match Quantity.count? "" a, Quantity.count? "" ((b.splitOn ":").headD "") with
      | some m, some n => m ≤ n && m < 4
      | _, _ => false
    | _ => false

def chrt : Starter where
  letters := "+abdD:fiphmoP:T:rRvV"
  names := "all-tasks=a batch=b deadline=d fifo=f idle=i pid=p help=h max=m other=o rr=r " ++
    "sched-runtime:=T sched-period:=P sched-deadline:=D reset-on-fork=R verbose=v version=V"
  usage := 1
  run _ s r :=
    let isReal := !r.hasAny ["o", "b", "i", "d"]
    let isFine (priority : Nat) : Bool :=
      if isReal then 1 ≤ priority && priority ≤ 99 else priority = 0 && !r.has "d"
    if r.has "m" then .done s
    else match r.operands with
      | priority :: command :: args =>
        if r.has "p" then .done (s.withStatus 1)
        else if (Quantity.count? "" priority).any isFine then .becomes s (command :: args)
        else .done (s.withStatus 1)
      | _ => .done (s.withStatus 1)

def prlimit : Starter where
  letters := "+c::d::e::f::i::l::m::n::q::r::s::t::u::v::x::y::p:o:vVh"
  names := "pid:=p output:=o as::=v core::=c cpu::=t data::=d fsize::=f locks::=x memlock::=l " ++
    "msgqueue::=q nice::=e nofile::=n nproc::=u rss::=m rtprio::=r rttime::=y sigpending::=i " ++
    "stack::=s version=V help=h noheadings raw verbose"
  usage := 1
  run _ s r := if r.operands = [] then .done s else becoming 1 s r

def setpriv : Starter where
  letters := "+dhV"
  names := "dump=d nnp no-new-privs=nnp inh-caps: ambient-caps: list-caps ruid: euid: rgid: " ++
    "egid: reuid: regid: clear-groups keep-groups init-groups groups: bounding-set: securebits: " ++
    "pdeathsig: selinux-label: apparmor-profile: help=h reset-env version=V"
  usage := 1
  run _ s r :=
    if r.has "d" then .done (if r.operands = [] ∧ r.given.length = 1 then s else s.withStatus 1)
    else if r.has "list-caps" then
      .done (if r.operands = [] ∧ r.given.length = 1 then s else s.withStatus 1)
    else becoming 1 s r

/-- Without privileges, a process cannot leave the spaces that it shares with others. -/
def unshare : Starter where
  letters := "+fhVmuinpCTUrR:w:S:G:c"
  names := "help=h version=V mount::=m uts::=u ipc::=i net::=n pid::=p user::=U cgroup::=C " ++
    "time::=T fork=f kill-child:: mount-proc:: map-user: map-users: map-group: map-groups: " ++
    "map-root-user=r map-current-user=c map-auto propagation: setgroups: keep-caps setuid:=S " ++
    "setgid:=G root:=R wd:=w monotonic: boottime:"
  usage := 1
  run _ s r :=
    if r.hasAny ["m", "u", "i", "n", "p", "C", "T", "U", "r", "c", "S", "G", "R"] then
      .done (s.withStatus 1)
    else becomingOrShell s r

def nsenter : Starter where
  letters := "+ahVt:m::u::i::n::p::C::U::T::S:G:r::w::W::eFZ"
  names := "all=a help=h version=V target:=t mount::=m uts::=u ipc::=i net::=n pid::=p user::=U " ++
    "cgroup::=C time::=T setuid:=S setgid:=G root::=r wd::=w wdns::=W env=e no-fork=F " ++
    "preserve-credentials follow-context=Z"
  usage := 1
  run _ s r := if r.given ≠ [] then .done (s.withStatus 1) else becomingOrShell s r

def nohup : Starter where
  run _ s r := becoming 125 s r

def script : Starter where
  letters := "aB:c:eE:fI:O:o:qm:T:t::Vh"
  names := "append=a command:=c echo:=E return=e flush=f force log-in:=I log-out:=O log-io:=B " ++
    "log-timing:=T logging-format:=m output-limit:=o quiet=q timing::=t version=V help=h"
  usage := 1
  sound := ruled [("E", isChoice ["auto", "always", "never"])]
  run launch s r :=
    match r.operands with
    | _ :: _ :: _ => .done (s.withStatus 1)
    | operands =>
      match s.openForWriting? 9 (r.has "a") (operands.headD "typescript") with
      | none => .done (s.withStatus 1)
      | some opened =>
        match r.value? "c" with
        | none => .done (opened.close 9)
        | some text =>
          let (ending, after) := launch ["/bin/sh", "-c", text] (opened.close 9)
          .done (if r.has "e" then leaving after ending else after.withStatus 0)

namespace Su

/-- The shell of a user. A user who does not log in has none that runs anything. -/
def shellOf (user : List String) : String :=
  match user[6]? with
  | some path => if path = "" then "/bin/sh" else path
  | none => "/bin/sh"

/-- Runs a shell as a user. Only the superuser can do so without a word to tell who it is. -/
def run (launch : Launch) (s : State) (r : Reading) : Outcome :=
  let (isLogin, operands) := match r.operands with
    | "-" :: rest => (true, rest)
    | operands => (r.has "l", operands)
  match Accounts.user? s (operands.headD "root") with
  | none => .done (s.withStatus 1)
  | some user =>
    let isKnown := (r.values "g" ++ r.values "G").all fun g => (Accounts.group? s g).isSome
    if s.identity.uid ≠ 0 ∨ user.head? ≠ some (operands.headD "root") ∨ !isKnown then
      .done (s.withStatus 1)
    else
      let keeps := r.hasAny ["p", "m"] && !isLogin
      let shell := (r.value? "s").getD
        (if keeps then (s.value? "SHELL").getD (shellOf user) else shellOf user)
      if shell.endsWith "/nologin" then .done (s.withStatus 1) else
      let home := (user[5]?).getD "/"
      let bound := if keeps then s
        else (s.bind ⟨"HOME", some home, true, false⟩).bind ⟨"SHELL", some shell, true, false⟩
      let placed := if isLogin ∧ isDirectory s home then { bound with directory := home } else bound
      let text := match r.value? "c" with
        | some t => ["-c", t]
        | none => []
      let (ending, after) := launch (shell :: text ++ operands.drop 1) placed
      .done (leaving { after with directory := s.directory } ending)

def starter : Starter where
  letters := "c:fg:G:lmpPs:hVw:"
  names := "command:=c session-command:=c fast=f login=l preserve-environment=p shell:=s " ++
    "group:=g supp-group:=G pty=P whitelist-environment:=w help=h version=V"
  usage := 1
  run := run

end Su

def table : List (String × Starter) :=
  [("env", Env.starter), ("nice", Nice.starter), ("nohup", nohup), ("stdbuf", stdbuf),
    ("timeout", Timeout.starter), ("setsid", setsid), ("flock", Flock.starter),
    ("xargs", Xargs.starter), ("run-parts", RunParts.starter), ("setarch", setarch),
    ("i386", posing), ("linux32", posing), ("linux64", posing), ("x86_64", posing),
    ("ionice", ionice), ("taskset", taskset), ("chrt", chrt), ("prlimit", prlimit),
    ("setpriv", setpriv), ("unshare", unshare), ("nsenter", nsenter), ("script", script),
    ("su", Su.starter)]

def find? (name : String) : Option Starter :=
  (table.find? fun t => t.1 = name).map (·.2)

end AgentLaunch.Tools.Starters
