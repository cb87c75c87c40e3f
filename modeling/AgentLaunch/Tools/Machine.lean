import AgentLaunch.Shell.Test
import AgentLaunch.Tools.Pieces

/-!
# Tools for the machine

Tools that tell about the machine and the terminal, and a few that look at places of the file
system.
-/

namespace AgentLaunch.Tools.Machine

open Shell (State)

def uname : Tool where
  letters := "asnrvmpio"
  names := "all=a kernel-name=s sysname=s nodename=n kernel-release=r release=r " ++
    "kernel-version=v machine=m processor=p hardware-platform=i operating-system=o help version"
  run := alone 1 fun s r =>
    let parts := [("s", "Linux"), ("n", "localhost"), ("r", "6.1.0"), ("v", "#1 SMP"),
      ("m", "x86_64"), ("o", "GNU/Linux")]
    let asked := parts.filter fun p => r.has p.1 || r.has "a" || (r.given = [] && p.1 = "s")
    sayLines s [String.intercalate " " (asked.map (·.2))]

def arch : Tool where
  run := alone 1 fun s _ => sayLines s ["x86_64"]

def nproc : Tool where
  names := "all ignore: help version"
  sound := ruled [("ignore", Quantity.atLeast "" 0)]
  run := alone 1 fun s _ => sayLines s ["1"]

/-- The input of a process is no terminal. -/
def tty : Tool where
  letters := "s"
  names := "silent=s quiet=s help version"
  usage := 2
  run := alone 2 fun s r =>
    (if r.has "s" then s else sayLines s ["not a tty"]).withStatus 1

def printenv : Tool where
  letters := "+iu:0"
  names := "null=0 help version"
  usage := 2
  sound g := g.key = "0"
  run s r :=
    let all := s.environment
    let mark := String.singleton (lineMark r "0")
    if r.operands = [] then
      s.say (String.join (all.map fun v => v.1 ++ "=" ++ v.2 ++ mark))
    else r.operands.foldl (fun s name =>
      match all.find? fun v => v.1 = name with
      | some v => s.say (v.2 ++ mark)
      | none => failed 1 s) s

def pwd : Tool where
  letters := "LP"
  names := "logical=L physical=P help version"
  run s _ := sayLines s [s.directory]

def mountpoint : Tool where
  letters := "qdxhV"
  names := "quiet=q nofollow fs-devno=d devno=x help=h version=V"
  run := counted 1 (some 1) 1 fun s r =>
    let path := r.operands.headD ""
    match found? s path with
    | .ok (place, .directory) =>
      if r.has "x" then s.withStatus 32
      else if place = [] ∨ place = ["proc"] ∨ place = ["dev"] ∨ place = ["sys"] then s
      else s.withStatus 32
    | .ok _ => s.withStatus (if r.has "x" then 32 else 32)
    | .error _ => s.withStatus (if (Shell.Test.node? s path).isSome then 32 else 1)

def namei : Tool where
  letters := "ZhVlmnovx"
  names := "help=h version=V mountpoints=x modes=m owners=o long=l nolinks=n vertical=v context=Z"
  run := counted 1 none 1 fun s r =>
    r.operands.foldl (fun s path =>
      if (Shell.Test.node? s path).isSome then sayLines s ["f: " ++ path] else failed 1 s) s

def fallocate : Tool where
  letters := "hvVncpdizxl:o:"
  names := "help=h version=V keep-size=n punch-hole=p collapse-range=c dig-holes=d " ++
    "insert-range=i zero-range=z offset:=o length:=l posix=x verbose=v"
  sound := ruled [("l", Quantity.atLeast "kKmMgGtTPEZY0" 1),
    ("o", Quantity.atLeast "kKmMgGtTPEZY0" 0)]
  run := counted 1 (some 1) 1 fun s r =>
    match (r.value? "l").bind (Quantity.count? "kKmMgGtTPEZY0") with
    | none =>
      if r.has "d" then each 1 (fun s path => do
        match ← found? s path with
        | (_, .file ..) => return s
        | _ => throw .isDirectory) s r.operands
      else s.withStatus 1
    | some n =>
      if r.hasAny ["c", "i"] then s.withStatus 1 else
      let size := n + ((r.value? "o").bind (Quantity.count? "kKmMgGtTPEZY0")).getD 0
      each 1 (Truncate.one ⟨[], [], false⟩ (if r.has "n" then (some '>', 0) else (some '>', size)))
        s r.operands

/-- The words of a text that quotes none of them. -/
def quoted (t : String) : String :=
  "'" ++ String.intercalate "'\\''" (t.splitOn "'") ++ "'"

/-- Reads words by a grammar that is told as an operand, and shows what was found. -/
def getopt (s : State) (args : List String) : State :=
  let own : Grammar := Grammar.ofText "+ao:l:n:qQs:TuhV"
    ("options:=o longoptions:=l quiet=q quiet-output=Q shell:=s test=T unquoted=u help=h " ++
      "alternative=a name:=n version=V")
  let read (letters : String) (longs : List String) (words : List String) (quotes : Bool) : State :=
    let names := longs.flatMap fun l => (l.splitOn ",").flatMap fun w => w.splitOn " "
    let g := Grammar.ofText letters (String.intercalate " " (names.filter (· ≠ "")))
    let r := g.read words
    let shown (t : String) : String := if quotes then quoted t else t
    let options := r.given.flatMap fun o =>
      (if o.key.length = 1 then "-" ++ o.key else "--" ++ o.key) ::
        (o.value.map shown).toList
    sayLines (s.withStatus (if r.mistaken then 1 else 0))
      [" " ++ String.intercalate " " (options ++ "--" :: r.operands.map shown)]
  match args with
  | [] => s.withStatus 2
  | first :: rest =>
    if !first.startsWith "-" then read first [] rest false
    else
      let r := own.read args
      match r.given.find? fun o => o.key = "h" || o.key = "V" || o.key = "T" ||
          (o.key = "s" && !o.value.any ["sh", "bash", "csh", "tcsh"].contains) with
      | some o => s.withStatus (if o.key = "T" then 4 else if o.key = "s" then 2 else 0)
      | none =>
        if r.mistaken then s.withStatus 2
        else match r.value? "o", r.operands with
          | some letters, words => read letters (r.values "l") words (!r.has "u")
          | none, letters :: words => read letters (r.values "l") words (!r.has "u")
          | none, [] => s.withStatus 2

end AgentLaunch.Tools.Machine
