import AgentLaunch.Sed.Parse
import AgentLaunch.Shell.Loop
import AgentLaunch.Tools.Pieces

/-!
# Running scripts for lines

A line is read into the pattern space, the commands of the script are run on it, and what it has
become is written. Another space keeps text from one line to the next.
-/

namespace AgentLaunch.Sed

open Shell (Regex)
open Tools (Launch)

structure EditOptions where
  silent : Bool
  /-- Whether line numbers begin again with each file. -/
  separate : Bool
  /-- Whether files are changed, and what their old ones are called by. -/
  inPlace : Option String
  mark : Char
  posix : Bool

/-- What is written at the end of a cycle. -/
inductive Queued where
  | text (t : List Char)
  | file (path : String)

structure Editor where
  shell : Shell.State
  space : List Char
  hold : List Char
  lineNumber : Nat
  files : List String
  /-- What is left of the file that is read. -/
  lines : List (List Char)
  name : String
  queue : List Queued
  /-- The ranges in whose middle the line is, by the numbers of their commands, with the line at
  which each one ends if that is known. -/
  open_ : List (Nat × Option Nat)
  lastPattern : Option Regex
  /-- Whether anything was replaced since a line was read or since the last jump that asked. -/
  changed : Bool
  /-- The files that are read line by line. -/
  readers : List (String × List (List Char))
  /-- What a file that is changed has become so far. -/
  result : Option (List Char)
  code : Nat

inductive Flow where
  | onto (n : Nat)
  /-- The cycle ends, and what has become of the line is written unless it is not wanted. -/
  | done (writes : Bool)
  /-- A new cycle begins without a new line. -/
  | again
  | quit (writes : Bool)

namespace Editor

def say (e : Editor) (t : List Char) : Editor :=
  match e.result with
  | some r => { e with result := some (r ++ t) }
  | none => { e with shell := e.shell.say (String.ofList t) }

def sayLine (g : EditOptions) (e : Editor) (t : List Char) : Editor :=
  e.say (t ++ [g.mark])

/-- Ends with a failure that is not the script's. -/
def broken (e : Editor) : Editor :=
  { e with code := 4 }

/-- Ends with a code, unless a file could not be read. -/
def leavingWith (e : Editor) (code : Nat) : Editor :=
  { e with code := if e.code = 0 then code % 256 else e.code }

/-! ### Input -/

/-- The file that is changed gets its new text. -/
def storeResult (g : EditOptions) (e : Editor) : Editor :=
  match e.result, g.inPlace with
  | some t, some suffix =>
    let old := (Tools.textAt e.shell e.name).1.getD []
    let saved := if suffix = "" then e.shell
      else (Tools.written e.shell (e.name ++ suffix) false old).toOption.getD e.shell
    { e with
      shell := (Tools.written saved e.name false t).toOption.getD saved
      result := none }
  | _, _ => e

/-- Opens files until there is a line. Directories can be passed over. The number bounds how many
files there are. -/
def openFiles (g : EditOptions) (passes : Bool) : Nat → Editor → Editor
  | 0, e => e
  | n + 1, e =>
    if e.lines ≠ [] ∨ e.code = 4 then e
    else match e.files with
      | [] => e
      | path :: rest =>
        let e := { e.storeResult g with files := rest }
        let changes := g.inPlace.isSome
        let isFile := match Tools.found? e.shell path with
          | .ok (_, .file ..) => true
          | _ => false
        let (text?, shell) := if changes && !isFile then (none, e.shell)
          else Tools.textAt e.shell path
        match text? with
        | some t => openFiles g passes n { e with
            shell := shell
            name := path
            lines := Tools.partsAt g.mark t
            lineNumber := if g.separate then 0 else e.lineNumber
            result := if g.inPlace.isSome then some [] else none }
        | none =>
          if changes && (Tools.found? e.shell path).toOption.isSome then
            openFiles g passes n { e with code := 4 }
          else if Tools.isDirectory e.shell path then
            if passes then openFiles g passes n e
            else e.broken
          else openFiles g passes n { e with code := max 2 e.code }

def ready (g : EditOptions) (passes : Bool) (e : Editor) : Editor :=
  openFiles g passes (e.files.length + 1) e

/-- Whether there is no line behind this one. -/
def isLast (g : EditOptions) (e : Editor) : Bool × Editor :=
  if e.lines ≠ [] then (false, e)
  else if g.separate then (true, e)
  else
    let e := e.ready g true
    (e.lines = [], e)

def takeLine? (g : EditOptions) (e : Editor) : Option (List Char) × Editor :=
  let e := e.ready g false
  match e.lines with
  | l :: rest =>
    if e.code = 4 ∧ g.inPlace.isNone then (none, e)
    else (some l, { e with lines := rest, lineNumber := e.lineNumber + 1 })
  | [] => (none, e)

/-! ### Commands of the system -/

def outputOf (launch : Launch) (e : Editor) (command : List Char) : List Char × Editor :=
  let (stream, piped) := e.shell.pipe []
  let (_, after) := launch ["/bin/sh", "-c", String.ofList command] (piped.connect 1 stream)
  let shell := { after with streams := e.shell.streams }
  match stream with
  | .pipe n =>
    let (t, shell) := shell.drain n
    (t, { e with shell := shell })
  | _ => ([], { e with shell := shell })

def writeFile (g : EditOptions) (e : Editor) (path : String) (t : List Char) : Editor :=
  if path = "/dev/stdout" then e.sayLine g t
  else if path = "/dev/stderr" then e
  else
    match Tools.written e.shell path true (t ++ [g.mark]) with
    | .ok shell => { e with shell := shell }
    | .error _ => e.broken

def writeQueue (e : Editor) : Editor :=
  e.queue.foldl (fun e q =>
    match q with
    | .text t => e.say t
    | .file path =>
      match Tools.textAt e.shell (if path = "/dev/stdin" then "-" else path) with
      | (some t, shell) => { e with shell := shell }.say t
      | (none, _) => e) { e with queue := [] }

/-! ### Addresses -/

/-- The expression of a pattern, which is the last one from then on; and whether there is any. -/
def regexOf? (e : Editor) (p : Pattern) : Option Regex × Editor :=
  match p.regex with
  | some r => (some r, { e with lastPattern := some r })
  | none => (e.lastPattern, e)

def fits (e : Editor) (p : Pattern) : Bool × Editor :=
  match e.regexOf? p with
  | (some r, e) => ((Regex.find? p.fold r e.space).isSome, e)
  | (none, e) => (false, { e with code := 1 })

def isAt (g : EditOptions) (e : Editor) : Address → Bool × Editor
  | .line n => (e.lineNumber = n, e)
  | .step first step =>
    (if step = 0 then e.lineNumber = first
      else first ≤ e.lineNumber && (e.lineNumber - first) % step = 0, e)
  | .last => e.isLast g
  | .fits p => e.fits p

/-- The line at which a range ends that begins here, if that is known. -/
def endLine (e : Editor) : End → Option Nat
  | .address (.line n) => some n
  | .plus n => some (e.lineNumber + n)
  | .multiple n => some (if n = 0 then e.lineNumber else (e.lineNumber + n - 1) / n * n)
  | .address _ => none

/-- Whether a command is for the line. Commands are known by their numbers. -/
def isSelected (g : EditOptions) (k : Nat) (e : Editor) : Selection → Bool × Editor
  | .all => (true, e)
  | .single a => e.isAt g a
  | .range first last =>
    let others := e.open_.filter fun o => o.1 ≠ k
    match e.open_.find? fun o => o.1 = k with
    | some (_, some n) =>
      (e.lineNumber ≤ n, if e.lineNumber ≥ n then { e with open_ := others } else e)
    | some (_, none) =>
      match last with
      | .address a =>
        let (found, e) := e.isAt g a
        (true, if found then { e with open_ := others } else e)
      | _ => (true, e)
    | none =>
      let (found, e) := e.isAt g first
      if !found then (false, e)
      else match e.endLine last with
        | some n =>
          (true, if n ≤ e.lineNumber then e else { e with open_ := (k, some n) :: others })
        | none => (true, { e with open_ := (k, none) :: others })

/-! ### Substitutions -/

/-- What a replacement is while it is put together: the text so far, how letters are changed, and
how the next one is. -/
structure Draft where
  text : List Char
  mode : Case
  once : Case

def Draft.add (d : Draft) (t : List Char) : Draft :=
  let change (c : Case) (x : Char) : Char :=
    match c with
    | .upper | .upperOnce => x.toUpper
    | .lower | .lowerOnce => x.toLower
    | .asIs => x
  match t with
  | [] => d
  | x :: rest =>
    let first := if d.once = .asIs then change d.mode x else change d.once x
    { d with text := d.text ++ first :: rest.map (change d.mode), once := .asIs }

/-- What is put in place of a fitted text. -/
def replacement (ps : List Piece) (fitted : List Char) (q : Regex.Spot) : List Char :=
  (ps.foldl (fun (d : Draft) p =>
    match p with
    | .text t => d.add t
    | .group 0 => d.add fitted
    | .group n => d.add (q.group n)
    | .case .upperOnce => { d with once := .upperOnce }
    | .case .lowerOnce => { d with once := .lowerOnce }
    | .case c => { d with mode := c, once := .asIs }) ⟨[], .asIs, .asIs⟩).text

/-- Replaces what an expression fits from a place on: the new text, and whether anything was
replaced. The number of places that still do not count goes down. The first number bounds how many
characters there are. -/
def replaced (r : Regex) (s : Substitution) :
    Nat → Nat → Bool → Regex.Spot → List Char × Bool
  | 0, _, _, p => (p.rest, false)
  | n + 1, skip, behind, p =>
    let pass (skip : Nat) : List Char × Bool :=
      match p.rest with
      | c :: _ =>
        let (t, found) := replaced r s n skip false p.step
        (c :: t, found)
      | [] => ([], false)
    match Regex.longest? s.pattern.fold r p with
    | none => pass skip
    | some q =>
      let fitted := p.rest.take (p.rest.length - q.rest.length)
      if fitted = [] ∧ behind then pass skip
      else if skip > 0 then
        if fitted = [] then pass (skip - 1)
        else
          let (t, found) := replaced r s n (skip - 1) true { q with groups := [] }
          (fitted ++ t, found)
      else
        let front := replacement s.replacement fitted q
        if !s.everywhere then (front ++ q.rest, true)
        else if fitted = [] then
          match p.rest with
          | c :: _ => (front ++ c :: (replaced r s n 0 false p.step).1, true)
          | [] => (front, true)
        else (front ++ (replaced r s n 0 true { q with groups := [] }).1, true)

def substitute (launch : Launch) (g : EditOptions) (e : Editor) (s : Substitution) : Editor :=
  match e.regexOf? s.pattern with
  | (none, e) => { e with code := 1 }
  | (some r, e) =>
    match replaced r s (e.space.length + 2) (s.number - 1) false ⟨[], e.space, []⟩ with
    | (_, false) => e
    | (t, true) =>
      let e := { e with space := t, changed := true }
      let e := if s.evaluates then
          let (t, e) := e.outputOf launch t
          { e with space := if t.getLast? = some '\n' then t.dropLast else t }
        else e
      let e := if s.prints then e.sayLine g e.space else e
      match s.file with
      | some path => e.writeFile g path e.space
      | none => e

/-! ### Commands -/

def firstLine (e : Editor) : List Char :=
  e.space.takeWhile (· ≠ '\n')

def goalOf (script : List Command) (name : String) : Nat :=
  if name = "" then script.length
  else (script.findIdx? fun c => match c.action with
    | .label n => n = name
    | _ => false).getD script.length

/-- The number of the command behind the block that begins at one. -/
def behindBlock (script : List Command) (k : Nat) : Nat :=
  let rec go : Nat → Nat → List Command → Nat
    | _, n, [] => n
    | depth, n, c :: rest =>
      match c.action, depth with
      | .block, depth => go (depth + 1) (n + 1) rest
      | .close, 1 => n + 1
      | .close, depth => go (depth - 1) (n + 1) rest
      | _, depth => go depth (n + 1) rest
  go 0 k (script.drop k)

/-- Runs a command for a line that it is for. -/
def act (launch : Launch) (g : EditOptions) (script : List Command) (k : Nat) (c : Command)
    (e : Editor) : Flow × Editor :=
  let on (e : Editor) : Flow × Editor := (.onto (k + 1), e)
  match c.action with
  | .block | .close | .label _ | .nothing => on e
  | .equals => on (e.say ((toString e.lineNumber).toList ++ ['\n']))
  | .append t => on { e with queue := e.queue ++ [.text t] }
  | .insert t => on (e.say t)
  | .change t =>
    let inRange := !c.negated && e.open_.any fun o => o.1 = k
    (.done false, if inRange then e else e.say t)
  | .jump name => (.onto (goalOf script name), e)
  | .jumpIfChanged name =>
    if e.changed then (.onto (goalOf script name), { e with changed := false }) else on e
  | .jumpUnlessChanged name =>
    if e.changed then on { e with changed := false } else (.onto (goalOf script name), e)
  | .delete => (.done false, e)
  | .deleteFirst =>
    if e.space.contains '\n' then
      (.again, { e with space := e.space.drop (e.firstLine.length + 1) })
    else (.done false, e)
  | .execute [] =>
    let (t, e) := e.outputOf launch e.space
    on { e with space := if t.getLast? = some '\n' then t.dropLast else t }
  | .execute command =>
    let (t, e) := e.outputOf launch command
    on (e.say t)
  | .showName => on (e.say (e.name.toList ++ ['\n']))
  | .getHold => on { e with space := e.hold }
  | .appendHold => on { e with space := e.space ++ '\n' :: e.hold }
  | .keep => on { e with hold := e.space }
  | .appendKeep => on { e with hold := e.hold ++ '\n' :: e.space }
  | .list => on (e.say (e.space ++ ['$', '\n']))
  | .next =>
    let (last, e) := e.isLast g
    let last := last && (!g.separate || (e.ready g true).lines = [])
    if last then (.quit (!g.posix), e)
    else
      let e := if g.silent then e else e.sayLine g e.space
      match e.writeQueue.takeLine? g with
      | (some l, e) => on { e with space := l }
      | (none, e) => (.quit false, e)
  | .appendNext =>
    let (last, e) := e.isLast g
    let last := last && (!g.separate || (e.ready g true).lines = [])
    if last then (.quit (!g.posix), e)
    else match e.writeQueue.takeLine? g with
      | (some l, e) => on { e with space := e.space ++ '\n' :: l }
      | (none, e) => (.quit true, e)
  | .print => on (e.sayLine g e.space)
  | .printFirst => on (e.sayLine g e.firstLine)
  | .quit code => (.quit true, e.leavingWith code)
  | .quitSilently code => (.quit false, { e.leavingWith code with queue := [] })
  | .readFile path => on { e with queue := e.queue ++ [.file path] }
  | .readLine path =>
    let ls := match e.readers.find? fun r => r.1 = path with
      | some (_, ls) => ls
      | none => Tools.lines ((Tools.textAt e.shell path).1.getD [])
    let others := e.readers.filter fun r => r.1 ≠ path
    match ls with
    | l :: rest => on { e with
        readers := (path, rest) :: others
        queue := e.queue ++ [.text (l ++ ['\n'])] }
    | [] => on { e with readers := (path, []) :: others }
  | .substitute s => on (substitute launch g e s)
  | .writeFile path => on (e.writeFile g path e.space)
  | .writeFirst path => on (e.writeFile g path e.firstLine)
  | .exchange => on { e with space := e.hold, hold := e.space }
  | .translate pairs =>
    on { e with space := e.space.map fun c =>
      ((pairs.find? fun p => p.1 = c).map (·.2)).getD c }
  | .empty => on { e with space := [] }
  | .broken => (.quit false, e.broken)

/-- Runs the commands from one on. The number bounds how many there are. -/
def runFrom (launch : Launch) (g : EditOptions) (script : List Command) :
    Nat → Nat → Editor → Flow × Editor
  | 0, _, e => (.quit false, { e with shell := e.shell.endless })
  | n + 1, k, e =>
    match script[k]? with
    | none => (.done true, e)
    | some c =>
      let (found, e) := e.isSelected g k c.selection
      if e.code = 1 then (.quit false, e)
      else if found = c.negated then
        match c.action with
        | .block => runFrom launch g script n (behindBlock script k) e
        | _ => runFrom launch g script n (k + 1) e
      else match act launch g script k c e with
        | (.onto k, e) =>
          if e.code = 1 ∨ (e.code = 4 ∧ g.inPlace.isNone) then (.quit false, e)
          else runFrom launch g script n k e
        | found => found

/-- How many commands are run for one line at most. -/
def maxSteps : Nat := 200000

/-- Runs cycles. The number bounds how many there are. -/
def cycles (launch : Launch) (g : EditOptions) (script : List Command) :
    Nat → Bool → Editor → Editor
  | 0, _, e => { e with shell := e.shell.endless }
  | n + 1, reads, e =>
    let (line?, e) := if reads then e.takeLine? g else (some e.space, e)
    match line? with
    | none => e
    | some l =>
      let e := if reads then { e with space := l, changed := false } else e
      let (flow, e) := runFrom launch g script maxSteps 0 e
      let finish (writes : Bool) (e : Editor) : Editor :=
        (if writes && !g.silent then e.sayLine g e.space else e).writeQueue
      match flow with
      | .done writes => cycles launch g script n true (finish writes e)
      | .again => cycles launch g script n false e.writeQueue
      | .quit writes => finish writes e
      | .onto _ => e

def maxCycles : Nat := 1000000

/-- The files that a script writes to are made before anything else. -/
def prepared (script : List Command) (e : Editor) : Editor :=
  (script.filterMap fun c => c.action.output?).foldl (fun e path =>
    if path.startsWith "/dev/std" ∨ e.code = 4 then e
    else match Tools.written e.shell path false [] with
      | .ok shell => { e with shell := shell }
      | .error _ => e.broken) e

def edit (launch : Launch) (g : EditOptions) (script : List Command) (files : List String)
    (s : Shell.State) : Editor :=
  let ranges := (List.range script.length).filterMap fun k =>
    match (script[k]?).map (·.selection) with
    | some (.range (.line 0) _) => some (k, none)
    | _ => none
  let e : Editor := {
    shell := s, space := [], hold := [], lineNumber := 0, files := files, lines := []
    name := "-", queue := [], open_ := ranges, lastPattern := none, changed := false
    readers := [], result := none, code := 0 }
  let e := prepared script e
  let missing := script.any fun c => match c.action.goal? with
    | some name => goalOf script name = script.length
    | none => false
  if e.code ≠ 0 then e
  else if missing then e.broken
  else (cycles launch g script maxCycles true e).storeResult g

end Editor

end AgentLaunch.Sed
