import AgentLaunch.Awk.Format
import AgentLaunch.Awk.Token
import AgentLaunch.Shell.Loop
import AgentLaunch.Tools.Pieces

/-!
# Machines for programs over records

What is known while a program runs: its variables, the record with its fields, and the texts that it
reads from and writes to.
-/

namespace AgentLaunch.Awk

inductive Cell where
  | value (v : Value)
  | table (items : List (List Char × Value))
  /-- A variable of the caller that nothing is known of yet; it becomes a table if this one does. -/
  | passed (n : Nat)

/-- Why a program does not go on with the next statement. -/
inductive Leaving where
  | nextRecord
  | nextFile
  | exited
  | returned (v : Value)
  | broken
  | continued
  | failed

/-- A text that is read piece by piece, and the exit code of the command that it is from. -/
structure Reader where
  name : List Char
  rest : List Char
  code : Nat

/-- A file or a command that is written to. -/
structure Writer where
  name : List Char
  isCommand : Bool
  pending : List Char

structure Machine where
  shell : Shell.State
  functions : List Function
  globals : List (String × Nat)
  locals : List (String × Nat)
  cells : List Cell
  record : List Char
  fields : List Value
  /-- What is left of the file that is read. -/
  current : Option (List Char)
  nextWord : Nat
  sawFile : Bool
  exhausted : Bool
  readers : List Reader
  writers : List Writer
  /-- The ranges in whose middle the record is. -/
  open_ : List Nat
  seed : Value
  code : Nat
  leaving : Option Leaving

namespace Machine

def failed (m : Machine) : Machine :=
  { m with leaving := some .failed, code := 2 }

/-! ### Variables -/

/-- The cell of a name, which is made if there is none yet. -/
def cell (m : Machine) (name : String) : Nat × Machine :=
  match (m.locals.find? fun l => l.1 = name) <|> (m.globals.find? fun g => g.1 = name) with
  | some (_, k) => (k, m)
  | none =>
    let k := m.cells.length
    (k, { m with cells := m.cells ++ [.value .unset], globals := (name, k) :: m.globals })

def put (m : Machine) (k : Nat) (c : Cell) : Machine :=
  { m with cells := m.cells.set k c }

/-- The cell that another one stands for. The number bounds how far away it is. -/
def origin (m : Machine) : Nat → Nat → Nat
  | 0, k => k
  | n + 1, k =>
    match m.cells[k]? with
    | some (.passed j) => origin m n j
    | _ => k

def tableAt (m : Machine) (k : Nat) : List (List Char × Value) :=
  match m.cells[m.origin m.cells.length k]? with
  | some (.table items) => items
  | _ => []

def changeTable (m : Machine) (name : String)
    (change : List (List Char × Value) → List (List Char × Value)) : Machine :=
  let (k, m) := m.cell name
  let k := m.origin m.cells.length k
  m.put k (.table (change (m.tableAt k)))

def table (m : Machine) (name : String) : List (List Char × Value) :=
  let (k, m) := m.cell name
  m.tableAt k

def itemsWith (key : List Char) (v : Value) (items : List (List Char × Value)) :
    List (List Char × Value) :=
  if items.any fun i => i.1 = key then items.map fun i => if i.1 = key then (key, v) else i
  else items ++ [(key, v)]

def stored (m : Machine) (name : String) : Value :=
  let (k, m) := m.cell name
  match m.cells[k]? with
  | some (.value v) => v
  | _ => .unset

def store (m : Machine) (name : String) (v : Value) : Machine :=
  let (k, m) := m.cell name
  m.put k (.value v)

/-- The format for numbers that become texts, by the name of its variable. -/
def format (m : Machine) (name : String) : Char × Nat :=
  Value.formatOf ((m.stored name).shown ('g', 6))

def textOf (m : Machine) (v : Value) : List Char :=
  v.shown (m.format "CONVFMT")

def textNamed (m : Machine) (name : String) : List Char :=
  m.textOf (m.stored name)

/-! ### Fields -/

/-- The parts of a text between the places that an expression fits; an empty place is none. The
number bounds how many there are. -/
def partsBetween (r : Shell.Regex) : Nat → Shell.Regex.Spot → List Char → List (List Char)
  | 0, p, front => [front.reverse ++ p.rest]
  | n + 1, p, front =>
    match Shell.Regex.longest? false r p with
    | some q =>
      if q.rest.length < p.rest.length then front.reverse :: partsBetween r n q []
      else match p.rest with
        | c :: _ => partsBetween r n p.step (c :: front)
        | [] => [front.reverse]
    | none =>
      match p.rest with
      | c :: _ => partsBetween r n p.step (c :: front)
      | [] => [front.reverse]

/-- The parts of a text on both sides of a character. -/
def separated (mark : Char) (t : List Char) : List (List Char) :=
  let (part, later) := t.foldr (fun c (part, later) =>
    if c = mark then ([], part :: later) else (c :: part, later)) ([], [])
  part :: later

/-- The parts of a text between separators: blanks for a blank, single characters for nothing. -/
def parts (separator : List Char) (t : List Char) : Option (List (List Char)) :=
  let isBlank (c : Char) : Bool := c = ' ' || c = '\t' || c = '\n'
  match separator with
  | [' '] => some ((t.splitBy fun a b => isBlank a == isBlank b).filter fun w =>
      !(w.head?.any isBlank))
  | [] => some (t.map fun c => [c])
  | [c] => some (if t = [] then [] else separated c t)
  | source =>
    (Program.regex? source).map fun r =>
      if t = [] then [] else partsBetween r (t.length + 1) ⟨[], t, []⟩ []

/-- Gives the record a text, which is taken apart. -/
def withRecord (m : Machine) (t : List Char) : Machine :=
  let separator := m.textNamed "FS"
  let lines := m.textNamed "RS" = []
  let t' := if lines ∧ separator ≠ [' '] then t.map fun c => if c = '\n' then
      separator.headD ' ' else c else t
  match parts separator t' with
  | some ps => { m with record := t, fields := ps.map .outer }
  | none => m.failed

/-- Puts the record together from its fields. -/
def rebuilt (m : Machine) : Machine :=
  let texts := m.fields.map m.textOf
  { m with record := (m.textNamed "OFS").intercalate texts }

def field (m : Machine) (k : Nat) : Value :=
  if k = 0 then .outer m.record else (m.fields[k - 1]?).getD .unset

def maxField : Int := 32767

def setFieldCount (m : Machine) (n : Nat) : Machine :=
  rebuilt { m with
    fields := m.fields.take n ++ List.replicate (n - m.fields.length) (.outer []) }

def setField (m : Machine) (k : Nat) (v : Value) : Machine :=
  if k = 0 then m.withRecord (m.textOf v)
  else
    let n := max k m.fields.length
    let fields := m.fields ++ List.replicate (n - m.fields.length) (Value.outer [])
    rebuilt { m with fields := fields.set (k - 1) v }

def get (m : Machine) (name : String) : Value :=
  if name = "NF" then .ofNat m.fields.length else m.stored name

def set (m : Machine) (name : String) (v : Value) : Machine :=
  if name = "NF" then
    let n := Value.machineInt v.toNumber
    if n < 0 ∨ n > maxField then m.failed else m.setFieldCount n.toNat
  else m.store name v

/-! ### Input -/

/-- The next record of a text, and what is left. -/
def cut (separator : List Char) (t : List Char) : Option (List Char × List Char) :=
  match separator with
  | [c] =>
    if t = [] then none
    else
      let record := t.takeWhile (· ≠ c)
      some (record, t.drop (record.length + 1))
  | [] =>
    let t := t.dropWhile (· = '\n')
    if t = [] then none
    else
      let rec paragraph : List Char → List Char × List Char
        | '\n' :: '\n' :: rest => ([], rest)
        | ['\n'] => ([], [])
        | c :: rest =>
          let (front, back) := paragraph rest
          (c :: front, back)
        | [] => ([], [])
      some (paragraph t)
  | source =>
    if t = [] then none
    else
      let found := (Program.regex? source).bind fun r => Shell.Regex.find? false r t
      match found with
      | some (p, q) => if q.rest.length < p.rest.length then some (p.before.reverse, q.rest)
          else some (t, [])
      | none => some (t, [])

def count (m : Machine) (name : String) : Machine :=
  m.store name (.number ((m.stored name).toNumber.add (.ofInt 1)))

def assignment? (w : List Char) : Option (String × List Char) :=
  let name := w.takeWhile Token.isNameChar
  match name, w.drop name.length with
  | c :: _, '=' :: value => if c.isDigit then none else some (String.ofList name, value)
  | _, _ => none

/-- A text as it is written in a program, with its escapes. -/
def unescaped (t : List Char) : List Char :=
  let rec go : Nat → List Char → List Char
    | 0, t => t
    | _, [] => []
    | n + 1, '\\' :: rest =>
      match Shell.Format.escape? rest with
      | some (c, rest) => c :: go n rest
      | none => '\\' :: go n rest
    | n + 1, c :: rest => c :: go n rest
  go t.length t

def assignWord (m : Machine) (name : String) (value : List Char) : Machine :=
  m.set name (.outer (unescaped value))

/-- Goes on to the next file. The number bounds how many words there are. -/
def openNext : Nat → Machine → Machine
  | 0, m => { m with exhausted := true }
  | n + 1, m =>
    let words := Value.machineInt (m.stored "ARGC").toNumber
    if Int.ofNat m.nextWord < words then
      let key := (toString m.nextWord).toList
      let w := m.textOf (((m.table "ARGV").find? fun i => i.1 = key).map (·.2) |>.getD .unset)
      let m := { m with nextWord := m.nextWord + 1 }
      match w, assignment? w with
      | [], _ => openNext n m
      | _, some (name, value) => openNext n (m.assignWord name value)
      | w, none =>
        let path := String.ofList w
        let (text?, shell) := Tools.textAt m.shell path
        match text? with
        | some t => { m with
            shell := shell
            current := some t
            sawFile := true }.store "FILENAME" (.text w) |>.store "FNR" (.ofNat 0)
        | none => m.failed
    else if m.sawFile then { m with exhausted := true }
    else { m with
      shell := m.shell.leaveInput []
      current := some m.shell.input
      sawFile := true }

/-- The next record of the files. The number bounds how many of them there are. -/
def nextRecord? : Nat → Machine → Option (List Char) × Machine
  | 0, m => (none, m)
  | n + 1, m =>
    if m.exhausted ∨ m.leaving.isSome then (none, m)
    else match m.current with
      | none =>
        let words := (Value.machineInt (m.stored "ARGC").toNumber).toNat
        nextRecord? n (openNext (words + 2) m)
      | some t =>
        match cut (m.textNamed "RS") t with
        | some (record, rest) =>
          (some record, ({ m with current := some rest }.count "NR").count "FNR")
        | none => nextRecord? n { m with current := none }

def maxFiles : Nat := 10000

/-! ### Output -/

def say (m : Machine) (t : List Char) : Machine :=
  { m with shell := m.shell.say (String.ofList t) }

/-- Writes to a file, which is emptied before it is written to for the first time. -/
def writeTo (m : Machine) (append : Bool) (name t : List Char) : Machine :=
  let path := String.ofList name
  if path = "/dev/stdout" ∨ path = "-" then m.say t
  else if path = "/dev/stderr" then m
  else
    let isOpen := m.writers.any fun w => w.name = name
    match Tools.written m.shell path (append || isOpen) t with
    | .ok shell => { m with
        shell := shell
        writers := if isOpen then m.writers else m.writers ++ [⟨name, false, []⟩] }
    | .error _ => m.failed

def writeToCommand (m : Machine) (name t : List Char) : Machine :=
  if m.writers.any fun w => w.name = name ∧ w.isCommand then
    { m with writers := m.writers.map fun w =>
        if w.name = name ∧ w.isCommand then { w with pending := w.pending ++ t } else w }
  else { m with writers := m.writers ++ [⟨name, true, t⟩] }

def codeOf : Shell.Ending → Nat
  | .exited code => code
  | .killed signal => 256 + signal

def runCommand (launch : Tools.Launch) (m : Machine) (text : List Char) : Nat × Machine :=
  let (ending, shell) := launch ["/bin/sh", "-c", String.ofList text] m.shell
  (codeOf ending, { m with shell := { shell with streams := m.shell.streams } })

/-- Runs a command with what was kept for it. -/
def finishWriter (launch : Tools.Launch) (m : Machine) (w : Writer) : Nat × Machine :=
  if !w.isCommand then (0, m)
  else
    let (stream, piped) := m.shell.pipe w.pending
    let (code, after) := runCommand launch { m with shell := piped.connect 0 stream } w.name
    (code, { after with shell := { after.shell with streams := m.shell.streams } })

def outputOf (launch : Tools.Launch) (m : Machine) (text : List Char) : Reader × Machine :=
  let (stream, piped) := m.shell.pipe []
  let (code, after) := runCommand launch { m with shell := piped.connect 1 stream } text
  let shell := { after.shell with streams := m.shell.streams }
  match stream with
  | .pipe n =>
    let (t, shell) := shell.drain n
    (⟨text, t, code⟩, { after with shell := shell })
  | _ => (⟨text, [], code⟩, { after with shell := shell })

/-- Closes what has a name: the code that the program gets. -/
def close (launch : Tools.Launch) (m : Machine) (name : List Char) : Int × Machine :=
  match m.writers.find? (fun w => w.name = name), m.readers.find? (fun r => r.name = name) with
  | some w, _ =>
    let (code, m) := finishWriter launch { m with
      writers := m.writers.filter fun v => v.name ≠ name } w
    (Int.ofNat code, m)
  | none, some r =>
    (Int.ofNat r.code, { m with readers := m.readers.filter fun v => v.name ≠ name })
  | none, none => (-1, m)

def closeAll (launch : Tools.Launch) (m : Machine) : Machine :=
  m.writers.foldl (fun m w => (finishWriter launch m w).2) { m with writers := [] }

/-- The state of a program that never ends by itself. -/
def endless (m : Machine) : Machine :=
  { m with shell := m.shell.endless, leaving := some .failed }

def turns (turn : Machine → Machine × Bool) : Nat → Machine → Machine
  | 0, m => m.endless
  | n + 1, m =>
    match turn m with
    | (m, true) => turns turn n m
    | (m, false) => m

def maxTurns : Nat := 300000

/-- The machine after a turn of a loop, and whether there is another one. -/
def afterTurn (m : Machine) : Machine × Bool :=
  match m.leaving with
  | none => (m, true)
  | some .continued => ({ m with leaving := none }, true)
  | some .broken => ({ m with leaving := none }, false)
  | some _ => (m, false)

end Machine

end AgentLaunch.Awk
