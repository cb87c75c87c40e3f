import AgentLaunch.Awk.Machine
import AgentLaunch.Awk.Parse

/-!
# Running programs over records

The number that the functions take bounds how deep they call each other; a program that goes deeper
ends with a failure.
-/

namespace AgentLaunch.Awk

open Tools (Launch)

namespace Machine

/-- A regular expression as a text. One that cannot be read is a failure. -/
def regexOf (m : Machine) (source : List Char) : Option Shell.Regex × Machine :=
  match Program.regex? source with
  | some r => (some r, m)
  | none => (none, m.failed)

def fits (r : Shell.Regex) (t : List Char) : Bool :=
  (Shell.Regex.find? false r t).isSome

/-- What is put in place of a text. -/
def replacement (fitted : List Char) : List Char → List Char
  | '\\' :: '&' :: rest => '&' :: replacement fitted rest
  | '\\' :: '\\' :: rest => '\\' :: replacement fitted rest
  | '&' :: rest => fitted ++ replacement fitted rest
  | c :: rest => c :: replacement fitted rest
  | [] => []

/-- Replaces what an expression fits, once or everywhere: the new text and how often. An empty text
right behind another one that was replaced is left out. The number bounds how many places there
are. -/
def replaced (r : Shell.Regex) (by_ : List Char) (all : Bool) :
    Nat → Bool → Shell.Regex.Spot → List Char × Nat
  | 0, _, p => (p.rest, 0)
  | n + 1, behind, p =>
    let pass : List Char × Nat :=
      match p.rest with
      | c :: _ =>
        let (t, k) := replaced r by_ all n false p.step
        (c :: t, k)
      | [] => ([], 0)
    match Shell.Regex.longest? false r p with
    | none => pass
    | some q =>
      let fitted := p.rest.take (p.rest.length - q.rest.length)
      if fitted = [] ∧ behind then pass
      else
        let front := replacement fitted by_
        if !all then (front ++ q.rest, 1)
        else if fitted = [] then
          match p.rest with
          | c :: _ =>
            let (t, k) := replaced r by_ all n false p.step
            (front ++ c :: t, k + 1)
          | [] => (front, 1)
        else
          let (t, k) := replaced r by_ all n true q
          (front ++ t, k + 1)

/-- The integer nearest to a number, within what a text can have. -/
def position (x : Binary64) : Int :=
  let limit : Int := 1000000000
  match (x.add ((Binary64.ofInt 1).div (.ofInt 2))).ratio? with
  | some (n, d) => max (-limit) (min limit (n / Int.ofNat d))
  | none => if x = .nan then -limit else if x.isNegative then -limit else limit

/-- The characters from one position up to another one. -/
def between (t : List Char) (first last : Int) : List Char :=
  let first := max first 1
  let last := min last (Int.ofNat t.length + 1)
  if last ≤ first then [] else (t.drop (first - 1).toNat).take (last - first).toNat

def functionOf? (name : String) : Option (Binary64 → Binary64) :=
  match name with
  | "sin" => some .sin
  | "cos" => some .cos
  | "exp" => some .exp
  | "log" => some .log
  | "sqrt" => some .sqrt
  | "int" => some .truncate
  | _ => none

/-- The value of a function whose arguments are all values. -/
def apply (launch : Launch) (m : Machine) (name : String) (vs : List Value) : Value × Machine :=
  let text (k : Nat) : List Char := m.textOf ((vs[k]?).getD .unset)
  let number (k : Nat) : Binary64 := ((vs[k]?).getD .unset).toNumber
  match functionOf? name, name with
  | some f, _ => (.number (f (number 0)), m)
  | none, "atan2" => (.number ((number 0).atan2 (number 1)), m)
  | none, "length" =>
    (.ofNat (if vs.isEmpty then m.record.length else (text 0).length), m)
  | none, "index" =>
    let (t, part) := (text 0, text 1)
    match (List.range (t.length + 1)).find? fun k => part.isPrefixOf (t.drop k) with
    | some k => (.ofNat (k + 1), m)
    | none => (.ofNat 0, m)
  | none, "substr" =>
    let t := text 0
    let last := match vs[2]? with
      | some v => position ((number 1).add v.toNumber)
      | none => Int.ofNat t.length + 1
    (.text (between t (position (number 1)) last), m)
  | none, "tolower" => (.text ((text 0).map Char.toLower), m)
  | none, "toupper" => (.text ((text 0).map Char.toUpper), m)
  | none, "sprintf" =>
    match Format.fill? (m.format "CONVFMT") ((text 0).length + 1) (text 0) vs.tail with
    | some t => (.text t, m)
    | none => (.unset, m.failed)
  | none, "system" =>
    let (code, m) := runCommand launch m (text 0)
    (.ofNat code, m)
  | none, "close" =>
    let (code, m) := close launch m (text 0)
    (.ofInt code, m)
  | none, "rand" => (.number ((Binary64.ofInt 1).div (.ofInt 2)), m)
  | none, "srand" =>
    (m.seed, { m with seed := (vs[0]?).getD (.ofNat Tools.clockSeconds) })
  | none, "systime" => (.ofNat Tools.clockSeconds, m)
  | none, "strftime" => (.ofString "Tue Nov 14 22:13:20 2023", m)
  | none, "mktime" => (.ofInt (-1), m)
  | none, _ => (.ofNat 0, m)

end Machine

/-- The value of an operation on numbers. -/
def Arithmetic.apply (o : Arithmetic) (a b : Binary64) : Binary64 :=
  match o with
  | .plus => a.add b
  | .minus => a.sub b
  | .times => a.mul b
  | .divided => a.div b
  | .modulo => a.mod b
  | .power => a.pow b

mutual

def eval (launch : Launch) : Nat → Expr → Machine → Value × Machine
  | 0, _, m => (.unset, m.failed)
  | n + 1, e, m =>
    match e with
    | .number x => (.number x, m)
    | .text t => (.text t, m)
    | .regex t =>
      let (r, m) := m.regexOf t
      (.ofBool (r.any fun r => Machine.fits r m.record), m)
    | .name v => (m.get v, m)
    | .item t es =>
      let (k, m) := keyOf launch n es m
      match (m.table t).find? fun i => i.1 = k with
      | some (_, v) => (v, m)
      | none => (.unset, m.changeTable t (Machine.itemsWith k .unset))
    | .field e =>
      let (v, m) := eval launch n e m
      let k := Value.machineInt v.toNumber
      if k < 0 then (.unset, m.failed) else (m.field k.toNat, m)
    | .assign none target e =>
      let (v, m) := eval launch n e m
      assign launch n target v m
    | .assign (some o) target e =>
      let (b, m) := eval launch n e m
      let (a, m) := eval launch n target m
      assign launch n target (.number (o.apply a.toNumber b.toNumber)) m
    | .step before up target =>
      let (v, m) := eval launch n target m
      let old := v.toNumber
      let new := if up then old.add (.ofInt 1) else old.sub (.ofInt 1)
      let (v, m) := assign launch n target (.number new) m
      (if before then v else .number old, m)
    | .conditional c yes no =>
      let (v, m) := eval launch n c m
      if v.holds then eval launch n yes m else eval launch n no m
    | .either a b =>
      let (v, m) := eval launch n a m
      if v.holds then (.ofNat 1, m)
      else
        let (v, m) := eval launch n b m
        (.ofBool v.holds, m)
    | .both a b =>
      let (v, m) := eval launch n a m
      if v.holds then
        let (v, m) := eval launch n b m
        (.ofBool v.holds, m)
      else (.ofNat 0, m)
    | .not a =>
      let (v, m) := eval launch n a m
      (.ofBool !v.holds, m)
    | .minus a =>
      let (v, m) := eval launch n a m
      (.number v.toNumber.neg, m)
    | .plus a =>
      let (v, m) := eval launch n a m
      (.number v.toNumber, m)
    | .isIn es t =>
      let (k, m) := keyOf launch n es m
      (.ofBool ((m.table t).any fun i => i.1 = k), m)
    | .fits negated a pattern =>
      let (v, m) := eval launch n a m
      let (r, m) := regexFrom launch n pattern m
      (.ofBool ((r.any fun r => Machine.fits r (m.textOf v)) != negated), m)
    | .compare c a b =>
      let (x, m) := eval launch n a m
      let (y, m) := eval launch n b m
      (.ofBool (Value.satisfies c (Value.compare? (m.format "CONVFMT") x y)), m)
    | .concat a b =>
      let (x, m) := eval launch n a m
      let (y, m) := eval launch n b m
      (.text (m.textOf x ++ m.textOf y), m)
    | .arithmetic o a b =>
      let (x, m) := eval launch n a m
      let (y, m) := eval launch n b m
      (.number (o.apply x.toNumber y.toNumber), m)
    | .group a => eval launch n a m
    | .several es =>
      let (vs, m) := evalAll launch n es m
      (.text ((vs.map m.textOf).flatten), m)
    | .builtin f es => builtin launch n f es m
    | .call f es =>
      match m.functions.find? fun g => g.name = f with
      | none => (.unset, m.failed)
      | some g =>
        let (cells, m) := passAll launch n es m
        let missing := List.replicate (g.parameters.length - cells.length) (Cell.value .unset)
        let first := m.cells.length
        let inside := { m with
          cells := m.cells ++ cells ++ missing
          locals := (List.range g.parameters.length).map fun k =>
            ((g.parameters[k]?).getD "", first + k) }
        let after := execAll launch n g.body inside
        let back := { after with locals := m.locals }
        match after.leaving with
        | some (.returned v) => (v, { back with leaving := none })
        | _ => (.unset, back)
    | .readRecord target =>
      match m.nextRecord? Machine.maxFiles with
      | (none, m) => (.ofNat 0, m)
      | (some t, m) => accept launch n target t m
    | .readFile target e =>
      let (v, m) := eval launch n e m
      let name := m.textOf v
      let known := m.readers.any fun r => r.name = name
      let (text?, shell) := if known then (none, m.shell)
        else Tools.textAt m.shell (String.ofList name)
      match known, text? with
      | false, none => (.ofInt (-1), m)
      | true, _ => readFrom launch n target name m
      | false, some t =>
        readFrom launch n target name
          { m with shell := shell, readers := ⟨name, t, 0⟩ :: m.readers }
    | .readCommand target e =>
      let (v, m) := eval launch n e m
      let name := m.textOf v
      let m := if m.readers.any fun r => r.name = name then m
        else
          let (r, m) := Machine.outputOf launch m name
          { m with readers := r :: m.readers }
      readFrom launch n target name m

/-- Reads the next record of a text that is open. -/
def readFrom (launch : Launch) : Nat → Option Expr → List Char → Machine → Value × Machine
  | 0, _, _, m => (.unset, m.failed)
  | n + 1, target, name, m =>
    let rest := ((m.readers.find? fun r => r.name = name).map (·.rest)).getD []
    match Machine.cut (m.textNamed "RS") rest with
    | none => (.ofNat 0, m)
    | some (t, rest) =>
      let m := { m with readers := m.readers.map fun r =>
        if r.name = name then { r with rest := rest } else r }
      accept launch n target t m

/-- Puts a record that was read where it belongs. -/
def accept (launch : Launch) : Nat → Option Expr → List Char → Machine → Value × Machine
  | 0, _, _, m => (.unset, m.failed)
  | n + 1, target, t, m =>
    match target with
    | none => (.ofNat 1, m.withRecord t)
    | some e =>
      let (_, m) := assign launch n e (.outer t) m
      (.ofNat 1, m)

def evalAll (launch : Launch) : Nat → List Expr → Machine → List Value × Machine
  | 0, _, m => ([], m.failed)
  | _, [], m => ([], m)
  | n + 1, e :: es, m =>
    let (v, m) := eval launch n e m
    let (vs, m) := evalAll launch n es m
    (v :: vs, m)

def keyOf (launch : Launch) : Nat → List Expr → Machine → List Char × Machine
  | 0, _, m => ([], m.failed)
  | n + 1, es, m =>
    let (vs, m) := evalAll launch n es m
    ((m.textNamed "SUBSEP").intercalate (vs.map m.textOf), m)

def assign (launch : Launch) : Nat → Expr → Value → Machine → Value × Machine
  | 0, _, _, m => (.unset, m.failed)
  | n + 1, target, v, m =>
    match target with
    | .name name => (v, m.set name v)
    | .item t es =>
      let (k, m) := keyOf launch n es m
      (v, m.changeTable t (Machine.itemsWith k v))
    | .field e =>
      let (index, m) := eval launch n e m
      let k := Value.machineInt index.toNumber
      if k < 0 ∨ k > Machine.maxField then (.unset, m.failed) else (v, m.setField k.toNat v)
    | .group e => assign launch n e v m
    | _ => (v, m)

/-- What the parameters of a function begin with. A name that nothing is known of can become a
table. -/
def passAll (launch : Launch) : Nat → List Expr → Machine → List Cell × Machine
  | 0, _, m => ([], m.failed)
  | _, [], m => ([], m)
  | n + 1, e :: es, m =>
    let (c, m) : Cell × Machine := match e with
      | .name v =>
        if v = "NF" then (.value (m.get v), m)
        else
          let (k, m) := m.cell v
          match m.cells[k]? with
          | some (.value .unset) | some (.table _) | some (.passed _) => (.passed k, m)
          | some c => (c, m)
          | none => (.value .unset, m)
      | e =>
        let (v, m) := eval launch n e m
        (.value v, m)
    let (cs, m) := passAll launch n es m
    (c :: cs, m)

/-- The regular expression that an expression stands for. -/
def regexFrom (launch : Launch) : Nat → Expr → Machine → Option Shell.Regex × Machine
  | 0, _, m => (none, m.failed)
  | n + 1, e, m =>
    match e with
    | .regex t => m.regexOf t
    | e =>
      let (v, m) := eval launch n e m
      m.regexOf (m.textOf v)

def builtin (launch : Launch) : Nat → String → List Expr → Machine → Value × Machine
  | 0, _, _, m => (.unset, m.failed)
  | n + 1, f, es, m =>
    match f, es with
    | "length", [.name v] =>
      let (k, m) := m.cell v
      match m.cells[m.origin m.cells.length k]? with
      | some (.table items) => (.ofNat items.length, m)
      | _ => (.ofNat (m.textOf (m.get v)).length, m)
    | "split", e :: .name t :: more =>
      let (v, m) := eval launch n e m
      let text := m.textOf v
      let (ps, m) : Option (List (List Char)) × Machine := match more with
        | [.regex source] =>
          match m.regexOf source with
          | (some r, m) => (some (if text = [] then [] else
              Machine.partsBetween r (text.length + 1) ⟨[], text, []⟩ []), m)
          | (none, m) => (none, m)
        | [e] =>
          let (separator, m) := eval launch n e m
          (Machine.parts (m.textOf separator) text, m)
        | _ => (Machine.parts (m.textNamed "FS") text, m)
      match ps with
      | none => (.unset, m.failed)
      | some ps =>
        let items := (List.range ps.length).map fun k =>
          ((toString (k + 1)).toList, Value.outer ((ps[k]?).getD []))
        (.ofNat ps.length, m.changeTable t fun _ => items)
    | "match", [e, pattern] =>
      let (v, m) := eval launch n e m
      let (r, m) := regexFrom launch n pattern m
      let found := r.bind fun r => Shell.Regex.find? false r (m.textOf v)
      let (start, length) : Int × Int := match found with
        | some (p, q) =>
          (Int.ofNat p.before.length + 1, Int.ofNat (p.rest.length - q.rest.length))
        | none => (0, -1)
      (.ofInt start, (m.store "RSTART" (.ofInt start)).store "RLENGTH" (.ofInt length))
    | f, es =>
      if f = "sub" ∨ f = "gsub" then
        let (r, m) := regexFrom launch n (es.headD (.number (.zero false))) m
        let (by_, m) := eval launch n ((es[1]?).getD (.number (.zero false))) m
        let target := (es[2]?).getD (.field (.number (.zero false)))
        let (v, m) := eval launch n target m
        match r with
        | none => (.unset, m)
        | some r =>
          let t := m.textOf v
          let start : Shell.Regex.Spot := ⟨[], t, []⟩
          let (new, k) := Machine.replaced r (m.textOf by_) (f = "gsub") (t.length + 2) false start
          if k = 0 then (.ofNat 0, m)
          else
            let (_, m) := assign launch n target (.text new) m
            (.ofNat k, m)
      else
        let (vs, m) := evalAll launch n es m
        m.apply launch f vs

def exec (launch : Launch) : Nat → Statement → Machine → Machine
  | 0, _, m => m.failed
  | n + 1, c, m =>
    match c with
    | .evaluate e => (eval launch n e m).2
    | .print es d =>
      let (vs, m) := evalAll launch n es m
      let texts := vs.map (Value.shown (m.format "OFMT"))
      let t := if es.isEmpty then m.record else (m.textNamed "OFS").intercalate texts
      put launch n d (t ++ m.textNamed "ORS") m
    | .printf es d =>
      let (vs, m) := evalAll launch n es m
      let format := m.textOf (vs.headD .unset)
      match Format.fill? (m.format "CONVFMT") (format.length + 1) format vs.tail with
      | some t => put launch n d t m
      | none => m.failed
    | .choose e yes no =>
      let (v, m) := eval launch n e m
      if m.leaving.isSome then m
      else execAll launch n (if v.holds then yes else no) m
    | .whileDo e body =>
      Machine.turns (fun m =>
        let (v, m) := eval launch n e m
        if m.leaving.isSome || !v.holds then (m, false)
        else (execAll launch n body m).afterTurn) Machine.maxTurns m
    | .doWhile body e =>
      Machine.turns (fun m =>
        let (m, goesOn) := (execAll launch n body m).afterTurn
        if !goesOn then (m, false)
        else
          let (v, m) := eval launch n e m
          (m, m.leaving.isNone && v.holds)) Machine.maxTurns m
    | .loop start e next body =>
      let m := execAll launch n start m
      if m.leaving.isSome then m
      else Machine.turns (fun m =>
        let (v, m) := match e with
          | some e => eval launch n e m
          | none => (.ofNat 1, m)
        if m.leaving.isSome || !v.holds then (m, false)
        else
          let (m, goesOn) := (execAll launch n body m).afterTurn
          if !goesOn then (m, false)
          else
            let m := execAll launch n next m
            (m, m.leaving.isNone)) Machine.maxTurns m
    | .forIn v t body =>
      let keys := (m.table t).map (·.1)
      (keys.foldl (fun (m, goesOn) k =>
        if !goesOn || m.leaving.isSome then (m, false)
        else (execAll launch n body (m.set v (.outer k))).afterTurn) (m, true)).1
    | .next => { m with leaving := some .nextRecord }
    | .nextFile => { m with leaving := some .nextFile }
    | .exit none => { m with leaving := some .exited }
    | .exit (some e) =>
      let (v, m) := eval launch n e m
      if m.leaving.isSome then m
      else
        let code := (Value.machineInt v.toNumber % 256).toNat
        { m with leaving := some .exited, code := code }
    | .return_ e =>
      let (v, m) := match e with
        | some e => eval launch n e m
        | none => (.unset, m)
      if m.leaving.isSome then m else { m with leaving := some (.returned v) }
    | .break_ => { m with leaving := some .broken }
    | .continue_ => { m with leaving := some .continued }
    | .delete t none => m.changeTable t fun _ => []
    | .delete t (some es) =>
      let (k, m) := keyOf launch n es m
      m.changeTable t (·.filter fun i => i.1 ≠ k)

def put (launch : Launch) : Nat → Destination → List Char → Machine → Machine
  | 0, _, _, m => m.failed
  | n + 1, d, t, m =>
    if m.leaving.isSome then m
    else match d with
      | .output => m.say t
      | .file e =>
        let (v, m) := eval launch n e m
        m.writeTo false (m.textOf v) t
      | .append e =>
        let (v, m) := eval launch n e m
        m.writeTo true (m.textOf v) t
      | .command e =>
        let (v, m) := eval launch n e m
        m.writeToCommand (m.textOf v) t

def execAll (launch : Launch) : Nat → List Statement → Machine → Machine
  | 0, _, m => m.failed
  | n + 1, cs, m => cs.foldl (fun m c => if m.leaving.isSome then m else exec launch n c m) m

end

namespace Program

def callDepth : Nat := 2000

/-- Runs a rule for the record, if it waits for one like that. Rules are known by their numbers. -/
def runRule (launch : Launch) (k : Nat) (r : Rule) (m : Machine) : Machine :=
  let act (m : Machine) : Machine :=
    if m.leaving.isSome then m else execAll launch callDepth r.action m
  match r.pattern with
  | .always => act m
  | .when e =>
    let (v, m) := eval launch callDepth e m
    if v.holds then act m else m
  | .range first last =>
    let (begins, m) := if m.open_.contains k then (true, m)
      else
        let (v, m) := eval launch callDepth first m
        (v.holds, m)
    if !begins then m
    else
      let (v, m) := eval launch callDepth last m
      let others := m.open_.filter (· ≠ k)
      act { m with open_ := if v.holds then others else k :: others }

def runRules (launch : Launch) (p : Program) (m : Machine) : Machine :=
  (List.range p.rules.length).foldl (fun m k =>
    match p.rules[k]?, m.leaving with
    | some r, none => runRule launch k r m
    | _, _ => m) m

/-- Goes through the records. The number bounds how many there are. -/
def runRecords (launch : Launch) (p : Program) : Nat → Machine → Machine
  | 0, m => m
  | n + 1, m =>
    match m.nextRecord? Machine.maxFiles with
    | (none, m) => m
    | (some t, m) =>
      let m := runRules launch p (m.withRecord t)
      match m.leaving with
      | none | some .nextRecord => runRecords launch p n { m with leaving := none }
      | some .nextFile => runRecords launch p n { m with leaving := none, current := none }
      | some _ => m

def maxRecords : Nat := 1000000

/-- Runs a program: first what is before all records, then the rules, and last what is behind all
records, even if the program was left before. -/
def run (launch : Launch) (p : Program) (m : Machine) : Machine :=
  let m := execAll launch callDepth p.first m
  let m := if m.leaving.isSome ∨ (p.rules.isEmpty ∧ !p.hasLast) then m
    else runRecords launch p maxRecords m
  let m := match m.leaving with
    | none | some .exited =>
      if p.hasLast then execAll launch callDepth p.last { m with leaving := none } else m
    | some _ => m
  m.closeAll launch

end Program

end AgentLaunch.Awk
