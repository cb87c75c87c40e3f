import AgentLaunch.Perl.Functions

/-!
# Running scripts

The number that the functions take bounds how deep they call each other; a script that goes deeper
ends as one that has used up its stack.
-/

namespace AgentLaunch.Perl

open Tools (Launch)

namespace Machine

/-- Ends as one that has used up its stack. -/
def overflow (m : Machine) : Machine :=
  m.endedLike (.killed 11)

/-- Takes turns as long as they say so; and whether they could go on for ever. -/
def turns (turn : Machine → Machine × Bool) : Nat → Machine → Machine × Bool
  | 0, m => (m, true)
  | n + 1, m =>
    match turn m with
    | (m, true) => turns turn n m
    | (m, false) => (m, false)

def maxTurns : Nat := 100000

/-- The machine after a turn of a loop with a name, and whether there is another one. -/
def afterTurn (label : String) (m : Machine) : Machine × Bool :=
  match m.leaving with
  | none => (m, true)
  | some (.continued l) =>
    if l = "" ∨ l = label then ({ m with leaving := none }, true) else (m, false)
  | some (.broken l) =>
    (if l = "" ∨ l = label then { m with leaving := none } else m, false)
  | some _ => (m, false)

/-- Puts a value into a list that is in order. -/
def inserted (isLess : Value → Value → Machine → Bool × Machine) (v : Value) :
    List Value → Machine → List Value × Machine
  | [], m => ([v], m)
  | w :: rest, m =>
    let (less, m) := isLess v w m
    if less then (v :: w :: rest, m)
    else
      let (vs, m) := inserted isLess v rest m
      (w :: vs, m)

def sorted (isLess : Value → Value → Machine → Bool × Machine) (vs : List Value) (m : Machine) :
    List Value × Machine :=
  vs.foldl (fun (ws, m) v => inserted isLess v ws m) ([], m)

def pairs : List Value → List (List Char × Value) → List (List Char × Value)
  | k :: v :: rest, t => pairs rest (put_last k.shown v t)
  | [k], t => put_last k.shown .undefined t
  | [], t => t

/-- All places where a pattern fits a text. The number bounds how many there are. -/
def allFits (fold : Bool) (r : Shell.Regex) :
    Nat → Shell.Regex.Spot → List (Shell.Regex.Spot × Shell.Regex.Spot)
  | 0, _ => []
  | n + 1, p =>
    match Shell.Regex.search? fold r (p.rest.length + 1) { p with groups := [] } with
    | none => []
    | some (p, q) =>
      if q.rest.length < p.rest.length then (p, q) :: allFits fold r n q
      else if p.rest = [] then [(p, q)]
      else (p, q) :: allFits fold r n p.step

/-- The parts of a text between the places that a pattern fits. -/
def splitAt (r : Shell.Regex) (limit : Nat) (t : List Char) : List (List Char) :=
  let rec go : Nat → Nat → Shell.Regex.Spot → List (List Char)
    | 0, _, p => [p.rest]
    | n + 1, k, p =>
      if limit ≠ 0 ∧ k + 1 ≥ limit then [p.rest]
      else match (allFits false r (p.rest.length + 1) p).find? fun (q, e) =>
          q.rest.length < p.rest.length || e.rest.length < q.rest.length with
        | none => [p.rest]
        | some (q, e) =>
          if q.rest = [] then [p.rest]
          else p.rest.take (p.rest.length - q.rest.length) :: go n (k + 1) e
  if t = [] then [] else go (t.length + 1) 0 ⟨[], t, []⟩

def withoutLastEmpty (ts : List (List Char)) : List (List Char) :=
  (ts.reverse.dropWhile (· = [])).reverse

/-- Whether an expression is a list when something is assigned to it. -/
def isListTarget : Expr → Bool
  | .array _ | .table _ | .list _ => true
  | .behind sign _ => sign ≠ '$'
  | .my vs several => several || vs.any fun v => match v with
      | .array _ | .table _ => true
      | _ => false
  | .builtin f _ => f = "slice" || f = "entries"
  | _ => false

/-- Characters that become others: the new text and how many there were. -/
def translated (source goal flags t : List Char) : List Char × Nat :=
  let source := expanded source
  let goal := expanded goal
  let complement := flags.contains 'c'
  let deletes := flags.contains 'd'
  let goal := if goal = [] ∧ !deletes then source else goal
  let isMeant (c : Char) : Bool := source.contains c != complement
  let mapped (c : Char) : List Char :=
    let k := if complement then goal.length else source.idxOf c
    match goal[k]? with
    | some d => [d]
    | none => if deletes then [] else if complement then [(goal.getLast?).getD c]
        else [(goal.getLast?).getD c]
  (t.flatMap fun c => if isMeant c then mapped c else [c], (t.filter isMeant).length)

def stepped (up : Bool) (v : Value) : Value :=
  match v.numeric with
  | .integer n => .ofInteger (if up then n + 1 else n - 1)
  | n => .number (n.float.add (.ofInt (if up then 1 else -1)))

def range (a b : Value) : List Value :=
  match a, b with
  | .text s, .text t =>
    match s, t with
    | [x], [y] =>
      if x.isDigit then numbers a b
      else (List.range (y.toNat + 1 - x.toNat)).map fun k => .text [Char.ofNat (x.toNat + k)]
    | _, _ => numbers a b
  | a, b => numbers a b
where
  numbers (a b : Value) : List Value :=
    let count := (b.toInt + 1 - a.toInt).toNat
    (List.range (min count maxLength)).map fun k => .integer (a.toInt + Int.ofNat k)

def fileTest (letter : Char) (path : List Char) (m : Machine) : Value × Machine :=
  let p := String.ofList path
  let m := match Tools.found? m.shell p with
    | .ok _ => m
    | .error e => m.withError e
  match letter with
  | 's' =>
    let size := ((m.shell.textOf? p).map fun t => t.utf8ByteSize).getD 0
    (if size > 0 then .ofNat size else .ofBool false, m)
  | 'z' =>
    (.ofBool (Shell.Test.unary m.shell "-e" p && !Shell.Test.unary m.shell "-s" p), m)
  | 'l' => (.ofBool (Shell.Test.unary m.shell "-L" p), m)
  | 't' => (.ofBool false, m)
  | 'M' | 'A' | 'C' => (if m.errno = 2 then .undefined else .number (.ofQuotient false 1 100000), m)
  | c => (.ofBool (Shell.Test.unary m.shell (String.ofList ['-', c]) p), m)

/-- Ends as one that never ends by itself. -/
def endless (m : Machine) : Machine :=
  { m with shell := m.shell.endless, leaving := some .gone }

def fit (isList : Bool) (target : Option Expr) (t source flags : List Char) (m : Machine) :
    List Value × Machine :=
  let name : String := match target with
    | none => "_"
    | some (.scalar v) => v
    | some _ => ""
  let fold := flags.contains 'i'
  match regex? source with
  | none => ([], m.die "Invalid pattern")
  | some r =>
    let start : Shell.Regex.Spot := ⟨[], t, []⟩
    if flags.contains 'g' then
      if isList then
        let places := allFits fold r (t.length + 2) start
        let count := groupCount source
        let vs := places.flatMap fun (p, q) =>
          if count = 0 then [.text (p.rest.take (p.rest.length - q.rest.length))]
          else groupValues (groupsOf p q) count
        let m := match places.getLast? with
          | some (p, q) => { m with groups := groupsOf p q }
          | none => m
        (vs, m)
      else
        let begun := (look name m.positions).getD 0
        let p : Shell.Regex.Spot := ⟨(t.take begun).reverse, t.drop begun, []⟩
        match Shell.Regex.search? fold r (t.length + 1) p with
        | some (p, q) =>
          let behind := if q.before.length > begun then q.before.length
            else q.before.length + 1
          one (.ofBool true) { m with
            groups := groupsOf p q
            positions := put name behind m.positions }
        | none => one (.ofBool false) { m with
            positions := m.positions.filter fun e => e.1 ≠ name }
    else match Shell.Regex.find? fold r t with
      | some (p, q) =>
        let groups := groupsOf p q
        let count := groupCount source
        (if isList ∧ count > 0 then groupValues groups count else [.integer 1],
          { m with groups := groups })
      | none => (if isList then [] else [.ofBool false], m)

end Machine

open Machine

mutual

/-- The values of an expression: any number of them if a list is asked for, otherwise one. -/
def eval (launch : Launch) : Nat → Bool → Expr → Machine → List Value × Machine
  | 0, _, _, m => ([], m.overflow)
  | n + 1, isList, e, m =>
    if m.leaving.isSome then ([], m)
    else match e with
    | .value v => ([v], m)
    | .joined parts =>
      let (t, m) := textOf launch n parts m
      one (.text t) m
    | .scalar v => one (m.get v) m
    | .array v => if isList then (m.array v, m) else one (.ofNat (m.array v).length) m
    | .table v =>
      let entries := m.table v
      if isList then (entries.flatMap fun e => [.text e.1, e.2], m)
      else one (.ofNat entries.length) m
    | .lastIndex v => one (.integer (Int.ofNat (m.array v).length - 1)) m
    | .item v i =>
      let (k, m) := scalar launch n i m
      one (m.item v k.toInt) m
    | .entry v k =>
      let (k, m) := scalar launch n k m
      one (m.entry v k.shown) m
    | .behind .. | .itemBehind .. | .entryBehind .. =>
      let (e, m) := resolved launch n e m
      eval launch n isList e m
    | .my vars _ => one .undefined (vars.foldl (fun m v => m.hide false v) m)
    | .list es =>
      if isList then evalAll launch n es m
      else es.foldl (fun (_, m) e => eval launch n false e m) ([.undefined], m)
    | .infix_ o a b => operation launch n isList o a b m
    | .logical o a b =>
      let (v, m) := scalar launch n a m
      if m.leaving.isSome then ([], m)
      else match o with
        | "&&" => if v.holds then eval launch n isList b m else one v m
        | "||" => if v.holds then one v m else eval launch n isList b m
        | "//" => if v.isDefined then one v m else eval launch n isList b m
        | _ =>
          let (w, m) := scalar launch n b m
          one (.ofBool (v.holds != w.holds)) m
    | .not e =>
      let (v, m) := scalar launch n e m
      one (.ofBool !v.holds) m
    | .negative e =>
      let (v, m) := scalar launch n e m
      match v with
      | .text (c :: t) =>
        if Parse.isNameStart c then one (.text ('-' :: c :: t)) m
        else
          let (v, m) := m.operate "-" (.integer 0) v
          one v m
      | v =>
        let (v, m) := m.operate "-" (.integer 0) v
        one v m
    | .conditional c yes no =>
      let (v, m) := scalar launch n c m
      eval launch n isList (if v.holds then yes else no) m
    | .step before up target =>
      let (v, m) := scalar launch n target m
      let new := stepped up v
      let m := assign launch n target new m
      one (if before then new else if v.isDefined then v else .integer 0) m
    | .assign o target value => assignment launch n isList o target value m
    | .fits target pattern flags =>
      let (v, m) := match target with
        | some t => scalar launch n t m
        | none => (m.get "_", m)
      let (source, m) := textOf launch n pattern m
      fit isList target v.shown source flags m
    | .substitute target pattern by_ flags =>
      let goal := target.getD (.scalar "_")
      let goal := match goal with
        | .assign "" t _ => t
        | t => t
      let (_, m) := match target with
        | some (.assign o t v) => eval launch n false (.assign o t v) m
        | _ => ([], m)
      let (v, m) := scalar launch n (match goal with
        | .my [x] false => x
        | t => t) m
      let goal := match goal with
        | .my [x] false => x
        | t => t
      let (source, m) := textOf launch n pattern m
      match regex? source with
      | none => ([], m.die "Invalid pattern")
      | some r =>
        let fold := flags.contains 'i'
        let t := v.shown
        let places := allFits fold r (t.length + 2) ⟨[], t, []⟩
        let places := if flags.contains 'g' then places else places.take 1
        if places = [] then one (if flags.contains 'r' then v else .ofBool false) m
        else
          let (front, behind, m) := places.foldl (fun (front, last, m) (p, q) =>
            let m := { m with groups := groupsOf p q }
            let (new, m) := textOf launch n by_ m
            let kept := t.drop last |>.take (p.before.length - last)
            (front ++ kept ++ new, q.before.length, m)) (([] : List Char), 0, m)
          let new := front ++ t.drop behind
          if flags.contains 'r' then one (.text new) m
          else one (.ofNat places.length) (assign launch n goal (.text new) m)
    | .translate target source goal flags =>
      let place := target.getD (.scalar "_")
      let (v, m) := scalar launch n place m
      let (new, k) := translated source goal flags v.shown
      if flags.contains 'r' then one (.text new) m
      else if new = v.shown then one (.ofNat k) m
      else one (.ofNat k) (assign launch n place (.text new) m)
    | .call f args =>
      let (vs, m) := evalAll launch n args m
      if m.leaving.isSome then ([], m)
      else match look f m.program.functions with
        | some body => callBody launch n isList body vs m
        | none => ([], m.die ("Undefined subroutine &main::" ++ f ++ " called"))
    | .callValue f args =>
      let (v, m) := scalar launch n f m
      let (vs, m) := evalAll launch n args m
      callValue launch n isList v vs m
    | .builtin f args => builtin launch n isList f args m
    | .print word sink args =>
      let (name, m) : String × Machine := match sink with
        | some e =>
          let (v, m) := scalar launch n e m
          (handleName v, m)
        | none => ("STDOUT", m)
      let (vs, m) := evalAll launch n (if args.isEmpty then [.scalar "_"] else args) m
      if m.leaving.isSome then ([], m)
      else
        let between := (m.get ",").shown
        let t := if word = "printf" then filled (first vs).shown vs.tail
          else between.intercalate (vs.map Value.shown) ++ (m.get "\\").shown ++
            (if word = "say" then ['\n'] else [])
        match m.writeTo? name t with
        | some m => one (.integer 1) m
        | none => one .undefined { m with errno := 9 }
    | .lambda k => one (.code k) m
    | .withBlock word k args => withBlock launch n isList word k args m
    | .readLine source =>
      let (name, m) : String × Machine := match source with
        | some e =>
          let (v, m) := scalar launch n e m
          (handleName v, m)
        | none => ("ARGV", m)
      if isList then m.readAll name
      else
        let (v, m) := m.readLine name
        one v m
    | .command parts =>
      let (t, m) := textOf launch n parts m
      let (out, m) := outputOf launch m (commandOf [.text t])
      let m := receive launch n m
      if isList then ((allLines out).map .text, m) else one (.text out) m
    | .fileTest letter (.fileTest first e) =>
      let (w, m) := scalar launch n (.fileTest first e) m
      if !w.holds then one w m
      else
        let (v, m) := scalar launch n (tested e) m
        let (v, m) := fileTest letter v.shown m
        one v m
    | .fileTest letter e =>
      let (v, m) := scalar launch n e m
      let (v, m) := fileTest letter v.shown m
      one v m

where
  tested : Expr → Expr
    | .fileTest _ e => tested e
    | e => e

def scalar (launch : Launch) : Nat → Expr → Machine → Value × Machine
  | 0, _, m => (.undefined, m.overflow)
  | n + 1, e, m =>
    let (vs, m) := eval launch n false e m
    ((vs.getLast?).getD .undefined, m)

def evalAll (launch : Launch) : Nat → List Expr → Machine → List Value × Machine
  | 0, _, m => ([], m.overflow)
  | n + 1, es, m =>
    es.foldl (fun (vs, m) e =>
      let (ws, m) := eval launch n true e m
      (vs ++ ws, m)) ([], m)

def textOf (launch : Launch) : Nat → List Expr → Machine → List Char × Machine
  | 0, _, m => ([], m.overflow)
  | n + 1, es, m =>
    es.foldl (fun (t, m) e =>
      let (v, m) := scalar launch n e m
      (t ++ v.shown, m)) ([], m)

def operation (launch : Launch) :
    Nat → Bool → String → Expr → Expr → Machine → List Value × Machine
  | 0, _, _, _, _, m => ([], m.overflow)
  | n + 1, isList, o, a, b, m =>
    match o, a with
    | "..", a =>
      let (v, m) := scalar launch n a m
      let (w, m) := scalar launch n b m
      if isList then (range v w, m) else one (.ofBool (v.holds || w.holds)) m
    | "x", .list es =>
      if isList then
        let (vs, m) := evalAll launch n es m
        let (k, m) := scalar launch n b m
        ((List.replicate (min k.toInt.toNat maxLength) vs).flatten, m)
      else
        let (v, m) := scalar launch n a m
        let (k, m) := scalar launch n b m
        let (v, m) := m.operate o v k
        one v m
    | o, a =>
      let (v, m) := scalar launch n a m
      let (w, m) := scalar launch n b m
      if m.leaving.isSome then ([], m)
      else
        let (v, m) := m.operate o v w
        one v m

def assign (launch : Launch) : Nat → Expr → Value → Machine → Machine
  | 0, _, _, m => m.overflow
  | n + 1, e, v, m =>
    if m.leaving.isSome then m
    else match e with
    | .behind .. | .itemBehind .. | .entryBehind .. =>
      let (e, m) := resolved launch n e m
      assign launch n e v m
    | .scalar x => m.set x v
    | .item a i =>
      let (k, m) := scalar launch n i m
      m.setItem a k.toInt v
    | .entry t k =>
      let (k, m) := scalar launch n k m
      let m := m.setEntry t k.shown v
      if t = "ENV" then
        let name := String.ofList k.shown
        { m with shell := m.shell.bind ⟨name, some (String.ofList v.shown), true, false⟩ }
      else m
    | .my [x] false => assign launch n x v (m.hide false x)
    | .my xs _ => assignAll launch n xs [v] (xs.foldl (fun m x => m.hide false x) m)
    | .array a => m.setArray a [v]
    | .table t => m.setTable t (pairs [v] [])
    | .list es => assignAll launch n es [v] m
    | .lastIndex a =>
      let k := (v.toInt + 1).toNat
      let vs := m.array a
      m.setArray a (vs.take k ++ List.replicate (min k maxLength - vs.length) .undefined)
    | .conditional c yes no =>
      let (w, m) := scalar launch n c m
      assign launch n (if w.holds then yes else no) v m
    | .assign o t e =>
      let (_, m) := eval launch n false (.assign o t e) m
      assign launch n (match t with
        | .my [x] false => x
        | t => t) v m
    | .builtin "substr" (t :: start :: more) =>
      let (w, m) := scalar launch n t m
      let (s, m) := scalar launch n start m
      let (ks, m) := evalAll launch n more m
      match extent? w.shown.length s.toInt (ks.head?.map Value.toInt) with
      | some (a, b) => assign launch n t (.text (w.shown.take a ++ v.shown ++ w.shown.drop b)) m
      | none => m.die "substr outside of string"
    | _ => m

/-- Gives variables values, one after another; an array or a table takes all that are left. -/
def assignAll (launch : Launch) : Nat → List Expr → List Value → Machine → Machine
  | 0, _, _, m => m.overflow
  | _, [], _, m => m
  | n + 1, e :: es, vs, m =>
    let (e, m) := resolved launch n e m
    match e with
    | .builtin "slice" (.array a :: ks) =>
      let (ks, m) := evalAll launch n ks m
      let m := (List.range ks.length).foldl (fun m i =>
        m.setItem a (valueAt ks i).toInt (valueAt vs i)) m
      assignAll launch n es (vs.drop ks.length) m
    | .builtin "entries" (.table t :: ks) =>
      let (ks, m) := evalAll launch n ks m
      let m := (List.range ks.length).foldl (fun m i =>
        m.setEntry t (valueAt ks i).shown (valueAt vs i)) m
      assignAll launch n es (vs.drop ks.length) m
    | .array a => assignAll launch n es [] (m.setArray a vs)
    | .table t => assignAll launch n es [] (m.setTable t (pairs vs []))
    | .my xs _ =>
      assignAll launch n (xs ++ es) vs (xs.foldl (fun m x => m.hide false x) m)
    | .list xs => assignAll launch n (xs ++ es) vs m
    | .builtin "undef" [] => assignAll launch n es vs.tail m
    | e => assignAll launch n es vs.tail (assign launch n e (first vs) m)

/-- An assignment, with the values that it has itself. -/
def assignment (launch : Launch) :
    Nat → Bool → String → Expr → Expr → Machine → List Value × Machine
  | 0, _, _, _, _, m => ([], m.overflow)
  | n + 1, isList, o, target, value, m =>
    if o = "" then
      if isListTarget target then
        let (vs, m) := evalAll launch n [value] m
        if m.leaving.isSome then ([], m)
        else
          let m := assignAll launch n [target] vs m
          if isList then (vs, m) else one (.ofNat vs.length) m
      else
        let (v, m) := scalar launch n value m
        if m.leaving.isSome then ([], m) else one v (assign launch n target v m)
    else
      let (old, m) := scalar launch n target m
      let change (m : Machine) : List Value × Machine :=
        let (v, m) := scalar launch n value m
        if m.leaving.isSome then ([], m) else one v (assign launch n target v m)
      match o with
      | "&&" => if old.holds then change m else one old m
      | "||" => if old.holds then one old m else change m
      | "//" => if old.isDefined then one old m else change m
      | o =>
        match o, target with
        | "x", .array a =>
          let (k, m) := scalar launch n value m
          let vs := (List.replicate (min k.toInt.toNat maxLength) (m.array a)).flatten
          (vs, m.setArray a vs)
        | o, target =>
          let (v, m) := scalar launch n value m
          if m.leaving.isSome then ([], m)
          else
            let (new, m) := m.operate o old v
            one new (assign launch n target new m)

/-- What a reference leads to, as a variable or a part of one. A place without a value gets a new
variable. -/
def resolved (launch : Launch) : Nat → Expr → Machine → Expr × Machine
  | 0, e, m => (e, m.overflow)
  | n + 1, e, m =>
    match e with
    | .behind sign e =>
      let (name, m) := nameBehind launch n sign e m
      match sign with
      | '@' => (.array name, m)
      | '%' => (.table name, m)
      | _ => (.scalar name, m)
    | .itemBehind e i =>
      let (name, m) := nameBehind launch n '@' e m
      (.item name i, m)
    | .entryBehind e k =>
      let (name, m) := nameBehind launch n '%' e m
      (.entry name k, m)
    | e => (e, m)

/-- The name of the variable that a reference leads to. -/
def nameBehind (launch : Launch) : Nat → Char → Expr → Machine → String × Machine
  | 0, _, _, m => ("", m.overflow)
  | n + 1, sign, e, m =>
    let (v, m) := scalar launch n e m
    match v with
    | .reference other name =>
      if other = sign then (name, m) else (name, m.die "Not a reference of that kind")
    | .undefined =>
      match m.fresh sign with
      | (.reference _ name, m) =>
        (name, if Parse.isPlace e then assign launch n e (.reference sign name) m else m)
      | (_, m) => ("", m)
    | v =>
      if v.shown = [] ∨ v.shown.head?.any Char.isDigit then
        ("", m.die "Can't use a string as a reference")
      else (String.ofList v.shown, m)

def callValue (launch : Launch) :
    Nat → Bool → Value → List Value → Machine → List Value × Machine
  | 0, _, _, _, m => ([], m.overflow)
  | n + 1, isList, f, vs, m =>
    if m.leaving.isSome then ([], m)
    else match f with
      | .code k => callBody launch n isList ((m.program.blocks[k]?).getD []) vs m
      | f =>
        let name := String.ofList f.shown
        match look name m.program.functions with
        | some body => callBody launch n isList body vs m
        | none => ([], m.die ("Undefined subroutine &main::" ++ name ++ " called"))

def callBody (launch : Launch) :
    Nat → Bool → List Statement → List Value → Machine → List Value × Machine
  | 0, _, _, _, m => ([], m.overflow)
  | n + 1, isList, body, vs, m =>
    let (old, outer) := (m.array "_", m.asked)
    let (result, after) := execBlock launch n isList body
      { m.setArray "_" vs with asked := some isList }
    let after := { after.setArray "_" old with asked := outer }
    match after.leaving with
    | some (.returned vs) =>
      (if isList then vs else [(vs.getLast?).getD .undefined], { after with leaving := none })
    | _ => (result, after)

/-- Runs statements as a block: the values of the last one. -/
def execBlock (launch : Launch) :
    Nat → Bool → List Statement → Machine → List Value × Machine
  | 0, _, _, m => ([], m.overflow)
  | n + 1, isList, cs, m =>
    let depth := m.shadows.length
    let m := execAll launch n cs.dropLast { m with result := [] }
    let (vs, m) : List Value × Machine := match m.leaving, cs.getLast? with
      | some _, _ | _, none => ([], m)
      | none, some (.evaluate e) => eval launch n isList e m
      | none, some (.choose branches otherwise) =>
        let (body, m) := choice launch n branches otherwise m
        execBlock launch n isList body m
      | none, some c => ([], exec launch n c m)
    (vs, m.bringBack depth)

/-- The statements of the first branch whose condition holds. -/
def choice (launch : Launch) :
    Nat → List (Expr × List Statement) → List Statement → Machine → List Statement × Machine
  | 0, _, _, m => ([], m.overflow)
  | _, [], otherwise, m => (otherwise, m)
  | n + 1, (e, body) :: rest, otherwise, m =>
    let (v, m) := scalar launch n e m
    if m.leaving.isSome then ([], m)
    else if v.holds then (body, m) else choice launch n rest otherwise m

def withBlock (launch : Launch) :
    Nat → Bool → String → Nat → List Expr → Machine → List Value × Machine
  | 0, _, _, _, _, m => ([], m.overflow)
  | n + 1, isList, word, k, args, m =>
    let body := (m.program.blocks[k]?).getD []
    match word with
    | "do" => execBlock launch n isList body m
    | "eval" => caught launch n isList body m
    | word =>
      let (vs, m) := evalAll launch n args m
      let old := m.get "_"
      match word with
      | "map" =>
        let (ws, m) := vs.foldl (fun (ws, m) v =>
          let (us, m) := execBlock launch n true body (m.set "_" v)
          (ws ++ us, m)) ([], m)
        (if isList then ws else [.ofNat ws.length], m.set "_" old)
      | "grep" =>
        let (ws, m) := vs.foldl (fun (ws, m) v =>
          let (us, m) := execBlock launch n false body (m.set "_" v)
          (if ((us.getLast?).getD .undefined).holds then ws ++ [v] else ws, m)) ([], m)
        (if isList then ws else [.ofNat ws.length], m.set "_" old)
      | _ =>
        let (a, b) := (m.get "a", m.get "b")
        let (ws, m) := sorted (fun v w m =>
          let (us, m) := execBlock launch n false body ((m.set "a" v).set "b" w)
          (((us.getLast?).getD .undefined).toInt < 0, m)) vs m
        (ws, (m.set "a" a).set "b" b)

/-- Runs statements whose failure does not end the script. -/
def caught (launch : Launch) :
    Nat → Bool → List Statement → Machine → List Value × Machine
  | 0, _, _, m => ([], m.overflow)
  | n + 1, isList, body, m =>
    let (vs, after) := execBlock launch n isList body m
    match after.leaving with
    | some (.died message) =>
      (if isList then [] else [.undefined],
        { after with leaving := none }.set "@" message)
    | some (.returned vs) =>
      (if isList then vs else [(vs.getLast?).getD .undefined],
        { after with leaving := none }.set "@" (.text []))
    | none => (vs, after.set "@" (.text []))
    | some _ => ([], after)

/-- Runs a text as a script of its own. -/
def runText (launch : Launch) :
    Nat → Bool → List Char → Machine → List Value × Machine
  | 0, _, _, m => ([], m.overflow)
  | n + 1, isList, t, m =>
    match Parse.program? false false [] m.program t with
    | none => (if isList then [] else [.undefined], m.set "@" (.ofString "syntax error\n"))
    | some p =>
      caught launch n isList (p.initial.flatten ++ p.body) { m with program := p }

/-- Receives signals: each one calls what is set for it, or ends the process. -/
def receive (launch : Launch) : Nat → Machine → Machine
  | 0, m => m.overflow
  | n + 1, m =>
    let (signals, m) := m.takeSignals
    signals.foldl (fun m signal =>
      match m.leaving with
      | some .gone => m
      | _ =>
        let name := (Shell.Signal.names[signal]?).getD ""
        let set := if signal = 9 then .undefined else m.entry "SIG" name.toList
        match set.shown, set with
        | _, .code k =>
          (callValue launch n false (.code k) [.ofString name] m).2
        | t, _ =>
          if t = "IGNORE".toList then m
          else if t = [] ∨ t = "DEFAULT".toList then
            if signal ∈ Shell.State.harmless then m else m.endedLike (.killed signal)
          else (callValue launch n false (.text t) [.ofString name] m).2) m

/-- The values of a function of the language. -/
def builtin (launch : Launch) :
    Nat → Bool → String → List Expr → Machine → List Value × Machine
  | 0, _, _, _, m => ([], m.overflow)
  | n + 1, isList, f, args, m =>
    let (args, m) : List Expr × Machine := match args with
      | e :: es =>
        let (e, m) := resolved launch n e m
        (e :: es, m)
      | [] => ([], m)
    match f, args with
    | "newArray", es =>
      let (vs, m) := evalAll launch n es m
      match m.fresh '@' with
      | (.reference _ name, m) => one (.reference '@' name) (m.setArray name vs)
      | (v, m) => one v m
    | "newTable", es =>
      let (vs, m) := evalAll launch n es m
      match m.fresh '%' with
      | (.reference _ name, m) => one (.reference '%' name) (m.setTable name (pairs vs []))
      | (v, m) => one v m
    | "defined", [e] =>
      match e with
      | .call g [] => one (.ofBool (look g m.program.functions).isSome) m
      | .array a => one (.ofBool (m.array a).isEmpty.not) m
      | .table t => one (.ofBool (m.table t).isEmpty.not) m
      | e =>
        let (v, m) := scalar launch n e m
        one (.ofBool v.isDefined) m
    | "defined", [] => one (.ofBool (m.get "_").isDefined) m
    | "scalar", [e] => eval launch n false e m
    | "undef", [e] =>
      one .undefined (match e with
        | .array a => m.setArray a []
        | .table t => m.setTable t []
        | e => assign launch n e .undefined m)
    | "undef", [] => one .undefined m
    | "reference", [.array a] => one (.reference '@' a) m
    | "reference", [.my [.array a] _] => one (.reference '@' a) (m.hide false (.array a))
    | "reference", [.table a] => one (.reference '%' a) m
    | "reference", [.scalar a] => one (.reference '$' a) m
    | "reference", [e] =>
      let (v, m) := scalar launch n e m
      match v, m.fresh '$' with
      | .code k, (_, m) => one (.code k) m
      | v, (.reference _ name, m) => one (.reference '$' name) (m.set name v)
      | v, (_, m) => one v m
    | "code", [e] => eval launch n isList e m
    | "return", es =>
      let (vs, m) := if m.asked = some true then evalAll launch n es m
        else match es with
          | [] => ([], m)
          | es => eval launch n false (.list es) m
      if m.leaving.isSome then ([], m) else ([], { m with leaving := some (.returned vs) })
    | "die", es =>
      let (vs, m) := evalAll launch n es m
      if m.leaving.isSome then ([], m)
      else
        let message := match vs with
          | [.reference sign name] => Value.reference sign name
          | vs => .text (reason "Died" vs)
        let handler := m.entry "SIG" "__DIE__".toList
        let m := if handler.isDefined then
            (callValue launch n false handler [message] m).2
          else m
        if m.leaving.isSome then ([], m) else ([], { m with leaving := some (.died message) })
    | "warn", es =>
      let (vs, m) := evalAll launch n es m
      let handler := m.entry "SIG" "__WARN__".toList
      let m := if handler.isDefined && m.leaving.isNone then
          (callValue launch n false handler [.text (reason "Warning" vs)] m).2
        else m
      one (.integer 1) m
    | "push", .array a :: es =>
      let (vs, m) := evalAll launch n es m
      let all := m.array a ++ vs
      one (.ofNat all.length) (m.setArray a all)
    | "unshift", .array a :: es =>
      let (vs, m) := evalAll launch n es m
      let all := vs ++ m.array a
      one (.ofNat all.length) (m.setArray a all)
    | "pop", es =>
      let a := arrayOf m es
      one ((m.array a).getLast?.getD .undefined) (m.setArray a (m.array a).dropLast)
    | "shift", es =>
      let a := arrayOf m es
      one (first (m.array a)) (m.setArray a (m.array a).tail)
    | "splice", .array a :: es =>
      let (vs, m) := evalAll launch n es m
      let old := m.array a
      let (i, j) := (extent? old.length (first vs).toInt ((vs[1]?).map Value.toInt)).getD
        (old.length, old.length)
      ((old.drop i).take (j - i), m.setArray a (old.take i ++ vs.drop 2 ++ old.drop j))
    | "keys", [.table t] =>
      let keys := (m.table t).map fun e => Value.text e.1
      (if isList then keys else [.ofNat keys.length], m)
    | "values", [.table t] =>
      let vs := (m.table t).map (·.2)
      (if isList then vs else [.ofNat vs.length], m)
    | "keys", [.array a] =>
      let ks := (List.range (m.array a).length).map Value.ofNat
      (if isList then ks else [.ofNat ks.length], m)
    | "values", [.array a] => eval launch n isList (.array a) m
    | "each", [.table t] =>
      let begun := (look ("%" ++ t) m.positions).getD 0
      match (m.table t)[begun]? with
      | some (k, v) => (if isList then [.text k, v] else [.text k],
          { m with positions := put ("%" ++ t) (begun + 1) m.positions })
      | none => (if isList then [] else [.undefined],
          { m with positions := m.positions.filter fun e => e.1 ≠ "%" ++ t })
    | "exists", [.entry t k] =>
      let (k, m) := scalar launch n k m
      one (.ofBool (look k.shown (m.table t)).isSome) m
    | "exists", [.item a i] =>
      let (k, m) := scalar launch n i m
      one (.ofBool ((place? (m.array a) k.toInt).any (· < (m.array a).length))) m
    | "exists", [.call g []] => one (.ofBool (look g m.program.functions).isSome) m
    | "delete", [.entry t k] =>
      let (k, m) := scalar launch n k m
      let old := m.entry t k.shown
      let m := m.setTable t ((m.table t).filter fun e => e.1 ≠ k.shown)
      one old (if t = "ENV" then { m with shell := m.shell.unset (String.ofList k.shown) } else m)
    | "slice", a :: es =>
      let (vs, m) := eval launch n true a m
      let (ks, m) := evalAll launch n es m
      (ks.map fun k => ((place? vs k.toInt).bind (vs[·]?)).getD .undefined, m)
    | "pick", [.list es, .list ks] =>
      let (vs, m) := evalAll launch n es m
      let (ks, m) := evalAll launch n ks m
      (ks.map fun k => ((place? vs k.toInt).bind (vs[·]?)).getD .undefined, m)
    | "entries", .table t :: es =>
      let (ks, m) := evalAll launch n es m
      (ks.map fun k => m.entry t k.shown, m)
    | "chomp", es =>
      let e := es.headD (.scalar "_")
      let cut (v : Value) : Value :=
        .text (if v.shown.getLast? = some '\n' then v.shown.dropLast else v.shown)
      let (k, m) := changed launch n e cut m
      one (.ofNat k) m
    | "chop", es =>
      let (k, m) := changed launch n (es.headD (.scalar "_")) (fun v => .text v.shown.dropLast) m
      one (.ofNat k) m
    | "split", es => splitting launch n isList es m
    | "sort", es =>
      let (vs, m) := evalAll launch n es m
      (vs.mergeSort fun a b => !((b.shown.map Char.toNat) < (a.shown.map Char.toNat)), m)
    | "open", target :: es =>
      let (vs, m) := evalAll launch n es m
      if m.leaving.isSome then ([], m)
      else
        let (name, m) : String × Machine := match target with
          | .value v => (String.ofList v.shown, m)
          | target =>
            let name := "file " ++ toString m.handles
            (name, assign launch n target (.handle name) { m with handles := m.handles + 1 })
        let (mode, path) := match vs with
          | [] => ("<", [])
          | [v] => modeOf v.shown
          | v :: w :: rest =>
            let mode := String.ofList (v.shown.takeWhile fun c => c ≠ ':' && c ≠ ' ')
            (mode, joinedBy (.text [' '] :: w :: rest))
        answer (openFile launch m name mode path)
    | "opendir", target :: es =>
      let (vs, m) := evalAll launch n es m
      match target with
      | .value v => apply launch isList "opendir" (v :: vs) m
      | target =>
        let h := Value.handle ("file " ++ toString m.handles)
        let m := assign launch n target h { m with handles := m.handles + 1 }
        apply launch isList "opendir" (h :: vs) m
    | "eval", [e] =>
      let (v, m) := scalar launch n e m
      runText launch n isList v.shown m
    | "dofile", [e] =>
      let (v, m) := scalar launch n e m
      runFile launch n isList false v m
    | "require", es =>
      let (v, m) := scalar launch n (es.headD (.scalar "_")) m
      match v with
      | .text t =>
        if Parse.modules.contains (String.ofList t) then one (.integer 1) m
        else runFile launch n isList true v m
      | v => one v m
    | "substr", t :: start :: more =>
      let (v, m) := scalar launch n t m
      let (s, m) := scalar launch n start m
      let (vs, m) := evalAll launch n more m
      match extent? v.shown.length s.toInt (vs.head?.map Value.toInt) with
      | none => one .undefined m
      | some (i, j) =>
        let m := match vs[1]? with
          | some w => assign launch n t (.text (v.shown.take i ++ w.shown ++ v.shown.drop j)) m
          | none => m
        one (.text ((v.shown.drop i).take (j - i))) m
    | "sum", es | "sum0", es | "product", es | "max", es | "min", es | "croak", es
    | "join", es | "sprintf", es | "reverse", es | "unlink", es | "kill", es | "chmod", es
    | "chown", es | "utime", es | "exec", es | "system", es | "rename", es | "link", es
    | "symlink", es | "mkdir", es | "waitpid", es | "index", es | "rindex", es | "atan2", es
    | "select", es | "truncate", es =>
      let (vs, m) := evalAll launch n es m
      if m.leaving.isSome then ([], m)
      else
        let (vs, m) := apply launch isList f vs m
        (vs, receive launch n m)
    | f, es =>
      let es := if es.isEmpty ∧ takesTopic f then [.scalar "_"] else es
      let (vs, m) := es.foldl (fun (vs, m) e =>
        let (v, m) := scalar launch n e m
        (vs ++ [v], m)) (([] : List Value), m)
      if m.leaving.isSome then ([], m)
      else
        let (vs, m) := apply launch isList f vs m
        (vs, receive launch n m)
where
  arrayOf (m : Machine) : List Expr → String
    | .array a :: _ => a
    | _ => if m.asked.isNone then "ARGV" else "_"
  takesTopic (f : String) : Bool :=
    ["lc", "uc", "lcfirst", "ucfirst", "length", "chr", "ord", "int", "abs", "sqrt", "sin", "cos",
      "exp", "log", "hex", "oct", "quotemeta", "rmdir", "readlink", "stat", "lstat",
      "ref"].contains f

/-- Changes a variable, or all of an array: how many characters less there are. -/
def changed (launch : Launch) : Nat → Expr → (Value → Value) → Machine → Nat × Machine
  | 0, _, _, m => (0, m.overflow)
  | n + 1, e, f, m =>
    let (e, m) := resolved launch n e m
    match e with
    | .array a =>
      let old := m.array a
      (((old.map fun v => v.shown.length).foldl (· + ·) 0), m.setArray a (old.map f))
    | .my [.array a] _ => changed launch n (.array a) f m
    | .assign o t v =>
      let (_, m) := eval launch n false (.assign o t v) m
      changed launch n (match t with
        | .my [x] _ => x
        | t => t) f m
    | .list [e] => changed launch n e f m
    | e =>
      let (v, m) := scalar launch n e m
      let new := f v
      if v.isDefined then (v.shown.length - new.shown.length, assign launch n e new m) else (0, m)

def splitting (launch : Launch) :
    Nat → Bool → List Expr → Machine → List Value × Machine
  | 0, _, _, m => ([], m.overflow)
  | n + 1, isList, es, m =>
    let separator := es.headD (.value (.text [' ']))
    let (source, m) : List Char × Machine := match separator with
      | .fits none pattern _ => textOf launch n pattern m
      | e =>
        let (v, m) := scalar launch n e m
        (v.shown, m)
    let isPattern := match separator with
      | .fits .. => true
      | _ => false
    let (v, m) := scalar launch n ((es[1]?).getD (.scalar "_")) m
    let (limit, m) := match es[2]? with
      | some e => scalar launch n e m
      | none => (.integer 0, m)
    let words := source = [' '] && !isPattern
    let t := if words then v.shown.dropWhile Tools.isBlank else v.shown
    match regex? (if words then "[ \t\n]+".toList else source) with
    | none => ([], m.die "Invalid pattern")
    | some r =>
      let ts := splitAt r limit.toInt.toNat t
      let ts := if limit.toInt = 0 then withoutLastEmpty ts else ts
      (if isList then ts.map .text else [.ofNat ts.length], m)

def runFile (launch : Launch) :
    Nat → Bool → Bool → Value → Machine → List Value × Machine
  | 0, _, _, _, m => ([], m.overflow)
  | n + 1, isList, required, v, m =>
    let path := String.ofList v.shown
    let isPath := path.startsWith "/" || path.startsWith "./" || path.startsWith "../"
    match if isPath then (Tools.textAt m.shell path).1 else none with
    | none =>
      if required then ([], { m with errno := 2 }.die "Can't locate a file")
      else one .undefined { m with errno := 2 }
    | some t =>
      let (vs, m) := runText launch n isList t m
      let failure := m.get "@"
      if required ∧ failure.holds then
        ([], if m.leaving.isSome then m else { m with leaving := some (.died failure) })
      else if required ∧ m.leaving.isNone ∧ !((vs.getLast?).getD .undefined).holds then
        ([], m.die "The file did not return a true value")
      else (vs, m)

def exec (launch : Launch) : Nat → Statement → Machine → Machine
  | 0, _, m => m.overflow
  | n + 1, c, m =>
    let (label, m) := (m.label, { m with label := "" })
    match c with
    | .nothing => m
    | .named l c => exec launch n c { m with label := l }
    | .evaluate e => (eval launch n false e m).2
    | .block body =>
      let (_, m) := execBlock launch n false body m
      (afterTurn label m).1
    | .choose branches otherwise =>
      let (body, m) := choice launch n branches otherwise m
      (execBlock launch n false body m).2
    | .whileDo e body =>
      let e := awaiting e
      endlessly launch n (fun m =>
        let (v, m) := scalar launch n e m
        if m.leaving.isSome || !v.holds then (m, false)
        else afterTurn label (execBlock launch n false body m).2) m
    | .doWhile body e =>
      endlessly launch n (fun m =>
        let (_, m) := eval launch n false body m
        if m.leaving.isSome then (m, false)
        else
          let (v, m) := scalar launch n e m
          (m, m.leaving.isNone && v.holds)) m
    | .loop start e next body =>
      let depth := m.shadows.length
      let m := match start with
        | some e => (eval launch n false e m).2
        | none => m
      let m := endlessly launch n (fun m =>
        let (v, m) := match e with
          | some e => scalar launch n (awaiting e) m
          | none => (.integer 1, m)
        if m.leaving.isSome || !v.holds then (m, false)
        else
          let (m, goesOn) := afterTurn label (execBlock launch n false body m).2
          if !goesOn then (m, false)
          else match next with
            | some e =>
              let (_, m) := eval launch n false e m
              (m, m.leaving.isNone)
            | none => (m, true)) m
      m.bringBack depth
    | .each key _ values body =>
      let (vs, m) := eval launch n true values m
      let (values, m) := resolved launch n values m
      let alias_ : Option String := match values with
        | .array a | .list [.array a] => some a
        | _ => none
      let old := look key m.scalars
      let (m, _) := (List.range vs.length).foldl (fun (m, goesOn) k =>
        if !goesOn || m.leaving.isSome then (m, false)
        else
          let v := valueAt vs k
          let (_, m) := execBlock launch n false body (m.set key v)
          let m := match alias_ with
            | some a => m.setItem a (Int.ofNat k) (m.get key)
            | none => m
          afterTurn label m) (m, true)
      match old with
      | some v => m.set key v
      | none => { m with scalars := m.scalars.filter fun e => e.1 ≠ key }
where
  /-- A condition that reads lines goes on up to the end. -/
  awaiting (e : Expr) : Expr :=
    match e with
    | .readLine s => .builtin "defined" [.assign "" (.scalar "_") (.readLine s)]
    | .assign "" t (.readLine s) =>
      if isListTarget t then e else .builtin "defined" [.assign "" t (.readLine s)]
    | .assign "" t (.builtin "shift" es) => .assign "" t (.builtin "shift" es)
    | e => e

/-- Takes turns; if they do not end, only a signal from the clock ends them. -/
def endlessly (launch : Launch) : Nat → (Machine → Machine × Bool) → Machine → Machine
  | 0, _, m => m.overflow
  | n + 1, turn, m =>
    match turns turn maxTurns m with
    | (m, false) => m
    | (m, true) =>
      match m.alarm with
      | none => m.endless
      | some t =>
        let m := receive launch n (m.sleep (t - m.shell.system.clock))
        if m.leaving.isSome then m else endlessly launch n turn m

def execAll (launch : Launch) : Nat → List Statement → Machine → Machine
  | 0, _, m => m.overflow
  | n + 1, cs, m => cs.foldl (fun m c => if m.leaving.isSome then m else exec launch n c m) m

end

end AgentLaunch.Perl
