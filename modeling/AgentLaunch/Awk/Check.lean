import AgentLaunch.Awk.Syntax
import AgentLaunch.Shell.Regex

/-!
# Programs that make sense

What is looked at before a program runs: names stand either for one value or for a table, functions
are there and do not get too many arguments, and statements are where they can be.
-/

namespace AgentLaunch.Awk

/-- What a name stands for in one place. -/
structure Use where
  name : String
  isTable : Bool
  deriving DecidableEq

structure Uses where
  names : List Use
  calls : List (String × Nat)
  regexes : List (List Char)

namespace Uses

def none : Uses := ⟨[], [], []⟩

def and (a b : Uses) : Uses :=
  ⟨a.names ++ b.names, a.calls ++ b.calls, a.regexes ++ b.regexes⟩

def value (n : String) : Uses :=
  ⟨[⟨n, false⟩], [], []⟩

def table (n : String) : Uses :=
  ⟨[⟨n, true⟩], [], []⟩

end Uses

mutual

def Expr.uses : Expr → Uses
  | .number _ | .text _ => .none
  | .regex t => ⟨[], [], [t]⟩
  | .name n => .value n
  | .item t es => (Uses.table t).and (usesOfAll es)
  | .field e | .not e | .minus e | .plus e | .group e => e.uses
  | .assign _ a b | .either a b | .both a b | .fits _ a b | .compare _ a b | .concat a b
  | .arithmetic _ a b => a.uses.and b.uses
  | .step _ _ e => e.uses
  | .conditional a b c => (a.uses.and b.uses).and c.uses
  | .isIn es t => (Uses.table t).and (usesOfAll es)
  | .several es => usesOfAll es
  | .builtin f es => usesOfBuiltin f es
  | .call f es => (Uses.mk [] [(f, es.length)] []).and (usesOfArguments es)
  | .readRecord e => usesOfOption e
  | .readFile e p => (usesOfOption e).and p.uses
  | .readCommand e c => (usesOfOption e).and c.uses

def usesOfAll : List Expr → Uses
  | [] => .none
  | e :: es => e.uses.and (usesOfAll es)

/-- The arguments of a function; a name alone can stand for anything. -/
def usesOfArguments : List Expr → Uses
  | [] => .none
  | .name _ :: es => usesOfArguments es
  | e :: es => e.uses.and (usesOfArguments es)

def usesOfBuiltin (f : String) : List Expr → Uses
  | [.name n] => if f = "length" then .none else .value n
  | [a, .name n] =>
    if f = "split" then a.uses.and (.table n) else a.uses.and (.value n)
  | [a, .name n, b] =>
    if f = "split" then (a.uses.and (.table n)).and b.uses
    else (a.uses.and (.value n)).and b.uses
  | es => usesOfAll es

def usesOfOption : Option Expr → Uses
  | Option.none => .none
  | some e => e.uses

end

def Uses.all (us : List Uses) : Uses :=
  us.foldl Uses.and .none

def Destination.uses : Destination → Uses
  | .output => .none
  | .file e | .append e | .command e => e.uses

mutual

def Statement.uses : Statement → Uses
  | .evaluate e => e.uses
  | .print es d | .printf es d => (usesOfAll es).and d.uses
  | .choose c yes no => (c.uses.and (usesOfBlock yes)).and (usesOfBlock no)
  | .whileDo c body | .doWhile body c => c.uses.and (usesOfBlock body)
  | .loop a c b body =>
    ((usesOfBlock a).and (usesOfOption c)).and ((usesOfBlock b).and (usesOfBlock body))
  | .forIn v t body => ((Uses.value v).and (.table t)).and (usesOfBlock body)
  | .exit e | .return_ e => usesOfOption e
  | .delete t es =>
    (Uses.table t).and (match es with
      | some es => usesOfAll es
      | Option.none => .none)
  | .next | .nextFile | .break_ | .continue_ => .none

def usesOfBlock : List Statement → Uses
  | [] => .none
  | s :: rest => s.uses.and (usesOfBlock rest)

end

structure Surroundings where
  inFunction : Bool
  inRule : Bool
  inLoop : Bool

mutual

def Statement.fits (w : Surroundings) : Statement → Bool
  | .choose _ yes no => blockFits w yes && blockFits w no
  | .whileDo _ body | .doWhile body _ | .loop _ _ _ body | .forIn _ _ body =>
    blockFits { w with inLoop := true } body
  | .next | .nextFile => w.inRule
  | .return_ _ => w.inFunction
  | .break_ | .continue_ => w.inLoop
  | _ => true

def blockFits (w : Surroundings) : List Statement → Bool
  | [] => true
  | s :: rest => s.fits w && blockFits w rest

end

namespace Program

/-- The names that stand for tables from the beginning, and those that stand for one value. -/
def given : Uses :=
  ⟨["ARGV", "ENVIRON"].map (⟨·, true⟩) ++ ["NR", "FNR", "NF", "FS", "OFS", "RS", "ORS", "FILENAME",
    "SUBSEP", "RSTART", "RLENGTH", "CONVFMT", "OFMT", "ARGC"].map (⟨·, false⟩), [], []⟩

def consistent (us : List Use) : Bool :=
  us.all fun u => !us.contains ⟨u.name, !u.isTable⟩

def Pattern.uses : Pattern → Uses
  | .always => .none
  | .when e => e.uses
  | .range a b => a.uses.and b.uses

/-- The dialect of regular expressions: braces stand for themselves. -/
def form : Shell.Regex.Form := ⟨true, true⟩

/-- What an expression can go on with. -/
inductive Expected where
  | operand
  | edge
  | anything
  deriving DecidableEq

/-- The source of a regular expression in that dialect, without escapes that only the language has;
nothing if an operand is missing. A closing parenthesis without an opening one stands for itself.
The first number bounds how many characters there are, the second one counts the parentheses that
are open. -/
def regexText? : Nat → Nat → Expected → List Char → Option (List Char)
  | 0, _, _, _ => none
  | _, _, e, [] => if e = .operand then none else some []
  | n + 1, depth, e, c :: rest =>
    let literal (c : Char) (rest : List Char) : Option (List Char) := do
      let more ← regexText? n depth .anything rest
      let special := "\\.[]()*+?|^$\x7b\x7d".toList.contains c
      return if special then '\\' :: c :: more else c :: more
    let operator (depth : Nat) (e : Expected) : Option (List Char) :=
      (regexText? n depth e rest).map (c :: ·)
    match c, rest with
    | '\\', 'n' :: rest => literal '\n' rest
    | '\\', 't' :: rest => literal '\t' rest
    | '\\', d :: rest => literal d rest
    | '[', rest => do
      let k := Shell.Regex.bracketLength rest
      return c :: rest.take k ++ (← regexText? n depth .anything (rest.drop k))
    | '(', _ => operator (depth + 1) .operand
    | ')', rest =>
      if depth = 0 then literal c rest
      else if e = .operand then none
      else operator (depth - 1) .anything
    | '|', _ => if e = .operand then none else operator depth .operand
    | '^', _ => operator depth .edge
    | '*', _ | '+', _ | '?', _ => if e = .anything then operator depth .anything else none
    | '.', _ | '$', _ => operator depth .anything
    | c, rest => literal c rest

def regex? (t : List Char) : Option Shell.Regex :=
  (regexText? (t.length + 1) 0 (if t = [] then .anything else .operand) t).bind
    (Shell.Regex.read? form)

def isSound (p : Program) : Bool :=
  let main := Uses.all (given :: usesOfBlock p.first :: usesOfBlock p.last ::
    p.rules.map fun r => (Pattern.uses r.pattern).and (usesOfBlock r.action))
  let inside := p.functions.map fun f => (f, usesOfBlock f.body)
  let globals := inside.flatMap fun (f, u) => u.names.filter fun n => !f.parameters.contains n.name
  let locals := inside.map fun (f, u) => u.names.filter fun n => f.parameters.contains n.name
  let all := Uses.all (main :: inside.map (·.2))
  consistent (main.names ++ globals) && locals.all consistent &&
    (all.names.all fun u => !p.functions.any fun f => f.name = u.name) &&
    (p.functions.all fun f => f.parameters.eraseDups.length = f.parameters.length &&
      f.parameters.all fun v => !p.functions.any fun g => g.name = v) &&
    (all.calls.all fun (f, n) => p.functions.any fun g => g.name = f && n ≤ g.parameters.length) &&
    (all.regexes.all fun t => (regex? t).isSome) &&
    blockFits ⟨false, false, false⟩ p.first && blockFits ⟨false, false, false⟩ p.last &&
    (p.rules.all fun r => blockFits ⟨false, true, false⟩ r.action) &&
    p.functions.all fun f => blockFits ⟨true, false, false⟩ f.body

end Program

end AgentLaunch.Awk
