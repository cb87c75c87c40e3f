import AgentLaunch.Awk.Token

/-!
# Reading programs over records

The number that the functions take bounds how often they call each other; a multiple of the number
of tokens is enough.
-/

namespace AgentLaunch.Awk.Parse

abbrev Found (α : Type) := α × List Token

def isSymbol (w : String) : List Token → Bool
  | .symbol v :: _ => v = w
  | _ => false

def expect (w : String) : List Token → Option (List Token)
  | .symbol v :: rest => if v = w then some rest else none
  | _ => none

def skipLines : List Token → List Token
  | .lineEnd :: rest => skipLines rest
  | ts => ts

def skipEnds : List Token → List Token
  | .lineEnd :: rest => skipEnds rest
  | .symbol ";" :: rest => skipEnds rest
  | ts => ts

/-- Whether an expression can be assigned to. -/
def isPlace : Expr → Bool
  | .name _ | .item .. | .field _ => true
  | _ => false

def assignments : List (String × Option Arithmetic) :=
  [("=", none), ("+=", some .plus), ("-=", some .minus), ("*=", some .times), ("/=", some .divided),
    ("%=", some .modulo), ("^=", some .power)]

def comparisons : List (String × Comparison) :=
  [("<", .less), ("<=", .lessEqual), ("==", .equal), ("!=", .different), (">=", .greaterEqual),
    (">", .greater)]

def sums : List (String × Arithmetic) :=
  [("+", .plus), ("-", .minus)]

def products : List (String × Arithmetic) :=
  [("*", .times), ("/", .divided), ("%", .modulo)]

/-- What the next symbol stands for in a table. -/
def operator? {α : Type} (table : List (String × α)) : List Token → Option (α × List Token)
  | .symbol w :: rest => (table.find? fun o => o.1 = w).map fun o => (o.2, rest)
  | _ => none

def beginsOperand : List Token → Bool
  | .number _ :: _ | .text _ :: _ | .regex _ :: _ | .name _ :: _ | .called _ :: _
  | .builtin _ :: _ => true
  | .symbol w :: _ => ["(", "$", "++", "--"].contains w
  | _ => false

mutual

/-- An expression. Behind a word that prints, a greater sign leads to a file. -/
def expr (printing : Bool) : Nat → List Token → Option (Found Expr)
  | 0, _ => none
  | n + 1, ts => do
    let (e, rest) ← conditional printing n ts
    match operator? assignments rest with
    | some (o, rest) =>
      if !isPlace e then none
      else
        let (value, rest) ← expr printing n (skipLines rest)
        return (.assign o e value, rest)
    | none => return (e, rest)

def conditional (printing : Bool) : Nat → List Token → Option (Found Expr)
  | 0, _ => none
  | n + 1, ts => do
    let (e, rest) ← disjunction printing n ts
    match expect "?" rest with
    | some rest =>
      let (yes, rest) ← expr printing n (skipLines rest)
      let rest ← expect ":" (skipLines rest)
      let (no, rest) ← expr printing n (skipLines rest)
      return (.conditional e yes no, rest)
    | none => return (e, rest)

def disjunction (printing : Bool) : Nat → List Token → Option (Found Expr)
  | 0, _ => none
  | n + 1, ts => do
    let (a, rest) ← conjunction printing n ts
    disjunctions printing n a rest

def disjunctions (printing : Bool) : Nat → Expr → List Token → Option (Found Expr)
  | 0, _, _ => none
  | n + 1, a, ts =>
    match expect "||" ts with
    | some rest => do
      let (b, rest) ← conjunction printing n (skipLines rest)
      disjunctions printing n (.either a b) rest
    | none => some (a, ts)

def conjunction (printing : Bool) : Nat → List Token → Option (Found Expr)
  | 0, _ => none
  | n + 1, ts => do
    let (a, rest) ← membership printing n ts
    conjunctions printing n a rest

def conjunctions (printing : Bool) : Nat → Expr → List Token → Option (Found Expr)
  | 0, _, _ => none
  | n + 1, a, ts =>
    match expect "&&" ts with
    | some rest => do
      let (b, rest) ← membership printing n (skipLines rest)
      conjunctions printing n (.both a b) rest
    | none => some (a, ts)

def membership (printing : Bool) : Nat → List Token → Option (Found Expr)
  | 0, _ => none
  | n + 1, ts => do
    let (a, rest) ← matching printing n ts
    memberships printing n a rest

def memberships (printing : Bool) : Nat → Expr → List Token → Option (Found Expr)
  | 0, _, _ => none
  | n + 1, a, ts =>
    match ts with
    | .keyword "in" :: .name table :: rest =>
      let indices := match a with
        | .several es => es
        | a => [a]
      memberships printing n (.isIn indices table) rest
    | _ => some (a, ts)

def matching (printing : Bool) : Nat → List Token → Option (Found Expr)
  | 0, _ => none
  | n + 1, ts => do
    let (a, rest) ← comparing printing n ts
    matchings printing n a rest

def matchings (printing : Bool) : Nat → Expr → List Token → Option (Found Expr)
  | 0, _, _ => none
  | n + 1, a, ts =>
    match operator? [("~", false), ("!~", true)] ts with
    | some (negated, rest) => do
      let (b, rest) ← comparing printing n rest
      matchings printing n (.fits negated a b) rest
    | none => some (a, ts)

def comparing (printing : Bool) : Nat → List Token → Option (Found Expr)
  | 0, _ => none
  | n + 1, ts => do
    let (a, rest) ← piping printing n ts
    match operator? comparisons rest with
    | some (c, behind) =>
      if printing ∧ c = .greater then return (a, rest)
      else
        let (b, rest) ← piping printing n behind
        return (.compare c a b, rest)
    | none => return (a, rest)

def piping (printing : Bool) : Nat → List Token → Option (Found Expr)
  | 0, _ => none
  | n + 1, ts => do
    let (a, rest) ← concatenation printing n ts
    pipings printing n a rest

def pipings (printing : Bool) : Nat → Expr → List Token → Option (Found Expr)
  | 0, _, _ => none
  | n + 1, a, ts =>
    match ts with
    | .symbol "|" :: .keyword "getline" :: rest => do
      let (target, rest) ← place? n rest
      pipings printing n (.readCommand target a) rest
    | _ => some (a, ts)

def concatenation (printing : Bool) : Nat → List Token → Option (Found Expr)
  | 0, _ => none
  | n + 1, ts => do
    let (a, rest) ← sum printing n ts
    concatenations printing n a rest

def concatenations (printing : Bool) : Nat → Expr → List Token → Option (Found Expr)
  | 0, _, _ => none
  | n + 1, a, ts =>
    if beginsOperand ts then do
      let (b, rest) ← sum printing n ts
      concatenations printing n (.concat a b) rest
    else some (a, ts)

def sum (printing : Bool) : Nat → List Token → Option (Found Expr)
  | 0, _ => none
  | n + 1, ts => do
    let (a, rest) ← product printing n ts
    sumRest printing n a rest

def sumRest (printing : Bool) : Nat → Expr → List Token → Option (Found Expr)
  | 0, _, _ => none
  | n + 1, a, ts =>
    match operator? sums ts with
    | some (o, rest) => do
      let (b, rest) ← product printing n rest
      sumRest printing n (.arithmetic o a b) rest
    | none => some (a, ts)

def product (printing : Bool) : Nat → List Token → Option (Found Expr)
  | 0, _ => none
  | n + 1, ts => do
    let (a, rest) ← signed printing n ts
    productRest printing n a rest

def productRest (printing : Bool) : Nat → Expr → List Token → Option (Found Expr)
  | 0, _, _ => none
  | n + 1, a, ts =>
    match operator? products ts with
    | some (o, rest) => do
      let (b, rest) ← signed printing n rest
      productRest printing n (.arithmetic o a b) rest
    | none => some (a, ts)

def signed (printing : Bool) : Nat → List Token → Option (Found Expr)
  | 0, _ => none
  | n + 1, ts =>
    match ts with
    | .symbol "!" :: rest => do
      let (a, rest) ← signed printing n rest
      return (.not a, rest)
    | .symbol "-" :: rest => do
      let (a, rest) ← signed printing n rest
      return (.minus a, rest)
    | .symbol "+" :: rest => do
      let (a, rest) ← signed printing n rest
      return (.plus a, rest)
    | ts => power printing n ts

def power (printing : Bool) : Nat → List Token → Option (Found Expr)
  | 0, _ => none
  | n + 1, ts => do
    let (a, rest) ← stepped printing n ts
    match expect "^" rest with
    | some rest =>
      let (b, rest) ← exponent printing n rest
      return (.arithmetic .power a b, rest)
    | none => return (a, rest)

/-- What stands behind the sign of a power: it can have a sign itself. -/
def exponent (printing : Bool) : Nat → List Token → Option (Found Expr)
  | 0, _ => none
  | n + 1, ts =>
    match ts with
    | .symbol "-" :: rest => do
      let (a, rest) ← exponent printing n rest
      return (.minus a, rest)
    | .symbol "+" :: rest => do
      let (a, rest) ← exponent printing n rest
      return (.plus a, rest)
    | .symbol "!" :: rest => do
      let (a, rest) ← exponent printing n rest
      return (.not a, rest)
    | ts => power printing n ts

def stepped (printing : Bool) : Nat → List Token → Option (Found Expr)
  | 0, _ => none
  | n + 1, ts =>
    match ts with
    | .symbol w :: rest =>
      if w = "++" ∨ w = "--" then do
        let (a, rest) ← primary printing n rest
        if isPlace a then return (.step true (w = "++") a, rest) else none
      else behind printing n ts
    | ts => behind printing n ts

def behind (printing : Bool) : Nat → List Token → Option (Found Expr)
  | 0, _ => none
  | n + 1, ts => do
    let (a, rest) ← primary printing n ts
    match rest with
    | .symbol w :: more =>
      if (w = "++" ∨ w = "--") ∧ isPlace a then return (.step false (w = "++") a, more)
      else return (a, rest)
    | rest => return (a, rest)

/-- What can be assigned to, if there is anything like that. -/
def place? : Nat → List Token → Option (Found (Option Expr))
  | 0, _ => none
  | n + 1, ts =>
    match ts with
    | .name _ :: _ | .symbol "$" :: _ => do
      let (a, rest) ← primary false n ts
      return (some a, rest)
    | _ => some (none, ts)

def primary (printing : Bool) : Nat → List Token → Option (Found Expr)
  | 0, _ => none
  | n + 1, ts =>
    match ts with
    | .number x :: rest => some (.number x, rest)
    | .text t :: rest => some (.text t, rest)
    | .regex t :: rest => some (.regex t, rest)
    | .name v :: rest =>
      match expect "[" rest with
      | some rest => do
        let (es, rest) ← exprs false n rest
        let rest ← expect "]" rest
        return (.item v es, rest)
      | none => some (.name v, rest)
    | .symbol "$" :: rest => do
      match rest with
      | .symbol "-" :: rest =>
        let (a, rest) ← primary printing n rest
        return (.field (.minus a), rest)
      | .symbol "++" :: _ | .symbol "--" :: _ =>
        let (a, rest) ← stepped printing n rest
        return (.field a, rest)
      | rest =>
        let (a, rest) ← primary printing n rest
        return (.field a, rest)
    | .symbol "(" :: rest => do
      let (es, rest) ← exprs false n (skipLines rest)
      let rest ← expect ")" (skipLines rest)
      match es with
      | [e] => return (.group e, rest)
      | es => return (.several es, rest)
    | .symbol "!" :: rest => do
      let (a, rest) ← signed printing n rest
      return (.not a, rest)
    | .symbol "-" :: rest => do
      let (a, rest) ← signed printing n rest
      return (.minus a, rest)
    | .symbol "+" :: rest => do
      let (a, rest) ← signed printing n rest
      return (.plus a, rest)
    | .called f :: rest => do
      let (es, rest) ← arguments n rest
      return (.call f es, rest)
    | .builtin f :: rest => do
      let bounds ← builtins.find? fun b => b.1 = f
      let (es, rest) ← if isSymbol "(" rest then arguments n rest
        else if f = "length" then some ([], rest) else none
      if es.length < bounds.2.1 ∨ bounds.2.2 < es.length then none
      else return (.builtin f es, rest)
    | .keyword "getline" :: rest => do
      let (target, rest) ← place? n rest
      match expect "<" rest with
      | some rest =>
        let (path, rest) ← stepped printing n rest
        return (.readFile target path, rest)
      | none => return (.readRecord target, rest)
    | _ => none

def exprs (printing : Bool) : Nat → List Token → Option (Found (List Expr))
  | 0, _ => none
  | n + 1, ts => do
    let (e, rest) ← expr printing n ts
    match expect "," rest with
    | some rest =>
      let (es, rest) ← exprs printing n (skipLines rest)
      return (e :: es, rest)
    | none => return ([e], rest)

def arguments : Nat → List Token → Option (Found (List Expr))
  | 0, _ => none
  | n + 1, ts => do
    let rest ← expect "(" ts
    match expect ")" (skipLines rest) with
    | some rest => return ([], rest)
    | none =>
      let (es, rest) ← exprs false n (skipLines rest)
      let rest ← expect ")" (skipLines rest)
      return (es, rest)

end

def ends : List Token → Bool
  | [] | .lineEnd :: _ => true
  | .symbol w :: _ => w = ";" || w = "\x7d"
  | _ => false

/-- The end of a simple statement. A closing brace stays. -/
def end_ : List Token → Option (List Token)
  | .lineEnd :: rest => some rest
  | .symbol ";" :: rest => some rest
  | .symbol "\x7d" :: rest => some (.symbol "\x7d" :: rest)
  | _ => none

/-- The arguments of a word that prints, and where they go. -/
def printed (n : Nat) (ts : List Token) : Option (Found (List Expr × Destination)) := do
  let (es, rest) ← if ends ts || isSymbol ">" ts || isSymbol ">>" ts || isSymbol "|" ts
    then some ([], ts) else exprs true n ts
  let es := match es with
    | [.several es] => es
    | [.group e] => [e]
    | es => es
  match rest with
  | .symbol ">" :: rest =>
    let (path, rest) ← concatenation true n rest
    return ((es, .file path), rest)
  | .symbol ">>" :: rest =>
    let (path, rest) ← concatenation true n rest
    return ((es, .append path), rest)
  | .symbol "|" :: rest =>
    let (text, rest) ← concatenation true n rest
    return ((es, .command text), rest)
  | rest => return ((es, .output), rest)

/-- A statement without others in it, up to its end. -/
def simple (n : Nat) (ts : List Token) : Option (Found Statement) :=
  let optional (ts : List Token) : Option (Found (Option Expr)) :=
    if ends ts then some (none, ts) else (expr false n ts).map fun (e, rest) => (some e, rest)
  match ts with
  | .keyword "print" :: rest => do
    let ((es, d), rest) ← printed n rest
    return (.print es d, rest)
  | .keyword "printf" :: rest => do
    let ((es, d), rest) ← printed n rest
    if es.isEmpty then none else return (.printf es d, rest)
  | .keyword "next" :: rest => some (.next, rest)
  | .keyword "nextfile" :: rest => some (.nextFile, rest)
  | .keyword "break" :: rest => some (.break_, rest)
  | .keyword "continue" :: rest => some (.continue_, rest)
  | .keyword "exit" :: rest => do
    let (e, rest) ← optional rest
    return (.exit e, rest)
  | .keyword "return" :: rest => do
    let (e, rest) ← optional rest
    return (.return_ e, rest)
  | .keyword "delete" :: .name t :: rest =>
    match expect "[" rest with
    | some rest => do
      let (es, rest) ← exprs false n rest
      let rest ← expect "]" rest
      return (.delete t (some es), rest)
    | none => some (.delete t none, rest)
  | ts => do
    let (e, rest) ← expr false n ts
    return (.evaluate e, rest)

mutual

def statement : Nat → List Token → Option (Found (List Statement))
  | 0, _ => none
  | n + 1, ts =>
    match ts with
    | .symbol "\x7b" :: _ => block n ts
    | .symbol ";" :: rest => some ([], skipLines rest)
    | .keyword "if" :: rest => do
      let rest ← expect "(" rest
      let (condition, rest) ← expr false n rest
      let rest ← expect ")" rest
      let (yes, rest) ← if isSymbol "\x7d" (skipLines rest) then some ([], skipLines rest)
        else statement n (skipLines rest)
      match skipLines rest with
      | .keyword "else" :: rest =>
        let (no, rest) ← statement n (skipLines rest)
        return ([.choose condition yes no], rest)
      | .symbol ";" :: .keyword "else" :: rest =>
        let (no, rest) ← statement n (skipLines rest)
        return ([.choose condition yes no], rest)
      | _ => return ([.choose condition yes []], rest)
    | .keyword "while" :: rest => do
      let rest ← expect "(" rest
      let (condition, rest) ← expr false n rest
      let rest ← expect ")" rest
      match rest with
      | .symbol ";" :: rest => return ([.whileDo condition []], rest)
      | rest =>
        let (body, rest) ← statement n (skipLines rest)
        return ([.whileDo condition body], rest)
    | .keyword "do" :: rest => do
      let (body, rest) ← statement n (skipLines rest)
      match skipEnds rest with
      | .keyword "while" :: rest =>
        let rest ← expect "(" rest
        let (condition, rest) ← expr false n rest
        let rest ← end_ (← expect ")" rest)
        return ([.doWhile body condition], rest)
      | _ => none
    | .keyword "for" :: rest => do
      let rest ← expect "(" rest
      match rest with
      | .name v :: .keyword "in" :: .name t :: .symbol ")" :: rest =>
        let (body, rest) ← statement n (skipLines rest)
        return ([.forIn v t body], rest)
      | rest =>
        let (start, rest) ← clause n rest
        let rest ← expect ";" rest
        let (condition, rest) ← if isSymbol ";" (skipLines rest) then some (none, skipLines rest)
          else (expr false n (skipLines rest)).map fun (e, rest) => (some e, rest)
        let rest ← expect ";" rest
        let (next, rest) ← clause n (skipLines rest)
        let rest ← expect ")" rest
        let (body, rest) ← statement n (skipLines rest)
        return ([.loop start condition next body], rest)
    | ts => do
      let (s, rest) ← simple n ts
      let rest ← end_ rest
      return ([s], rest)

/-- A part of the head of a loop. -/
def clause : Nat → List Token → Option (Found (List Statement))
  | 0, _ => none
  | n + 1, ts =>
    if isSymbol ";" ts || isSymbol ")" ts then some ([], ts)
    else do
      let (e, rest) ← expr false n ts
      return ([.evaluate e], rest)

def block : Nat → List Token → Option (Found (List Statement))
  | 0, _ => none
  | n + 1, ts => do
    let rest ← expect "\x7b" ts
    statements n rest

def statements : Nat → List Token → Option (Found (List Statement))
  | 0, _ => none
  | n + 1, ts =>
    match skipEnds ts with
    | .symbol "\x7d" :: rest => some ([], rest)
    | ts => do
      let (s, rest) ← statement n ts
      let (more, rest) ← statements n rest
      return (s ++ more, rest)

end

/-- The names of parameters up to the closing parenthesis. -/
def parameters : List Token → Option (Found (List String))
  | .symbol ")" :: rest => some ([], rest)
  | .name v :: .symbol ")" :: rest => some ([v], rest)
  | .name v :: .symbol "," :: .lineEnd :: rest => do
    let (vs, rest) ← parameters rest
    return (v :: vs, rest)
  | .name v :: .symbol "," :: rest => do
    let (vs, rest) ← parameters rest
    return (v :: vs, rest)
  | _ => none

def show_ : List Statement :=
  [.print [] .output]

/-- One part of a program: a function or an action with what it waits for. -/
def part (n : Nat) (p : Program) (ts : List Token) : Option (Found Program) :=
  match ts with
  | .keyword "function" :: .called f :: .symbol "(" :: rest
  | .keyword "function" :: .name f :: .symbol "(" :: rest => do
    let (vs, rest) ← parameters rest
    let (body, rest) ← block n (skipLines rest)
    if p.functions.any fun g => g.name = f then none
    else return ({ p with functions := p.functions ++ [⟨f, vs, body⟩] }, rest)
  | .keyword "BEGIN" :: rest => do
    let (body, rest) ← block n rest
    return ({ p with first := p.first ++ body, hasFirst := true }, rest)
  | .keyword "END" :: rest => do
    let (body, rest) ← block n rest
    return ({ p with last := p.last ++ body, hasLast := true }, rest)
  | .symbol "\x7b" :: _ => do
    let (body, rest) ← block n ts
    return ({ p with rules := p.rules ++ [⟨.always, body⟩] }, rest)
  | ts => do
    let (e, rest) ← expr false n ts
    let (pattern, rest) ← match expect "," rest with
      | some rest => do
        let (last, rest) ← expr false n (skipLines rest)
        some (Pattern.range e last, rest)
      | none => some (.when e, rest)
    if isSymbol "\x7b" rest then
      let (body, rest) ← block n rest
      return ({ p with rules := p.rules ++ [⟨pattern, body⟩] }, rest)
    else
      let rest ← match rest with
        | [] => some []
        | .lineEnd :: rest | .symbol ";" :: rest => some rest
        | _ => none
      return ({ p with rules := p.rules ++ [⟨pattern, show_⟩] }, rest)

def parts (n : Nat) : Nat → Program → List Token → Option Program
  | 0, _, _ => none
  | m + 1, p, ts =>
    match skipEnds ts with
    | [] => some p
    | ts => do
      let (p, rest) ← part n p ts
      parts n m p rest

def program? (t : List Char) : Option Program := do
  let ts ← Token.read? t
  parts (40 * ts.length + 100) (ts.length + 1) ⟨[], [], [], false, false, []⟩ ts

end AgentLaunch.Awk.Parse
