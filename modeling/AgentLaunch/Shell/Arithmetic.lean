/-!
# Shell arithmetic

Expressions over integers of 64 bits, which wrap around, and variables.
-/

namespace AgentLaunch.Shell

inductive Expression where
  | number (n : Int)
  | variable_ (name : String)
  | unary (op : String) (e : Expression)
  | binary (op : String) (a b : Expression)
  | choice (condition a b : Expression)
  /-- Assigns to a variable; with an operator, its old value is the first operand. -/
  | assignment (name : String) (op : String) (e : Expression)

namespace Expression

/-- A word or an operator of an expression. -/
inductive Token where
  | number (n : Int)
  | name (s : String)
  | operator (s : String)
  deriving DecidableEq

/-- The operators, longer ones before those that they begin with. -/
def operators : List String :=
  ["<<=", ">>=", "<<", ">>", "<=", ">=", "==", "!=", "&&", "||", "+=", "-=", "*=", "/=", "%=",
    "&=", "|=", "^=", "+", "-", "*", "/", "%", "<", ">", "=", "!", "~", "&", "|", "^", "?", ":",
    "(", ")"]

/-- Brings a number into the range of 64 bits. -/
def wrap (n : Int) : Int :=
  Int.bmod n 18446744073709551616

private def digit? (base : Nat) (c : Char) : Option Nat :=
  let n := if c.isDigit then c.toNat - 48
    else if c.isAlpha then c.toLower.toNat - 87
    else base
  if n < base then some n else none

private def digits? (base : Nat) (s : List Char) : Option Nat :=
  if s = [] then none else s.foldlM (fun n c => (digit? base c).map (n * base + ·)) 0

/-- The number that a text is, in one of three bases. -/
def number? (s : List Char) : Option Int :=
  match s with
  | '0' :: x :: rest =>
    (if x = 'x' ∨ x = 'X' then digits? 16 rest else digits? 8 (x :: rest)).map (wrap ·)
  | _ => (digits? 10 s).map (wrap ·)

/-- The value of a variable, which may have a sign. One without value counts as zero. -/
def ofText? (s : String) : Option Int :=
  match s.toList.dropWhile Char.isWhitespace with
  | [] => some 0
  | '-' :: rest => (number? rest).map fun n => wrap (-n)
  | '+' :: rest => number? rest
  | rest => number? rest

def isNameChar (c : Char) : Bool :=
  c.isAlphanum || c = '_'

/-- The tokens of a text. Each takes at least one character. -/
def scan : Nat → List Char → Option (List Token)
  | 0, _ => none
  | _, [] => some []
  | n + 1, c :: rest =>
    if c.isWhitespace then scan n rest
    else if isNameChar c then do
      let word := (c :: rest).takeWhile isNameChar
      let t ← if c.isDigit then (number? word).map .number
        else some (.name (String.ofList word))
      return t :: (← scan n ((c :: rest).dropWhile isNameChar))
    else do
      let o ← operators.find? fun o => o.toList.isPrefixOf (c :: rest)
      return .operator o :: (← scan n ((c :: rest).drop o.length))

/-- How tightly an operator between two operands binds. -/
def rank (op : String) : Option Nat :=
  match op with
  | "||" => some 1
  | "&&" => some 2
  | "|" => some 3
  | "^" => some 4
  | "&" => some 5
  | "==" | "!=" => some 6
  | "<" | "<=" | ">" | ">=" => some 7
  | "<<" | ">>" => some 8
  | "+" | "-" => some 9
  | "*" | "/" | "%" => some 10
  | _ => none

/-- The operator in an assignment; a plain one has none. -/
def assigns? (op : String) : Option String :=
  if ["=", "+=", "-=", "*=", "/=", "%=", "&=", "|=", "^=", "<<=", ">>="].contains op then
    some (String.ofList op.toList.dropLast)
  else none

mutual

/-- An expression in front of tokens. The number bounds how often the functions call each other,
which is less than the number of tokens times their number. -/
def whole : Nat → List Token → Option (Expression × List Token)
  | 0, _ => none
  | n + 1, .name x :: .operator o :: ts =>
    match assigns? o with
    | some op => (whole n ts).map fun (e, ts) => (.assignment x op e, ts)
    | none => chosen n (.name x :: .operator o :: ts)
  | n + 1, ts => chosen n ts

def chosen : Nat → List Token → Option (Expression × List Token)
  | 0, _ => none
  | n + 1, ts => do
    match ← ranked n 1 ts with
    | (condition, .operator "?" :: ts) =>
      match ← whole n ts with
      | (a, .operator ":" :: ts) =>
        let (b, ts) ← chosen n ts
        return (.choice condition a b, ts)
      | _ => none
    | found => return found

/-- Operands joined by operators that bind at least so tightly. -/
def ranked : Nat → Nat → List Token → Option (Expression × List Token)
  | 0, _, _ => none
  | n + 1, least, ts => do
    let (a, ts) ← operand n ts
    joined n least a ts

def joined : Nat → Nat → Expression → List Token → Option (Expression × List Token)
  | 0, _, _, _ => none
  | n + 1, least, a, .operator o :: ts =>
    match rank o with
    | some r =>
      if r < least then some (a, .operator o :: ts)
      else do
        let (b, ts) ← ranked n (r + 1) ts
        joined n least (.binary o a b) ts
    | none => some (a, .operator o :: ts)
  | _ + 1, _, a, ts => some (a, ts)

def operand : Nat → List Token → Option (Expression × List Token)
  | 0, _ => none
  | _ + 1, .number k :: ts => some (.number k, ts)
  | _ + 1, .name x :: ts => some (.variable_ x, ts)
  | n + 1, .operator "(" :: ts => do
    match ← whole n ts with
    | (e, .operator ")" :: ts) => return (e, ts)
    | _ => none
  | n + 1, .operator o :: ts =>
    if ["-", "+", "!", "~"].contains o then (operand n ts).map fun (e, ts) => (.unary o e, ts)
    else none
  | _ + 1, [] => none

end

/-- Reads an expression. Nothing at all stands for zero. -/
def read? (s : List Char) : Option Expression := do
  match ← scan (s.length + 1) s with
  | [] => return .number 0
  | ts =>
    match ← whole (20 * ts.length + 20) ts with
    | (e, []) => return e
    | _ => none

def ofBool (b : Bool) : Int :=
  if b then 1 else 0

/-- What an operator makes of two numbers. Nothing is divided by zero. -/
def apply (op : String) (a b : Int) : Option Int :=
  match op with
  | "+" => some (wrap (a + b))
  | "-" => some (wrap (a - b))
  | "*" => some (wrap (a * b))
  | "/" => if b = 0 then none else some (wrap (a.tdiv b))
  | "%" => if b = 0 then none else some (a.tmod b)
  | "==" => some (ofBool (a = b))
  | "!=" => some (ofBool (a ≠ b))
  | "<" => some (ofBool (a < b))
  | "<=" => some (ofBool (a ≤ b))
  | ">" => some (ofBool (a > b))
  | ">=" => some (ofBool (a ≥ b))
  | "<<" => some (Int64.ofInt a <<< Int64.ofInt b).toInt
  | ">>" => some (Int64.ofInt a >>> Int64.ofInt b).toInt
  | "&" => some (Int64.ofInt a &&& Int64.ofInt b).toInt
  | "|" => some (Int64.ofInt a ||| Int64.ofInt b).toInt
  | "^" => some (Int64.ofInt a ^^^ Int64.ofInt b).toInt
  | _ => none

/-- The value of an expression, with the variables after it. A variable has to hold a number. -/
def value? (get : List (String × Int) → String → Option Int) :
    Expression → List (String × Int) → Option (Int × List (String × Int))
  | .number n, set => some (n, set)
  | .variable_ x, set => (get set x).map (·, set)
  | .unary op e, set => do
    let (n, set) ← value? get e set
    return (match op with
      | "-" => wrap (-n)
      | "!" => ofBool (n = 0)
      | "~" => -n - 1
      | _ => n, set)
  | .binary op a b, set => do
    let (m, set) ← value? get a set
    if op = "&&" then
      if m = 0 then return (0, set)
      let (n, set) ← value? get b set
      return (ofBool (n ≠ 0), set)
    else if op = "||" then
      if m ≠ 0 then return (1, set)
      let (n, set) ← value? get b set
      return (ofBool (n ≠ 0), set)
    else
      let (n, set) ← value? get b set
      return (← apply op m n, set)
  | .choice c a b, set => do
    let (n, set) ← value? get c set
    if n ≠ 0 then value? get a set else value? get b set
  | .assignment x op e, set => do
    let (n, set) ← value? get e set
    let n ← if op = "" then some n else apply op (← get set x) n
    return (n, (x, n) :: set)

end Expression

end AgentLaunch.Shell
