import AgentLaunch.Shell.Regex
import AgentLaunch.Tools.Tool
import AgentLaunch.Tools.Quantity

/-!
# Values of expressions

The words of an expression in the order of how tightly its operators bind: alternatives,
conjunctions, comparisons, sums, products, and matches.
-/

namespace AgentLaunch.Tools.Expr

open Shell (State Regex)

def integer? (t : String) : Option Int :=
  match t.toList with
  | '-' :: digits =>
    if digits ≠ [] ∧ digits.all isDigit then some (-Int.ofNat (ofDigits 10 digits)) else none
  | digits =>
    if digits ≠ [] ∧ digits.all isDigit then some (Int.ofNat (ofDigits 10 digits)) else none

/-- Whether a value counts as none: it is empty, or a zero. -/
def isNull (t : String) : Bool :=
  t = "" || (match t.toList with
    | '-' :: digits => digits ≠ [] && digits.all (· = '0')
    | digits => digits.all (· = '0'))

/-- What a pattern fits at the front of a text: its first group, or how long it is. -/
def fit? (t pattern : String) : Option String := do
  let r ← Regex.read? .plain pattern.toList
  let grouped := Regex.hasGroup .plain pattern.toList
  let start : Regex.Spot := ⟨[], t.toList, []⟩
  match Regex.longest? false r start with
  | none => return if grouped then "" else "0"
  | some p =>
    return if grouped then String.ofList (p.group 1)
      else toString (t.length - p.rest.length)

def compared (op : String) (o : Ordering) : Option Bool :=
  match op with
  | "<" => some (o = .lt)
  | "<=" => some (o ≠ .gt)
  | "=" | "==" => some (o = .eq)
  | "!=" => some (o ≠ .eq)
  | ">=" => some (o ≠ .lt)
  | ">" => some (o = .gt)
  | _ => none

def ofBool (b : Bool) : String :=
  if b then "1" else "0"

def combined? (op a b : String) : Option String :=
  let numbers : Option (Int × Int) := do return (← integer? a, ← integer? b)
  match op with
  | "|" => some (if !isNull a then a else if !isNull b then b else "0")
  | "&" => some (if isNull a ∨ isNull b then "0" else a)
  | ":" => fit? a b
  | "+" => numbers.map fun (m, n) => toString (m + n)
  | "-" => numbers.map fun (m, n) => toString (m - n)
  | "*" => numbers.map fun (m, n) => toString (m * n)
  | "/" => numbers.bind fun (m, n) => if n = 0 then none else some (toString (m.tdiv n))
  | "%" => numbers.bind fun (m, n) => if n = 0 then none else some (toString (m.tmod n))
  | op =>
    (compared op (match numbers with
      | some (m, n) => compare m n
      | none => compare a b)).map ofBool

/-- The operators from the loosest to the tightest. -/
def levels : List (List String) :=
  [["|"], ["&"], ["<", "<=", "=", "==", "!=", ">=", ">"], ["+", "-"], ["*", "/", "%"], [":"]]

/-- The part of a text from a position on, which counts from one. -/
def substring (t first length : String) : String :=
  match integer? first, integer? length with
  | some m, some n =>
    if m ≤ 0 ∨ n ≤ 0 then ""
    else String.ofList ((t.toList.drop (m.toNat - 1)).take n.toNat)
  | _, _ => ""

/-- Where the first of some characters stands in a text, or zero. -/
def position (t characters : String) : Nat :=
  let front := t.toList.takeWhile fun c => !characters.toList.contains c
  if front.length = t.length then 0 else front.length + 1

mutual

/-- The value of the operators of some levels, and the words behind. What does not count is read all
the same. The number bounds how often the functions call each other. -/
def level : Nat → Bool → List (List String) → List String → Option (String × List String)
  | 0, _, _, _ => none
  | n + 1, counts, [], words => operand n counts words
  | n + 1, counts, ops :: tighter, words => do
    let (a, rest) ← level n counts tighter words
    more n counts ops tighter a rest

/-- Goes on behind the left operand as long as there are operators of a level. -/
def more : Nat → Bool → List String → List (List String) → String → List String →
    Option (String × List String)
  | 0, _, _, _, _, _ => none
  | n + 1, counts, ops, tighter, a, words =>
    match words with
    | op :: rest =>
      if !ops.contains op then some (a, words)
      else do
        let counted := counts &&
          (if op = "|" then isNull a else if op = "&" then !isNull a else true)
        let (b, rest) ← level n counted tighter rest
        let value ← if !counts then some "0"
          else if op = "&" ∧ isNull a then some "0"
          else if op = "|" ∧ !isNull a then some a
          else combined? op a b
        more n counts ops tighter value rest
    | [] => some (a, [])

def operand : Nat → Bool → List String → Option (String × List String)
  | 0, _, _ => none
  | n + 1, counts, words =>
    match words with
    | [] => none
    | "(" :: rest => do
      match ← level n counts levels rest with
      | (a, ")" :: rest) => return (a, rest)
      | _ => none
    | ")" :: _ => none
    | "+" :: w :: rest => some (w, rest)
    | "+" :: [] => none
    | "length" :: rest => do
      let (a, rest) ← operand n counts rest
      return (toString a.length, rest)
    | "match" :: rest => do
      let (a, rest) ← operand n counts rest
      let (b, rest) ← operand n counts rest
      if counts then return (← fit? a b, rest) else return ("", rest)
    | "index" :: rest => do
      let (a, rest) ← operand n counts rest
      let (b, rest) ← operand n counts rest
      return (toString (position a b), rest)
    | "substr" :: rest => do
      let (a, rest) ← operand n counts rest
      let (b, rest) ← operand n counts rest
      let (c, rest) ← operand n counts rest
      return (substring a b c, rest)
    | w :: rest => some (w, rest)

end

def value? (words : List String) : Option String :=
  match level (20 * words.length + 20) true levels words with
  | some (value, []) => some value
  | _ => none

def run (s : State) (args : List String) : State :=
  if args = ["--help"] ∨ args = ["--version"] then s.withStatus 0
  else
    let words := if args.head? = some "--" then args.tail else args
    match value? words with
    | some value => sayLines (s.withStatus (if isNull value then 1 else 0)) [value]
    | none => s.withStatus 2

end AgentLaunch.Tools.Expr
