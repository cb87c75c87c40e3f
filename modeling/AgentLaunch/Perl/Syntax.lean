import AgentLaunch.Binary64.Display
import AgentLaunch.Tools.Quantity

/-!
# Scripts with scalars, lists and tables

The syntax of a language for small scripts, and the values that its programs work with.
-/

namespace AgentLaunch.Perl

inductive Value where
  | undefined
  | integer (n : Int)
  | number (x : Binary64)
  | text (t : List Char)
  | code (n : Nat)
  | handle (name : String)
  | reference (sign : Char) (name : String)

inductive Expr where
  | value (v : Value)
  | joined (parts : List Expr)
  | scalar (n : String)
  | array (n : String)
  | table (n : String)
  | lastIndex (n : String)
  | item (array : String) (index : Expr)
  | entry (table : String) (key : Expr)
  /-- What a reference leads to, by the sign of what it is. -/
  | behind (sign : Char) (e : Expr)
  | itemBehind (e index : Expr)
  | entryBehind (e key : Expr)
  /-- Variables of a block, and whether they stand in parentheses. -/
  | my (vars : List Expr) (several : Bool)
  | assign (operation : String) (target value : Expr)
  | list (es : List Expr)
  | infix_ (operation : String) (a b : Expr)
  | logical (operation : String) (a b : Expr)
  | not (e : Expr)
  | negative (e : Expr)
  | conditional (c yes no : Expr)
  | step (before up : Bool) (target : Expr)
  | fits (target : Option Expr) (pattern : List Expr) (flags : List Char)
  | substitute (target : Option Expr) (pattern replacement : List Expr) (flags : List Char)
  | translate (target : Option Expr) (source goal : List Char) (flags : List Char)
  | call (n : String) (args : List Expr)
  | callValue (e : Expr) (args : List Expr)
  | builtin (n : String) (args : List Expr)
  /-- A word that prints, with the file that it prints to. -/
  | print (word : String) (sink : Option Expr) (args : List Expr)
  /-- A function without a name, by its number. -/
  | lambda (n : Nat)
  /-- A block that is run by a word, by its number. -/
  | withBlock (word : String) (n : Nat) (args : List Expr)
  | readLine (source : Option Expr)
  | command (parts : List Expr)
  | fileTest (letter : Char) (e : Expr)
  deriving Inhabited

inductive Statement where
  | evaluate (e : Expr)
  | choose (branches : List (Expr × List Statement)) (otherwise : List Statement)
  | whileDo (condition : Expr) (body : List Statement)
  | loop (start condition next : Option Expr) (body : List Statement)
  | each (key : String) (isMy : Bool) (values : Expr) (body : List Statement)
  /-- The body comes before the first look at the condition. -/
  | doWhile (body : Expr) (condition : Expr)
  | block (body : List Statement)
  | named (label : String) (c : Statement)
  | nothing
  deriving Inhabited

structure Program where
  /-- What runs while the script is read. -/
  initial : List (List Statement)
  body : List Statement
  functions : List (String × List Statement)
  blocks : List (List Statement)
  /-- What runs at the end, the last one first. -/
  final : List (List Statement)

namespace Value

def ofNat (n : Nat) : Value := .integer (Int.ofNat n)

def ofBool (b : Bool) : Value := if b then .integer 1 else .text []

def ofString (t : String) : Value := .text t.toList

def maxInteger : Int := Int.ofNat Tools.maxWord

/-- A number as the integer that it is, if it is one that the machine has. -/
def normalized (x : Binary64) : Value :=
  match x.truncated? with
  | some n =>
    if (Binary64.ofInt n).compare? x = some .eq ∧ n.natAbs < 9007199254740992 then .integer n
    else .number x
  | none => .number x

def ofInteger (n : Int) : Value :=
  if n ≤ maxInteger ∧ -(Int.ofNat Tools.maxSigned) - 1 ≤ n then .integer n
  else .number (.ofInt n)

/-- The number in front of a text, or zero. -/
def ofText (t : List Char) : Value :=
  let t := Tools.unindented t
  let bare := match t with
    | '-' :: rest | '+' :: rest => rest
    | rest => rest
  if "0x".toList.isPrefixOf (bare.map Char.toLower) then .integer 0
  else match Tools.Numeral.read? t with
    | some (.quotient negative num den, _) =>
      if num % den = 0 then
        let n := Int.ofNat (num / den)
        ofInteger (if negative then -n else n)
      else .number (Binary64.ofQuotient negative num den)
    | some (.infinite negative, _) => .number (.infinite negative)
    | some (.nan, _) => .number .nan
    | none => .integer 0

/-- A value as an integer or as another number. -/
def numeric : Value → Value
  | .undefined => .integer 0
  | .text t => ofText t
  | .code _ | .handle _ | .reference .. => .integer 94000000000232
  | v => v

/-- A value as a number of the binary format. -/
def float (v : Value) : Binary64 :=
  match v.numeric with
  | .integer n => .ofInt n
  | .number x => x
  | _ => .zero false

/-- A value as an integer, what it has more being cut off. -/
def toInt (v : Value) : Int :=
  match v.numeric with
  | .integer n => n
  | .number x =>
    match x.truncated? with
    | some n => max (-maxInteger) (min maxInteger n)
    | none => if x = .nan then 0 else if x.isNegative then -maxInteger else maxInteger
  | _ => 0

def shown : Value → List Char
  | .undefined => []
  | .integer n => (toString n).toList
  | .number x =>
    let t := match x with
      | .nan => "NaN"
      | .infinite _ => "Inf"
      | x => x.display 'g' 15 false
    ((if x.isNegative then "-" else "") ++ t).toList
  | .text t => t
  | .code _ => "CODE(0x557f0000)".toList
  | .handle _ => "GLOB(0x557f0000)".toList
  | .reference '@' n => ("ARRAY(0x557f0000" ++ n ++ ")").toList
  | .reference '%' n => ("HASH(0x557f0000" ++ n ++ ")").toList
  | .reference _ n => ("SCALAR(0x557f0000" ++ n ++ ")").toList

def holds (v : Value) : Bool :=
  match v with
  | .undefined => false
  | .integer n => n ≠ 0
  | .number x => !x.isZero
  | .text t => t ≠ [] && t ≠ ['0']
  | .code _ | .handle _ | .reference .. => true

def isDefined : Value → Bool
  | .undefined => false
  | _ => true

end Value

end AgentLaunch.Perl
