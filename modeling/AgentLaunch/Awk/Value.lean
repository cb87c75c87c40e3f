import AgentLaunch.Awk.Check
import AgentLaunch.Binary64.Display
import AgentLaunch.Tools.Quantity

/-!
# Values

A value is a number or a text, and it can be used as either. A text from outside the program that
looks like a number is compared as one.
-/

namespace AgentLaunch.Awk

inductive Value where
  | unset
  | number (x : Binary64)
  | text (t : List Char)
  | outer (t : List Char)

namespace Value

def zero : Value := .number (.zero false)

def ofNat (n : Nat) : Value := .number (.ofInt (Int.ofNat n))

def ofInt (n : Int) : Value := .number (.ofInt n)

def ofBool (b : Bool) : Value := ofNat (if b then 1 else 0)

def ofString (t : String) : Value := .text t.toList

def ofNumeral : Tools.Numeral → Binary64
  | .quotient negative num den => if num = 0 then .zero negative else .ofQuotient negative num den
  | .infinite negative => .infinite negative
  | .nan => .nan

/-- The number in front of a text, or zero. -/
def numberOf (t : List Char) : Binary64 :=
  ((Tools.Numeral.read? t).map fun n => ofNumeral n.1).getD (.zero false)

/-- Whether a text is a number between blanks. -/
def looksNumeric (t : List Char) : Bool :=
  match Tools.Numeral.read? t with
  | some (_, rest) => rest.all Tools.isBlank
  | none => false

def toNumber : Value → Binary64
  | .unset => .zero false
  | .number x => x
  | .text t | .outer t => numberOf t

/-- The largest integers that are written without an exponent. -/
def maxPlain : Nat := Tools.maxSigned

/-- A number with a conversion for those that are no integers. -/
def shownNumber (conversion : Char) (precision : Nat) (x : Binary64) : List Char :=
  let sign := if x.isNegative then "-" else ""
  match x.truncated? with
  | some n =>
    if conversion = 'd' ∨ (Binary64.ofInt n).compare? x = some .eq ∧ n.natAbs < maxPlain then
      (toString n).toList
    else (sign ++ x.display conversion precision false).toList
  | none => (sign ++ x.display conversion precision false).toList

/-- The text of a value, for numbers with a format that says how many digits there are. -/
def shown (format : Char × Nat) : Value → List Char
  | .unset => []
  | .number x => shownNumber format.1 format.2 x
  | .text t | .outer t => t

def holds : Value → Bool
  | .unset => false
  | .number x => !x.isZero
  | .text t => t ≠ []
  | .outer t => if looksNumeric t then !(numberOf t).isZero else t ≠ []

def isNumeric : Value → Bool
  | .unset | .number _ => true
  | .text _ => false
  | .outer t => looksNumeric t

def compareTexts (a b : List Char) : Ordering :=
  compare (a.map Char.toNat) (b.map Char.toNat)

def compare? (format : Char × Nat) (a b : Value) : Option Ordering :=
  match a, b with
  | .unset, .unset => some .eq
  | a, b =>
    if a.isNumeric ∧ b.isNumeric then a.toNumber.compare? b.toNumber
    else some (compareTexts (a.shown format) (b.shown format))

def satisfies (c : Comparison) (o : Option Ordering) : Bool :=
  match c, o with
  | .less, some .lt | .lessEqual, some .lt | .lessEqual, some .eq | .equal, some .eq
  | .greaterEqual, some .eq | .greaterEqual, some .gt | .greater, some .gt => true
  | .different, o => o ≠ some .eq
  | _, _ => false

/-- The precision and the letter of a format for one number; others count as the usual one. -/
def formatOf (t : List Char) : Char × Nat :=
  match t with
  | '%' :: '.' :: rest =>
    let digits := rest.takeWhile Char.isDigit
    match rest.drop digits.length with
    | [c] => if "efg".toList.contains c then (c, Tools.ofDigits 10 digits) else ('g', 6)
    | _ => ('g', 6)
  | ['%', c] => if "efg".toList.contains c then (c, 6) else if c = 'd' then ('d', 0) else ('g', 6)
  | _ => ('g', 6)

/-- An integer that the machine can hold, by cutting off what a number has more. -/
def machineInt (x : Binary64) : Int :=
  match x.truncated? with
  | some n =>
    let most := Int.ofNat Tools.maxSigned
    if n > most then most else if n < -most then -most else n
  | none =>
    if x = .nan then 0
    else if x.isNegative then -Int.ofNat Tools.maxSigned else Int.ofNat Tools.maxSigned

end Value

end AgentLaunch.Awk
