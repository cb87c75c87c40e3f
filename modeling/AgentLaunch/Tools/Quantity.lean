import AgentLaunch.Binary64

/-!
# Quantities

How tools read numbers: counts with a letter that scales them, and decimal or hexadecimal numerals
with a point and an exponent.
-/

namespace AgentLaunch.Tools

def isDigit (c : Char) : Bool :=
  '0' ≤ c && c ≤ '9'

def isBlank (c : Char) : Bool :=
  c = ' ' || ('\t' ≤ c && c ≤ '\x0d')

/-- The value of a digit; a letter is one above nine. -/
def digitValue (c : Char) : Nat :=
  if isDigit c then c.toNat - 48
  else if c.isAlpha then c.toLower.toNat - 87
  else 99

def ofDigits (base : Nat) (digits : List Char) : Nat :=
  digits.foldl (fun n c => n * base + digitValue c) 0

/-- A text without the blanks in front. -/
def unindented (t : List Char) : List Char :=
  t.dropWhile isBlank

/-- The largest number of the machine without a sign. -/
def maxWord : Nat := 18446744073709551615

/-- The largest number of the machine with a sign. -/
def maxSigned : Nat := 9223372036854775807

namespace Quantity

/-- The powers of a thousand that letters stand for. -/
def steps (c : Char) : Option Nat :=
  match c with
  | 'k' | 'K' => some 1
  | 'm' | 'M' => some 2
  | 'g' | 'G' => some 3
  | 't' | 'T' => some 4
  | 'P' => some 5
  | 'E' => some 6
  | 'Z' => some 7
  | 'Y' => some 8
  | 'R' => some 9
  | 'Q' => some 10
  | _ => none

/-- What a text behind a count scales it by. The zero among the letters that are allowed says that
the base can be told. -/
def scale? (letters t : List Char) : Option Nat :=
  match t with
  | [] => some 1
  | c :: rest =>
    if !letters.contains c then none
    else match steps c, rest with
      | none, [] =>
        match c with
        | 'b' => some 512
        | 'c' => some 1
        | 'w' => some 2
        | 'B' => some 1024
        | _ => none
      | none, _ :: _ => none
      | some n, [] => some (Nat.pow 1024 n)
      | some n, rest =>
        if !letters.contains '0' then none
        else match rest with
          | ['i', 'B'] => some (Nat.pow 1024 n)
          | ['B'] | ['D'] => some (Nat.pow 1000 n)
          | _ => none

/-- A count with a letter that scales it. A letter alone means one of its units. -/
def count? (letters : String) (t : String) : Option Nat :=
  let front := unindented t.toList
  let unsigned := match front with
    | '+' :: rest => rest
    | _ => front
  let digits := unsigned.takeWhile isDigit
  if digits = [] then
    if front ≠ [] ∧ front.length = t.length then scale? letters.toList front else none
  else (scale? letters.toList (unsigned.drop digits.length)).map (· * ofDigits 10 digits)

/-- A count that the machine can hold, and that is at least some number. -/
def atLeast (letters : String) (least : Nat) (t : String) : Bool :=
  (count? letters t).any fun n => least ≤ n && n ≤ maxWord

/-- A count with a sign in front, which stays apart. -/
def signed? (letters : String) (t : String) : Option (Option Char × Nat) :=
  match t.toList with
  | '-' :: rest => (count? letters (String.ofList rest)).map (some '-', ·)
  | '+' :: rest =>
    if rest.head? = some '+' then none
    else (count? letters (String.ofList rest)).map (some '+', ·)
  | _ => (count? letters t).map (none, ·)

end Quantity

/-- A number that a numeral stands for: a quotient, or beyond all of them. -/
inductive Numeral where
  | quotient (negative : Bool) (num den : Nat)
  | infinite (negative : Bool)
  | nan

namespace Numeral

/-- A number without its scale; what is too long a way from one is cut off. -/
def scaled (negative : Bool) (digits base : Nat) (places exponent : Int) : Numeral :=
  let power := exponent + places
  if digits = 0 then .quotient negative 0 1
  else if power > 5000 then .infinite negative
  else if power < -6000 then .quotient negative 1 (Nat.pow base 6000)
  else .quotient negative (digits * Nat.pow base power.toNat) (Nat.pow base (-power).toNat)

/-- Digits with a point among them: their value, the number of places behind the point, and the
rest. -/
def mantissa? (base : Nat) (t : List Char) : Option (Nat × Nat × List Char) :=
  let isIn (c : Char) : Bool := digitValue c < base
  let whole := t.takeWhile isIn
  let rest := t.drop whole.length
  let (places, rest) := match rest with
    | '.' :: behind => (behind.takeWhile isIn, behind.drop (behind.takeWhile isIn).length)
    | _ => ([], rest)
  if whole = [] ∧ places = [] then none
  else some (ofDigits base (whole ++ places), places.length, rest)

def exponent (letter : Char) (t : List Char) : Int × List Char :=
  match t with
  | c :: rest =>
    if c.toLower ≠ letter then (0, t)
    else
      let (sign, digits) := match rest with
        | '-' :: more => (-1, more)
        | '+' :: more => (1, more)
        | _ => (1, rest)
      let found := digits.takeWhile isDigit
      if found = [] then (0, t)
      else (sign * Int.ofNat (ofDigits 10 (found.take 9)), digits.drop found.length)
  | [] => (0, [])

/-- The number in front of a text behind its sign. -/
def unsigned? (negative : Bool) (t : List Char) : Option (Numeral × List Char) :=
  let lower := t.map Char.toLower
  let decimal : Option (Numeral × List Char) := do
    let (digits, places, rest) ← mantissa? 10 t
    let (e, rest) := exponent 'e' rest
    return (scaled negative digits 10 (-places) e, rest)
  if "infinity".toList.isPrefixOf lower then some (.infinite negative, t.drop 8)
  else if "inf".toList.isPrefixOf lower then some (.infinite negative, t.drop 3)
  else if "nan".toList.isPrefixOf lower then some (.nan, t.drop 3)
  else if "0x".toList.isPrefixOf lower then
    match mantissa? 16 (t.drop 2) with
    | some (digits, places, rest) =>
      let (e, rest) := exponent 'p' rest
      some (scaled negative digits 2 (-4 * places) e, rest)
    | none => decimal
  else decimal

/-- The number in front of a text, and the rest. -/
def read? (t : List Char) : Option (Numeral × List Char) :=
  match unindented t with
  | '-' :: rest => unsigned? true rest
  | '+' :: rest => unsigned? false rest
  | rest => unsigned? false rest

end Numeral

/-- A length of time in nanoseconds, which can be without end. -/
inductive Duration where
  | nanoseconds (n : Nat)
  | endless
  deriving DecidableEq

namespace Duration

def plus : Duration → Duration → Duration
  | .nanoseconds m, .nanoseconds n => .nanoseconds (m + n)
  | _, _ => .endless

/-- The seconds that a letter stands for. -/
def unit? : List Char → Option Nat
  | [] | ['s'] => some 1
  | ['m'] => some 60
  | ['h'] => some 3600
  | ['d'] => some 86400
  | _ => none

/-- A number with a letter for its unit; parts of a nanosecond count as a whole one. -/
def read? (t : String) : Option Duration := do
  let (number, rest) ← Numeral.read? t.toList
  let unit ← unit? rest
  match number with
  | .quotient negative num den =>
    if negative ∧ num ≠ 0 then none
    else some (.nanoseconds ((num * unit * 1000000000 + den - 1) / den))
  | .infinite false => some .endless
  | _ => none

end Duration

end AgentLaunch.Tools
