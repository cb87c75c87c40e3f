import AgentLaunch.Toml.Reader
import AgentLaunch.Toml.Value

/-!
# Numbers in TOML

Integers, floating point numbers, dates and times. Digits may be grouped by single underscores.
-/

namespace AgentLaunch.Toml

open Reader

/-- The value of a digit in the bases up to sixteen. -/
def digitValue (c : Char) : Nat :=
  if '0' ≤ c ∧ c ≤ '9' then c.toNat - 48
  else if 'a' ≤ c ∧ c ≤ 'f' then c.toNat - 87
  else if 'A' ≤ c ∧ c ≤ 'F' then c.toNat - 55
  else 0

def isHexDigit (c : Char) : Bool :=
  ('0' ≤ c && c ≤ '9') || ('a' ≤ c && c ≤ 'f') || ('A' ≤ c && c ≤ 'F')

def isOctalDigit (c : Char) : Bool :=
  '0' ≤ c && c ≤ '7'

def isBinaryDigit (c : Char) : Bool :=
  c = '0' || c = '1'

def ofDigits (base : Nat) (digits : List Char) : Nat :=
  digits.foldl (fun n c => n * base + digitValue c) 0

/-- Whether the character in front stands for a sign; no sign is a plus. -/
def negative : Reader Bool := do
  if ← skip? '-' then return true
  let _ ← skip? '+'
  return false

/-- Digits of a kind. An underscore has a digit on both sides. -/
def digits (isDigit : Char → Bool) : Reader (List Char) := do
  let first ← satisfying isDigit
  let rest ← many do
    if ← skip? '_' then return some (← satisfying isDigit)
    match ← peek with
    | some c => if isDigit c then some <$> satisfying isDigit else return none
    | none => return none
  return first :: rest

def decimalDigits : Reader (List Char) := do
  if ← skip? '0' then return ['0'] else digits Char.isDigit

def inIntegerRange (n : Int) : Bool :=
  -9223372036854775808 ≤ n && n ≤ 9223372036854775807

private def prefixedInteger (mark : String) (base : Nat) (isDigit : Char → Bool) : Reader Int := do
  text mark
  return Int.ofNat (ofDigits base (← digits isDigit))

private def decimalInteger : Reader Int := do
  let minus ← negative
  let n := Int.ofNat (ofDigits 10 (← decimalDigits))
  return if minus then -n else n

/-- An integer. Only decimal ones have a sign. -/
def integer : Reader Scalar := do
  let n ← prefixedInteger "0x" 16 isHexDigit <|> prefixedInteger "0o" 8 isOctalDigit <|>
    prefixedInteger "0b" 2 isBinaryDigit <|> decimalInteger
  if inIntegerRange n then return .integer n else fail

private def fraction : Reader (List Char) := do
  char '.'
  digits Char.isDigit

private def exponent : Reader Int := do
  let _ ← satisfying fun c => c = 'e' || c = 'E'
  let minus ← negative
  let n := Int.ofNat (ofDigits 10 (← digits Char.isDigit))
  return if minus then -n else n

/-- A floating point number with a fraction, an exponent, or both. A positive one that is too
large is refused, a negative one is infinite. -/
def decimalFloat : Reader Scalar := do
  let minus ← negative
  let whole ← decimalDigits
  let places ← optional fraction
  let scale ← optional exponent
  if places.isNone && scale.isNone then fail
  let significand := whole ++ places.getD []
  let x := Binary64.ofDecimal minus (ofDigits 10 significand)
    (scale.getD 0 - Int.ofNat (places.getD []).length)
  if x = .infinite false then fail else return .float x

def specialFloat : Reader Scalar := do
  let minus ← negative
  (do text "inf"; return .float (.infinite minus)) <|> (do text "nan"; return .float .nan)

def fixedDigits : Nat → Reader (List Char)
  | 0 => return []
  | n + 1 => do return (← satisfying Char.isDigit) :: (← fixedDigits n)

private def fixedNumber (width : Nat) : Reader Nat :=
  ofDigits 10 <$> fixedDigits width

def date : Reader Date := do
  let year ← fixedNumber 4
  char '-'
  let month ← fixedNumber 2
  char '-'
  let day ← fixedNumber 2
  let d : Date := ⟨year, month, day⟩
  if d.isValid then return d else fail

/-- The nanoseconds of a fraction; digits beyond the ninth are dropped. -/
private def nanoseconds : Reader Nat := do
  char '.'
  let places := (← takeWhile1 Char.isDigit).take 9
  return ofDigits 10 places * Nat.pow 10 (9 - places.length)

def time : Reader Time := do
  let hour ← fixedNumber 2
  char ':'
  let minute ← fixedNumber 2
  char ':'
  let second ← fixedNumber 2
  let t : Time := ⟨hour, minute, second, (← optional nanoseconds).getD 0⟩
  if t.isValid then return t else fail

def offset : Reader Offset := do
  let mark ← satisfying fun c => c = 'Z' || c = 'z' || c = '+' || c = '-'
  if mark = 'Z' || mark = 'z' then return .zulu
  let hours ← fixedNumber 2
  char ':'
  let minutes ← fixedNumber 2
  if hours ≤ 23 && minutes ≤ 59 then
    let n := Int.ofNat (hours * 60 + minutes)
    return .minutes (if mark = '-' then -n else n)
  else fail

private def timeAfterDate : Reader (Time × Option Offset) := do
  let _ ← satisfying fun c => c = 'T' || c = 't' || c = ' '
  return (← time, ← optional offset)

def moment : Reader Moment :=
  (do
    let d ← date
    match ← optional timeAfterDate with
    | some (t, o) => return .dateTime d t o
    | none => return .date d) <|>
  (.time <$> time)

/-- Whatever begins with a digit or a sign. -/
def number : Reader Scalar :=
  (.moment <$> moment) <|> decimalFloat <|> specialFloat <|> integer

end AgentLaunch.Toml
