/-!
# Dates and times

Calendar dates, times of day, and their combinations as they stand in TOML documents, with their
normal text.
-/

namespace AgentLaunch.Toml

structure Date where
  year : Nat
  month : Nat
  day : Nat
  deriving DecidableEq, Repr

structure Time where
  hour : Nat
  minute : Nat
  second : Nat
  nanosecond : Nat
  deriving DecidableEq, Repr

/-- The distance of a local clock from universal time. -/
inductive Offset where
  | zulu
  | minutes (n : Int)
  deriving DecidableEq, Repr

inductive Moment where
  | date (d : Date)
  | time (t : Time)
  | dateTime (d : Date) (t : Time) (offset : Option Offset)
  deriving DecidableEq, Repr

/-- A number in decimal digits, with zeros in front up to a width. -/
def padded (width n : Nat) : String :=
  let digits := Nat.toDigits 10 n
  String.ofList (List.replicate (width - digits.length) '0' ++ digits)

namespace Date

def isLeapYear (year : Nat) : Bool :=
  year % 4 = 0 && (year % 100 ≠ 0 || year % 400 = 0)

def daysInMonth (year month : Nat) : Nat :=
  if month = 2 then (if isLeapYear year then 29 else 28)
  else if month = 4 ∨ month = 6 ∨ month = 9 ∨ month = 11 then 30
  else 31

def isValid (d : Date) : Bool :=
  1 ≤ d.month && d.month ≤ 12 && 1 ≤ d.day && d.day ≤ daysInMonth d.year d.month

def text (d : Date) : String :=
  padded 4 d.year ++ "-" ++ padded 2 d.month ++ "-" ++ padded 2 d.day

end Date

namespace Time

/-- Whether a clock can show this time; a leap second may be inserted anywhere. -/
def isValid (t : Time) : Bool :=
  t.hour ≤ 23 && t.minute ≤ 59 && t.second ≤ 60

/-- The fraction of a second, without zeros at its end. -/
def fractionText (nanosecond : Nat) : String :=
  if nanosecond = 0 then ""
  else
    let digits := (padded 9 nanosecond).toList
    String.ofList ('.' :: (digits.reverse.dropWhile (· = '0')).reverse)

def text (t : Time) : String :=
  padded 2 t.hour ++ ":" ++ padded 2 t.minute ++ ":" ++ padded 2 t.second ++
    fractionText t.nanosecond

end Time

/-- The sign of an offset of zero minutes is `+`. -/
def Offset.text : Offset → String
  | .zulu => "Z"
  | .minutes n =>
    (if n < 0 then "-" else "+") ++ padded 2 (n.natAbs / 60) ++ ":" ++ padded 2 (n.natAbs % 60)

def Moment.text : Moment → String
  | .date d => d.text
  | .time t => t.text
  | .dateTime d t offset =>
    d.text ++ "T" ++ t.text ++ (match offset with
      | some o => o.text
      | none => "")

end AgentLaunch.Toml
