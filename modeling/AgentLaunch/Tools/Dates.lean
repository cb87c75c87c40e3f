import AgentLaunch.Tools.Files
import AgentLaunch.Tools.Quantity

/-!
# Dates

Which texts are read as dates: words and numbers for a day, a time, a zone, and steps from there, in
any order.
-/

namespace AgentLaunch.Tools.Dates

open Shell (State)

inductive Token where
  | number (sign : Option Char) (digits : List Char)
  | word (w : String)
  | mark (c : Char)
  deriving DecidableEq

/-- The parts of a text; blanks and what is in parentheses do not count. The number bounds how many
there are. -/
def tokens? : Nat → List Char → Option (List Token)
  | 0, _ => none
  | _, [] => some []
  | n + 1, c :: rest =>
    if isBlank c then tokens? n rest
    else if isDigit c then
      let digits := (c :: rest).takeWhile isDigit
      (tokens? n ((c :: rest).drop digits.length)).map (.number none digits :: ·)
    else if c = '+' ∨ c = '-' then
      let behind := rest.dropWhile isBlank
      let digits := behind.takeWhile isDigit
      if digits = [] then (tokens? n rest).map (.mark c :: ·)
      else (tokens? n (behind.drop digits.length)).map (.number (some c) digits :: ·)
    else if c.isAlpha then
      let letters := (c :: rest).takeWhile fun d => d.isAlpha || d = '.'
      let name := (String.ofList (letters.filter (· ≠ '.'))).map Char.toUpper
      (tokens? n ((c :: rest).drop letters.length)).map (.word name :: ·)
    else if c = '(' then
      let inside := rest.takeWhile (· ≠ ')')
      if inside.length = rest.length then none else tokens? n (rest.drop (inside.length + 1))
    else if ":/.,@".toList.contains c then (tokens? n rest).map (.mark c :: ·)
    else none

def months : List String :=
  ["JANUARY", "FEBRUARY", "MARCH", "APRIL", "MAY", "JUNE", "JULY", "AUGUST", "SEPTEMBER", "OCTOBER",
    "NOVEMBER", "DECEMBER"]

def days : List String :=
  ["SUNDAY", "MONDAY", "TUESDAY", "WEDNESDAY", "THURSDAY", "FRIDAY", "SATURDAY"]

/-- The number of a month by its name or the first three letters of it. -/
def month? (w : String) : Option Nat :=
  let found := months.findIdx? fun m => m = w || (m.toList.take 3 = w.toList) ||
    (w = "SEPT" && m = "SEPTEMBER")
  found.map (· + 1)

def isDay (w : String) : Bool :=
  (days.any fun d => d = w || d.toList.take 3 = w.toList) ||
    ["TUES", "WEDNES", "THUR", "THURS"].contains w

/-- Units of time, which can stand in the plural. -/
def isUnit (w : String) : Bool :=
  let bare := if w.endsWith "S" then String.ofList w.toList.dropLast else w
  [w, bare].any ["YEAR", "MONTH", "FORTNIGHT", "WEEK", "DAY", "HOUR", "MINUTE", "MIN", "SECOND",
    "SEC"].contains

def isOrdinal (w : String) : Bool :=
  ["LAST", "THIS", "NEXT", "FIRST", "THIRD", "FOURTH", "FIFTH", "SIXTH", "SEVENTH", "EIGHTH",
    "NINTH", "TENTH", "ELEVENTH", "TWELFTH"].contains w

/-- Words for a day or a moment near the present one. -/
def isNear (w : String) : Bool :=
  ["NOW", "TODAY", "TOMORROW", "YESTERDAY"].contains w

def isZone (w : String) : Bool :=
  ["GMT", "UT", "UTC", "WET", "WEST", "BST", "ART", "BRT", "BRST", "NST", "NDT", "AST", "ADT",
    "CLT", "CLST", "EST", "EDT", "CST", "CDT", "MST", "MDT", "PST", "PDT", "AKST", "AKDT", "HST",
    "HAST", "HADT", "SST", "WAT", "CET", "CEST", "MET", "MEZ", "MEST", "MESZ", "EET", "EEST", "CAT",
    "SAST", "EAT", "MSK", "MSD", "IST", "SGT", "KST", "JST", "GST", "NZST", "NZDT",
    "Z"].contains w ||
    (w.length = 1 && w ≠ "J" && w ≠ "T")

def isMeridian (w : String) : Bool :=
  w = "AM" || w = "PM"

def isLeap (y : Nat) : Bool :=
  y % 4 = 0 && (y % 100 ≠ 0 || y % 400 = 0)

def isDate (y m d : Nat) : Bool :=
  let length := match m with
    | 2 => if isLeap y then 29 else 28
    | 4 | 6 | 9 | 11 => 30
    | _ => 31
  1 ≤ m && m ≤ 12 && 1 ≤ d && d ≤ length

def isTime (h m s : Nat) : Bool :=
  h ≤ 23 && m ≤ 59 && s ≤ 60

/-- How often each kind of part was found: a day, a time, a zone, the name of a day. -/
structure Seen where
  dates : Nat
  times : Nat
  zones : Nat
  days : Nat

def Seen.isSound (s : Seen) : Bool :=
  s.dates ≤ 1 && s.times ≤ 1 && s.zones ≤ 1 && s.days ≤ 1

def value (digits : List Char) : Nat :=
  ofDigits 10 digits

/-- A year that is told with at most two digits. -/
def year (digits : List Char) : Nat :=
  if digits.length ≤ 2 then (if value digits < 69 then 2000 else 1900) + value digits
  else value digits

/-- What may stand behind a time: a half of the day or a difference to the zone. -/
def afterTime (hour : Nat) : List Token → Option (Nat × List Token)
  | .word w :: rest =>
    if isMeridian w then (if 1 ≤ hour ∧ hour ≤ 12 then some (0, rest) else none)
    else some (0, .word w :: rest)
  | .number (some _) digits :: .mark ':' :: .number none more :: rest =>
    if digits.length ≤ 2 ∧ value digits ≤ 24 ∧ value more ≤ 59 then some (1, rest) else none
  | .number (some c) digits :: rest =>
    match rest with
    | .word w :: _ => if isUnit w then some (0, .number (some c) digits :: rest)
      else if digits.length ≤ 4 ∧ value (digits.take 2) ≤ 24 then some (1, rest) else none
    | _ => if digits.length ≤ 4 ∧ value (digits.take 2) ≤ 24 then some (1, rest) else none
  | rest => some (0, rest)

/-- What a number alone adds: a day as eight or six digits, or a time as at most four. -/
def withNumber (s : Seen) (sign : Option Char) (a : List Char) : Option Seen :=
  if sign.isSome then
    if s.times = 1 ∧ s.zones = 0 ∧ a.length ≤ 4 then some { s with zones := 1 } else none
  else if s.dates = 1 ∧ s.times = 1 ∧ a.length > 2 then some s
  else if a.length > 4 then
    let d := value (a.drop (a.length - 2))
    let m := value ((a.drop (a.length - 4)).take 2)
    if isDate (year (a.take (a.length - 4))) m d then some { s with dates := s.dates + 1 } else none
  else
    let (h, m) := if a.length ≤ 2 then (value a, 0)
      else (value (a.take (a.length - 2)), value (a.drop (a.length - 2)))
    if isTime h m 0 then some { s with times := s.times + 1 } else none

/-- Reads parts one after another. The number bounds how many there are. -/
def items : Nat → Seen → List Token → Option Seen
  | 0, _, _ => none
  | n + 1, s, t =>
    match t with
    | [] => some s
    | .number none a :: .mark ':' :: .number none b :: .mark ':' :: .number none c :: rest =>
      let rest := match rest with
        | .mark '.' :: .number none _ :: rest => rest
        | .mark ',' :: .number none _ :: rest => rest
        | rest => rest
      if !isTime (value a) (value b) (value c) then none
      else match afterTime (value a) rest with
        | some (z, rest) => items n { s with times := s.times + 1, zones := s.zones + z } rest
        | none => none
    | .number none a :: .mark ':' :: .number none b :: rest =>
      if !isTime (value a) (value b) 0 then none
      else match afterTime (value a) rest with
        | some (z, rest) => items n { s with times := s.times + 1, zones := s.zones + z } rest
        | none => none
    | .number none a :: .number (some '-') b :: .number (some '-') c :: rest =>
      let rest := match rest with
        | .word "T" :: rest => rest
        | rest => rest
      if isDate (year a) (value b) (value c) then items n { s with dates := s.dates + 1 } rest
      else none
    | .number none _ :: .number (some '-') b :: rest =>
      match rest with
      | .word w :: more =>
        if isUnit w then items n s (.number (some '-') b :: .word w :: more)
        else none
      | _ => none
    | .number none a :: .mark '/' :: .number none b :: .mark '/' :: .number none c :: rest =>
      let (y, m, d) := if a.length ≥ 4 then (value a, value b, value c)
        else (year c, value a, value b)
      if isDate y m d then items n { s with dates := s.dates + 1 } rest else none
    | .number none a :: .mark '/' :: .number none b :: rest =>
      if isDate 2000 (value a) (value b) then items n { s with dates := s.dates + 1 } rest else none
    | .mark '@' :: .number _ _ :: .mark '.' :: .number none _ :: [] => some s
    | .mark '@' :: .number _ _ :: [] => some s
    | .number sign a :: .word w :: rest =>
      if isMeridian w ∧ sign.isNone then
        if 1 ≤ value a ∧ value a ≤ 12 then items n { s with times := s.times + 1 } rest else none
      else if isUnit w then
        items n s (match rest with
          | .word "AGO" :: rest | .word "HENCE" :: rest => rest
          | rest => rest)
      else match month? w, sign with
        | some m, none =>
          let (y, rest) := match rest with
            | .number none y :: more =>
              (match more with
                | .mark ':' :: _ => (2000, rest)
                | _ => (year y, more))
            | rest => (2000, rest)
          if isDate y m (value a) then items n { s with dates := s.dates + 1 } rest else none
        | _, _ =>
          if isDay w ∧ sign.isNone then items n { s with days := s.days + 1 } rest
          else (withNumber s sign a).bind fun s => items n s (.word w :: rest)
    | .number sign a :: rest => (withNumber s sign a).bind fun s => items n s rest
    | .word w :: rest =>
      if isNear w then items n s (match rest with
        | .word "AGO" :: rest => rest
        | rest => rest)
      else if isOrdinal w then
        match rest with
        | .word u :: rest =>
          if isUnit u then items n s (match rest with
            | .word "AGO" :: rest => rest
            | rest => rest)
          else if isDay u then items n { s with days := s.days + 1 } rest
          else none
        | _ => none
      else if isUnit w then items n s (match rest with
        | .word "AGO" :: rest => rest
        | rest => rest)
      else match month? w, rest with
        | some m, .number none d :: .mark ',' :: .number none y :: rest =>
          if isDate (year y) m (value d) then items n { s with dates := s.dates + 1 } rest else none
        | some m, .number none d :: rest =>
          let (y, rest) := match rest with
            | .number none y :: more =>
              (match more with
                | .mark ':' :: _ => (2000, rest)
                | _ => (year y, more))
            | rest => (2000, rest)
          if isDate y m (value d) then items n { s with dates := s.dates + 1 } rest else none
        | some _, _ => none
        | none, _ =>
          if isDay w then items n { s with days := s.days + 1 } (match rest with
            | .mark ',' :: rest => rest
            | rest => rest)
          else if isZone w then
            items n { s with zones := s.zones + 1 } (match rest with
              | .word "DST" :: rest => rest
              | rest => rest)
          else if w = "DST" then items n s rest
          else none
    | .mark _ :: _ => none

def isText (t : String) : Bool :=
  match tokens? (t.length + 1) t.toList with
  | some ts => ((items (ts.length + 1) ⟨0, 0, 0, 0⟩ ts).map Seen.isSound).getD false
  | none => false

def exactness : List String := ["hours", "minutes", "date", "seconds", "ns"]

def run (s : State) (r : Reading) : State :=
  let formats := r.operands.filter fun w => w.startsWith "+"
  let others := r.operands.filter fun w => !w.startsWith "+"
  let shown := (["I", "R", "rfc-3339"].filter r.has).length
  let sources := ["d", "f", "r", "resolution"].filter r.has
  if r.operands.length > 1 ∨ sources.length > 1 ∨ (sources ≠ [] ∧ (r.has "s" ∨ others ≠ [])) ∨
      shown + formats.length > 1 then s.withStatus 1
  else if r.has "s" ∨ others ≠ [] then s.withStatus 1
  else if (r.value? "r").any fun p => (found? s p).toOption.isNone then s.withStatus 1
  else match r.value? "f" with
    | some path =>
      match textAt s path with
      | (some t, s) => s.withStatus
          (if (partsAt '\n' t).all fun l => isText (String.ofList l) then 0 else 1)
      | (none, s) => s.withStatus 1
    | none =>
      if (r.value? "d").any (!isText ·) then s.withStatus 1
      else sayLines s ["Thu Jan  1 00:00:00 UTC 1970"]

def tool : Tool where
  letters := "d:f:I::r:Rs:u"
  names := "date:=d debug file:=f iso-8601::=I reference:=r resolution rfc-email=R rfc-822=R " ++
    "rfc-2822=R rfc-3339: set:=s uct=u utc=u universal=u help version"
  sound := ruled [("I", isChoice exactness), ("rfc-3339", isChoice ["date", "seconds", "ns"])]
  run := run

end AgentLaunch.Tools.Dates
