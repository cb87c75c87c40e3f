import AgentLaunch.Tools.Lines

/-!
# Tools for numbers

Tools that count, take numbers apart, or write them in other units, and the one that waits.
-/

namespace AgentLaunch.Tools

open Shell (State)

namespace Seq

/-- A decimal number: its digits as an integer, how many of them are behind the point, and whether
it is written plainly. -/
structure Decimal where
  value : Int
  places : Nat

/-- A decimal number without an exponent as it is written, or one with an exponent at its value. -/
def decimal? (t : String) : Option Decimal := do
  let (negative, unsigned) := match unindented t.toList with
    | '-' :: rest => (true, rest)
    | '+' :: rest => (false, rest)
    | rest => (false, rest)
  let sign (n : Nat) : Int := if negative then -Int.ofNat n else Int.ofNat n
  if "0x".toList.isPrefixOf (unsigned.map Char.toLower) then
    match Numeral.read? t.toList with
    | some (.quotient _ n 1, []) => return ⟨sign n, 0⟩
    | _ => none
  else
    let (digits, places, rest) ← Numeral.mantissa? 10 unsigned
    let (e, rest) := Numeral.exponent 'e' rest
    if rest ≠ [] ∨ e.natAbs > 400 then none
    else if e ≥ 0 then
      return ⟨sign (digits * Nat.pow 10 (e.toNat - places)), places - e.toNat⟩
    else return ⟨sign digits, places + e.natAbs⟩

def Decimal.isZero (d : Decimal) : Bool :=
  d.value = 0

def Decimal.at (places : Nat) (d : Decimal) : Int :=
  d.value * Int.ofNat (Nat.pow 10 (places - d.places))

/-- Whether a format has exactly one place for a number. -/
def isFormat (t : String) : Bool :=
  let rec front : List Char → Option (List Char)
    | '%' :: '%' :: rest => front rest
    | '%' :: rest => some rest
    | _ :: rest => front rest
    | [] => none
  let rec back : List Char → Bool
    | '%' :: '%' :: rest => back rest
    | '%' :: _ => false
    | _ :: rest => back rest
    | [] => true
  match front t.toList with
  | none => false
  | some rest =>
    let rest := rest.dropWhile fun c => "-+#0 '".toList.contains c
    let rest := rest.dropWhile isDigit
    let rest := match rest with
      | '.' :: more => more.dropWhile isDigit
      | _ => rest
    let rest := if rest.head? = some 'L' then rest.drop 1 else rest
    match rest with
    | c :: more => "aAeEfFgG".toList.contains c && back more
    | [] => false

/-- Whether a word is a number with a sign. -/
def isNegative (w : String) : Bool :=
  match w.toList with
  | '-' :: c :: _ => isDigit c || c = '.'
  | _ => false

/-- Numbers that begin with a dash are no options. -/
def rewritten : List String → List String
  | [] => []
  | w :: rest =>
    if w = "--" then w :: rest
    else if isNegative w then "--" :: w :: rest
    else if !w.startsWith "-" then w :: rest
    else match rest with
      | v :: more => if w = "-f" ∨ w = "-s" then w :: v :: rewritten more
        else w :: rewritten (v :: more)
      | [] => [w]

def shown (places : Nat) (n : Int) : String :=
  let digits := Nat.toDigits 10 n.natAbs
  let digits := List.replicate (places + 1 - digits.length) '0' ++ digits
  let whole := digits.take (digits.length - places)
  (if n < 0 then "-" else "") ++ String.ofList whole ++
    (if places = 0 then "" else "." ++ String.ofList (digits.drop (digits.length - places)))

def widened (width : Nat) (t : String) : String :=
  let zeros := String.ofList (List.replicate (width - t.length) '0')
  if t.startsWith "-" then "-" ++ zeros ++ (t.drop 1).toString else zeros ++ t

/-- How many numbers are written at most. -/
def limit : Nat := 200000

def run (s : State) (r : Reading) : State :=
  match r.operands.mapM decimal? with
  | none => s.withStatus (if r.operands.all fun t => match Numeral.read? t.toList with
      | some (.nan, _) => false
      | some (_, rest) => rest = []
      | none => false then 0 else 1)
  | some ds =>
    let (first, step, last) : Decimal × Decimal × Decimal := match ds with
      | [last] => (⟨1, 0⟩, ⟨1, 0⟩, last)
      | [first, last] => (first, ⟨1, 0⟩, last)
      | first :: step :: last :: _ => (first, step, last)
      | [] => (⟨1, 0⟩, ⟨1, 0⟩, ⟨0, 0⟩)
    if step.isZero then s.withStatus 1
    else
      let shownPlaces := max first.places step.places
      let places := max shownPlaces last.places
      let (a, b, c) := (first.at places, step.at places, last.at places)
      let count := if b > 0 then (c - a) / b + 1 else (a - c) / (-b) + 1
      let scale := Int.ofNat (Nat.pow 10 (places - shownPlaces))
      let numbers := (List.range (min count.toNat limit)).map fun k =>
        shown shownPlaces ((a + b * Int.ofNat k) / scale)
      let width := (numbers.map String.length).foldl max 0
      let numbers := if r.has "w" then numbers.map (widened width) else numbers
      match r.value? "s" with
      | some t => if numbers = [] then s else sayLines s [String.intercalate t numbers]
      | none => sayLines s numbers

def tool : Tool where
  letters := "+f:s:w"
  names := "equal-width=w format:=f separator:=s help version"
  rewritten := rewritten
  run := counted 1 (some 3) 1 fun s r =>
    if (r.value? "f").any fun f => r.has "w" || !isFormat f then s.withStatus 1 else run s r

end Seq

namespace Factor

/-- The prime factors of a number from a divisor on; what is left after so many divisors counts as
one. -/
def factors : Nat → Nat → Nat → List Nat
  | 0, _, n => if n > 1 then [n] else []
  | k + 1, d, n =>
    if n < 2 then []
    else if d * d > n then [n]
    else if n % d = 0 then d :: factors k d (n / d)
    else factors k (if d = 2 then 3 else d + 2) n

def number? (t : String) : Option Nat :=
  let digits := match t.toList.dropWhile fun c => c = ' ' with
    | '+' :: rest => rest
    | rest => rest
  if digits ≠ [] ∧ digits.all isDigit then some (ofDigits 10 digits) else none

def run (s : State) (r : Reading) : State :=
  let words := if r.operands = [] then
      (((String.ofList s.input).map fun c => if isBlank c then ' ' else c).splitOn " ").filter
        (· ≠ "")
    else r.operands
  words.foldl (fun s w => match number? w with
    | some n =>
      let found := factors 100000 2 n
      let shown (f : Nat) : String :=
        let times := found.count f
        if r.has "h" && times > 1 then toString f ++ "^" ++ toString times else toString f
      let all := if r.has "h" then found.eraseDups else found
      sayLines s [toString n ++ ":" ++ String.join (all.map fun f => " " ++ shown f)]
    | none => failed 1 s) s

def tool : Tool where
  letters := "h"
  names := "exponents=h -debug help version"
  run := run

end Factor

namespace Numfmt

def scales : List String := ["auto", "si", "iec", "iec-i", "none"]

/-- Whether a text is a number with a letter that the scale allows. -/
def isNumber (scale t : String) : Bool :=
  let front := t.toList.dropWhile isBlank
  let unsigned := match front with
    | '-' :: rest => rest
    | rest => rest
  let whole := unsigned.takeWhile isDigit
  let rest := unsigned.drop whole.length
  let (places, rest) := match rest with
    | '.' :: more => (more.takeWhile isDigit, more.drop (more.takeWhile isDigit).length)
    | _ => (['0'], rest)
  let rest := rest.dropWhile isBlank
  (whole ≠ [] || rest.length < unsigned.length) && whole.length + places.length > 0 &&
    (whole ≠ [] || places ≠ []) && places ≠ [] && (match rest, scale with
    | [], _ => true
    | [_], "none" | [_], "iec-i" => false
    | [c], _ => "KMGTPEZYRQ".toList.contains c || (c = 'k' && scale ≠ "iec")
    | [c, 'i'], _ => (scale = "auto" || scale = "iec-i") && "KMGTPEZYRQ".toList.contains c
    | _, _ => false)

def isUnit (t : String) : Bool :=
  (Quantity.count? "KMGTPEZYRQ0" t).any (· > 0)

def isPadding (t : String) : Bool :=
  match t.toList with
  | '-' :: digits => digits ≠ [] && digits.all isDigit && ofDigits 10 digits ≠ 0
  | digits => digits ≠ [] && digits.all isDigit && ofDigits 10 digits ≠ 0

def isFormat (t : String) : Bool :=
  let rec front : List Char → Option (List Char)
    | '%' :: '%' :: rest => front rest
    | '%' :: rest => some rest
    | _ :: rest => front rest
    | [] => none
  match front t.toList with
  | none => false
  | some rest =>
    let rest := (rest.dropWhile fun c => "-0' ".toList.contains c).dropWhile isDigit
    let rest := match rest with
      | '.' :: more => more.dropWhile isDigit
      | _ => rest
    rest.head? = some 'f' && (front (rest.drop 1)).isNone

def run (s : State) (r : Reading) : State :=
  let scale := (r.value? "from").getD "none"
  let policy := (r.value? "invalid").getD "abort"
  let words := if r.operands = [] then (lines s.input).map String.ofList else r.operands
  let first (w : String) : String :=
    if r.operands ≠ [] ∧ !r.has "d" then w
    else (((w.map fun c => if isBlank c then ' ' else c).splitOn " ").filter (· ≠ "")).headD w
  let sound := words.all fun w => isNumber scale (first w)
  let s := if r.operands = [] then s.leaveInput [] else s
  if sound then sayLines s words
  else s.withStatus (if policy = "abort" ∨ policy = "fail" then 2 else 0)

def tool : Tool where
  letters := "d:z"
  names := "from: from-unit: to: to-unit: round: padding: suffix: grouping delimiter:=d field: " ++
    "debug -debug header:: format: invalid: zero-terminated=z help version"
  sound := ruled [("from", isChoice scales), ("to", isChoice ["none", "si", "iec", "iec-i"]),
    ("from-unit", isUnit), ("to-unit", isUnit), ("padding", isPadding),
    ("round", isChoice ["up", "down", "from-zero", "towards-zero", "nearest"]),
    ("d", fun t => t.length ≤ 1), ("header", Quantity.atLeast "" 1), ("format", isFormat),
    ("field", fun t => t = "-" || ((t.map fun c => if c = ' ' then ',' else c).splitOn ",").all
      fun w => match w.splitOn "-" with
        | [a] => Quantity.atLeast "" 1 a
        | [a, b] => (a ≠ "" || b ≠ "") && (a = "" || Quantity.atLeast "" 1 a) &&
            (b = "" || Quantity.atLeast "" 1 b)
        | _ => false),
    ("invalid", isChoice ["abort", "fail", "warn", "ignore"])]
  run s r :=
    if r.has "grouping" && (r.has "format" || (r.has "to" && r.value? "to" ≠ some "none")) then
      s.withStatus 1
    else run s r

end Numfmt

namespace Sleep

def tool : Tool where
  rewritten args := if args = ["--"] then ["0"] else args
  run s r :=
    match r.operands.mapM Duration.read? with
    | none | some [] => s.withStatus 1
    | some ds =>
      match ds.foldl Duration.plus (.nanoseconds 0) with
      | .nanoseconds n => s.spend n
      | .endless => s.spend (Nat.pow 10 30)

end Sleep

end AgentLaunch.Tools
