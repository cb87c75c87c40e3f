import AgentLaunch.Binary64.Arithmetic

/-!
# Decimal texts of a given precision

Numbers of the format with so many places, with an exponent, or in the shorter of both ways. The
sign is not part of the texts. What lies halfway between two texts goes to the even digit.
-/

namespace AgentLaunch.Binary64

/-- The positional text of a quotient with so many places behind the point. -/
def fixedText (num den places : Nat) : String :=
  let digits := Nat.toDigits 10 (roundQuotient (num * Nat.pow 10 places) den)
  let padded := List.replicate (places + 1 - digits.length) '0' ++ digits
  let whole := padded.take (padded.length - places)
  String.ofList (if places = 0 then whole else whole ++ '.' :: padded.drop whole.length)

/-- The largest `e` with `10 ^ e ≤ num / den`, for positive operands. -/
def floorLog10 (num den : Nat) : Int :=
  let e := Int.ofNat (digitCount num) - Int.ofNat (digitCount den)
  if den * Nat.pow 10 e.toNat ≤ num * Nat.pow 10 (-e).toNat then e else e - 1

/-- The digits of a quotient, of which there is one in front of the point, and the exponent of ten
that goes with them. -/
def scientific (num den places : Nat) : Nat × Int :=
  if num = 0 then (0, 0)
  else
    let e := floorLog10 num den
    let shift := Int.ofNat places - e
    let digits := roundQuotient (num * Nat.pow 10 shift.toNat) (den * Nat.pow 10 (-shift).toNat)
    if digits = Nat.pow 10 (places + 1) then (digits / 10, e + 1) else (digits, e)

/-- An exponent behind its letter, with two digits at least. -/
def exponentText (e : Int) : String :=
  let digits := toString e.natAbs
  (if e < 0 then "e-" else "e+") ++ (if digits.length < 2 then "0" ++ digits else digits)

/-- A text with a point behind its first digit. -/
def pointed (digits places : Nat) : String :=
  let t := Nat.toDigits 10 digits
  let t := t ++ List.replicate (places + 1 - t.length) '0'
  String.ofList (if places = 0 then t else t.take 1 ++ '.' :: t.drop 1)

def scientificText (num den places : Nat) : String :=
  let (digits, e) := scientific num den places
  pointed digits places ++ exponentText e

/-- A text without zeros at the end of the places behind its point. -/
def withoutZeros (t : String) : String :=
  if t.toList.contains '.' then
    let front := t.toList.reverse.dropWhile (· = '0')
    String.ofList (if front.head? = some '.' then front.drop 1 else front).reverse
  else t

/-- The shorter one of both texts with so many digits. -/
def generalText (num den precision : Nat) (keepsZeros : Bool) : String :=
  let precision := max precision 1
  let (digits, e) := scientific num den (precision - 1)
  let tidy (t : String) : String := if keepsZeros then t else withoutZeros t
  if e < -4 ∨ e ≥ Int.ofNat precision then
    tidy (pointed digits (precision - 1)) ++ exponentText e
  else tidy (fixedText num den (Int.ofNat precision - 1 - e).toNat)

/-- The text of a number without its sign, by the letter of a conversion. -/
def display (conversion : Char) (precision : Nat) (keepsZeros : Bool) (a : Binary64) : String :=
  match a.ratio? with
  | some (n, d) =>
    match conversion with
    | 'f' => fixedText n.natAbs d precision
    | 'e' => scientificText n.natAbs d precision
    | _ => generalText n.natAbs d precision keepsZeros
  | none => if a = .nan then "nan" else "inf"

end AgentLaunch.Binary64
