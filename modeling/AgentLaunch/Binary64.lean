/-!
# Binary floating point numbers

The numbers of the 64 bit binary format, and the one that is nearest to a decimal numeral. All
arithmetic is exact; the only rounding is to the nearest number of the format, a half going to the
even mantissa.
-/

namespace AgentLaunch

/-- A number of the format. A finite one has the value `mantissa * 2 ^ exponent`, up to its sign. -/
inductive Binary64 where
  | finite (negative : Bool) (mantissa : Nat) (exponent : Int)
  | infinite (negative : Bool)
  | nan
  deriving DecidableEq, Repr

namespace Binary64

def minExponent : Int := -1074

def maxExponent : Int := 971

/-- Two to the 52: the least mantissa of a number above the smallest exponent. -/
def leastMantissa : Nat := 4503599627370496

def zero (negative : Bool) : Binary64 :=
  .finite negative 0 minExponent

/-- The integer nearest to a quotient, of two the even one. -/
def roundQuotient (num den : Nat) : Nat :=
  let q := num / den
  let r := num % den
  if 2 * r > den ∨ (2 * r = den ∧ q % 2 = 1) then q + 1 else q

/-- The largest `e` with `2 ^ e ≤ num / den`, for positive operands. -/
def floorLog2 (num den : Nat) : Int :=
  let e : Int := Int.ofNat num.log2 - Int.ofNat den.log2
  if den * Nat.pow 2 e.toNat ≤ num * Nat.pow 2 (-e).toNat then e else e - 1

def ofQuotient (negative : Bool) (num den : Nat) : Binary64 :=
  let q := max (floorLog2 num den - 52) minExponent
  let m := roundQuotient (num * Nat.pow 2 (-q).toNat) (den * Nat.pow 2 q.toNat)
  let (m, q) := if m = 2 * leastMantissa then (leastMantissa, q + 1) else (m, q)
  if q > maxExponent then .infinite negative else .finite negative m q

def digitCount (n : Nat) : Nat :=
  (Nat.toDigits 10 n).length

/-- The number nearest to `significand * 10 ^ exponent`. What has its first digit beyond place 310
is infinite, and what has it below place -326 is zero, however long the exponent. -/
def ofDecimal (negative : Bool) (significand : Nat) (exponent : Int) : Binary64 :=
  let place := exponent + digitCount significand
  if significand = 0 ∨ place < -326 then zero negative
  else if place > 310 then .infinite negative
  else ofQuotient negative (significand * Nat.pow 10 exponent.toNat)
    (Nat.pow 10 (-exponent).toNat)

end Binary64

end AgentLaunch
