import AgentLaunch.Binary64

/-!
# Arithmetic of binary floating point numbers

The operations of the format. Sums, products and quotients are worked out exactly and rounded once.
Roots and the elementary functions are worked out far beyond the precision of the format before they
are rounded.
-/

namespace AgentLaunch.Binary64

def ofRatio (num : Int) (den : Nat) : Binary64 :=
  if num = 0 then zero false else ofQuotient (num < 0) num.natAbs den

def ofInt (n : Int) : Binary64 :=
  ofRatio n 1

/-- The quotient that a finite number is. -/
def ratio? : Binary64 → Option (Int × Nat)
  | .finite negative m q =>
    let n := Int.ofNat (m * Nat.pow 2 q.toNat)
    some (if negative then -n else n, Nat.pow 2 (-q).toNat)
  | _ => none

def isNegative : Binary64 → Bool
  | .finite negative _ _ | .infinite negative => negative
  | .nan => false

def isZero : Binary64 → Bool
  | .finite _ m _ => m = 0
  | _ => false

def neg : Binary64 → Binary64
  | .finite negative m q => .finite (!negative) m q
  | .infinite negative => .infinite (!negative)
  | .nan => .nan

def add (a b : Binary64) : Binary64 :=
  match a.ratio?, b.ratio? with
  | some (m, d), some (n, e) =>
    let num := m * Int.ofNat e + n * Int.ofNat d
    if num = 0 then zero (a.isNegative && b.isNegative) else ofRatio num (d * e)
  | _, _ =>
    match a, b with
    | .nan, _ | _, .nan => .nan
    | .infinite s, .infinite t => if s = t then a else .nan
    | .infinite _, _ => a
    | _, _ => b

def sub (a b : Binary64) : Binary64 :=
  a.add b.neg

def mul (a b : Binary64) : Binary64 :=
  let negative := a.isNegative != b.isNegative
  match a.ratio?, b.ratio? with
  | some (m, d), some (n, e) =>
    if m * n = 0 then zero negative else ofRatio (m * n) (d * e)
  | _, _ =>
    match a, b with
    | .nan, _ | _, .nan => .nan
    | _, _ => if a.isZero || b.isZero then .nan else .infinite negative

def div (a b : Binary64) : Binary64 :=
  let negative := a.isNegative != b.isNegative
  match a.ratio?, b.ratio? with
  | some (m, d), some (n, e) =>
    if n = 0 then (if m = 0 then .nan else .infinite negative)
    else if m = 0 then zero negative
    else ofQuotient negative (m.natAbs * e) (d * n.natAbs)
  | _, _ =>
    match a, b with
    | .nan, _ | _, .nan | .infinite _, .infinite _ => .nan
    | .infinite _, _ => .infinite negative
    | _, _ => zero negative

/-- The integer part, the rest being cut off. -/
def truncated? (a : Binary64) : Option Int :=
  a.ratio?.map fun (n, d) =>
    let q := Int.ofNat (n.natAbs / d)
    if n < 0 then -q else q

/-- The number without the places behind its point. -/
def truncate (a : Binary64) : Binary64 :=
  match a.truncated? with
  | some n => if n = 0 then zero a.isNegative else ofInt n
  | none => a

/-- What is left of a division with an integer quotient; it has the sign of the dividend. -/
def mod (a b : Binary64) : Binary64 :=
  match a.ratio?, b.ratio? with
  | some (m, d), some (n, e) =>
    if n = 0 then .nan
    else
      let r := (m.natAbs * e) % (n.natAbs * d)
      if r = 0 then zero a.isNegative else ofQuotient a.isNegative r (d * e)
  | some _, none => if b = .nan then .nan else a
  | none, _ => .nan

/-- How two numbers are ordered; one that is none has no place among the others. -/
def compare? (a b : Binary64) : Option Ordering :=
  match a.ratio?, b.ratio? with
  | some (m, d), some (n, e) => some (compare (m * Int.ofNat e) (n * Int.ofNat d))
  | _, _ =>
    match a, b with
    | .nan, _ | _, .nan => none
    | .infinite s, .infinite t => some (if s = t then .eq else if s then .lt else .gt)
    | .infinite s, _ => some (if s then .lt else .gt)
    | _, .infinite t => some (if t then .gt else .lt)
    | _, _ => none

def ofDigits (n : Nat) : Binary64 :=
  ofInt (Int.ofNat n)

/-! ### Functions that are not exact

They are worked out on integers that stand for multiples of a small unit. -/

def unit : Int :=
  Int.ofNat (Nat.pow 2 256)

/-- The largest integer whose square is not above a number. The first number bounds how many binary
digits it has. -/
def rootFrom (n : Nat) : Nat → Nat → Nat
  | 0, r => r
  | k + 1, r =>
    let s := r + Nat.pow 2 k
    rootFrom n k (if s * s ≤ n then s else r)

def root (n : Nat) : Nat :=
  rootFrom n (n.log2 / 2 + 1) 0

def sqrt (a : Binary64) : Binary64 :=
  if a.isZero then a
  else if a.isNegative then .nan
  else match a.ratio? with
    | none => a
    | some (n, d) =>
      let scaled := n.natAbs * d * Nat.pow 2 240
      let r := root scaled
      let sticky := if r * r = scaled then 0 else 1
      ofQuotient false (2 * r + sticky) (2 * d * Nat.pow 2 120)

/-- The sum of terms, each made from the one before it. -/
def series (next : Nat → Int → Int) : Nat → Nat → Int → Int
  | 0, _, _ => 0
  | n + 1, k, term => if term = 0 then 0 else term + series next n (k + 1) (next k term)

/-- The sum of `t ^ (2 k + 1) / (2 k + 1)`, with alternating signs if that is asked for. -/
def oddSeries (alternating : Bool) (t : Int) : Int :=
  let square := t * t / unit
  let rec from_ : Nat → Nat → Int → Int
    | 0, _, _ => 0
    | n + 1, k, power =>
      if power = 0 then 0
      else
        let next := power * square / unit
        power / Int.ofNat k + from_ n (k + 2) (if alternating then -next else next)
  from_ 400 1 t

def lnTwo : Int :=
  2 * oddSeries false (unit / 3)

def pi : Int :=
  4 * (4 * oddSeries true (unit / 5) - oddSeries true (unit / 239))

def units (num : Int) (den : Nat) : Int :=
  num * unit / Int.ofNat den

def ofUnits (n : Int) : Binary64 :=
  ofRatio n unit.toNat

/-- The exponential of a number of units, as a number of units and a power of two. -/
def expUnits (x : Int) : Int × Int :=
  let k := x / lnTwo
  let r := x - k * lnTwo
  (series (fun k term => term * r / unit / Int.ofNat (k + 1)) 200 0 unit, k)

/-- A number of units, scaled by a power of two. -/
def scaledUnits (n k : Int) : Binary64 :=
  if k > 2000 then .infinite (n < 0)
  else if k < -2000 then zero (n < 0)
  else ofRatio (n * Int.ofNat (Nat.pow 2 k.toNat)) (unit.toNat * Nat.pow 2 (-k).toNat)

def exp (a : Binary64) : Binary64 :=
  match a.ratio? with
  | some (n, d) =>
    if a.isZero then ofInt 1
    else if n.natAbs / d > 800 then (if n < 0 then zero false else .infinite false)
    else
      let (m, k) := expUnits (units n d)
      scaledUnits m k
  | none => if a = .infinite true then zero false else a

/-- The natural logarithm of a positive quotient, in units. -/
def lnUnits (num den : Nat) : Int :=
  let e := floorLog2 num den
  let n := num * Nat.pow 2 (-e).toNat
  let d := den * Nat.pow 2 e.toNat
  e * lnTwo + 2 * oddSeries false (units (Int.ofNat n - Int.ofNat d) (n + d))

def log (a : Binary64) : Binary64 :=
  if a.isZero then .infinite true
  else match a.ratio? with
    | some (n, d) => if n < 0 then .nan else ofUnits (lnUnits n.natAbs d)
    | none => if a = .infinite false then a else .nan

/-- The sine and the cosine of a number of units. -/
def turn (x : Int) : Int × Int :=
  let whole := 2 * pi
  let r := x - x / whole * whole
  let square := r * r / unit
  let even (k : Nat) (term : Int) : Int :=
    -(term * square / unit / Int.ofNat ((2 * k + 1) * (2 * k + 2)))
  let odd (k : Nat) (term : Int) : Int :=
    -(term * square / unit / Int.ofNat ((2 * k + 2) * (2 * k + 3)))
  (series odd 200 0 r, series even 200 0 unit)

def sin (a : Binary64) : Binary64 :=
  match a.ratio? with
  | some (n, d) => if a.isZero then a else ofUnits (turn (units n d)).1
  | none => .nan

def cos (a : Binary64) : Binary64 :=
  match a.ratio? with
  | some (n, d) => ofUnits (turn (units n d)).2
  | none => .nan

/-- The angle whose tangent is a number of units from zero to one, halved three times. -/
def arcUnits (x : Int) : Int :=
  let half (t : Int) : Int :=
    let hypotenuse := Int.ofNat (root (unit * unit + t * t).toNat)
    t * unit / (unit + hypotenuse)
  8 * oddSeries true (half (half (half x)))

def atan2 (y x : Binary64) : Binary64 :=
  match y.ratio?, x.ratio? with
  | some (n, d), some (m, e) =>
    let (rise, run) := (n.natAbs * e, m.natAbs * d)
    if rise = 0 then
      (if x.isNegative then ofUnits (if y.isNegative then -pi else pi) else zero y.isNegative)
    else
      let first := if rise ≤ run then arcUnits (units (Int.ofNat rise) run)
        else pi / 2 - arcUnits (units (Int.ofNat run) rise)
      let angle := if m < 0 then pi - first else first
      ofUnits (if n < 0 then -angle else angle)
  | _, _ => .nan

/-- A power. One with a small integer exponent is exact before it is rounded. -/
def pow (a b : Binary64) : Binary64 :=
  if b.isZero then ofInt 1
  else match a.ratio?, b.ratio? with
    | some (n, d), some (m, e) =>
      let whole := m % Int.ofNat e = 0
      let k := m / Int.ofNat e
      let odd := whole && k % 2 = 1
      let negative := a.isNegative && odd
      if n = 0 then (if m < 0 then .infinite negative else zero negative)
      else if n < 0 ∧ !whole then .nan
      else if whole ∧ k.natAbs ≤ 64 then
        let (top, bottom) := if k < 0 then (d, n.natAbs) else (n.natAbs, d)
        ofQuotient negative (Nat.pow top k.natAbs) (Nat.pow bottom k.natAbs)
      else
        let x := lnUnits n.natAbs d * m / Int.ofNat e
        let limit := 800 * unit
        let r := if x > limit then .infinite false
          else if x < -limit then zero false
          else
            let (m, k) := expUnits x
            scaledUnits m k
        if negative then r.neg else r
    | _, _ =>
      match a, b with
      | .nan, _ | _, .nan => .nan
      | _, .infinite down =>
        match (a.mul a).compare? (ofInt 1) with
        | some .eq => ofInt 1
        | some .lt => if down then .infinite false else zero false
        | _ => if down then zero false else .infinite false
      | _, _ => if b.isNegative then zero false else .infinite false

end AgentLaunch.Binary64
