import AgentLaunch.Binary64

/-!
# Shortest decimal texts

The text of a floating point number has the fewest digits that read back as the same number. It
is always positional, with neither an exponent nor a superfluous point.
-/

namespace AgentLaunch.Binary64

/-- A decimal grid beside a binary one: `d` points of the decimal grid lie as far from zero as `c`
quarters of the last binary place when `d * point = c * quarter`. -/
structure Grid where
  point : Nat
  quarter : Nat

/-- The decimal grid of exponent `x` beside the binary one of exponent `q`. -/
def Grid.of (x q : Int) : Grid where
  point := Nat.pow 10 x.toNat * Nat.pow 2 (2 - q).toNat
  quarter := Nat.pow 2 (q - 2).toNat * Nat.pow 10 (-x).toNat

/-- How many quarters the next smaller number is away, halved. Below a power of two the numbers
lie twice as dense. -/
def lowerHalf (m : Nat) (q : Int) : Nat :=
  if m = leastMantissa ∧ q > minExponent then 1 else 2

/-- Whether the decimal `d` on a grid is read back as `m * 2 ^ q`. -/
def readsBack (m : Nat) (q : Int) (g : Grid) (d : Nat) : Bool :=
  let low := (4 * m - lowerHalf m q) * g.quarter
  let high := (4 * m + 2) * g.quarter
  if m % 2 = 0 then low ≤ d * g.point && d * g.point ≤ high
  else low < d * g.point && d * g.point < high

/-- The decimal on the grid of exponent `x` that is read back as `m * 2 ^ q`, the nearer one if
there are two and the upper one if they are equally near. -/
def onGrid? (m : Nat) (q : Int) (x : Int) : Option Nat :=
  let g := Grid.of x q
  let value := 4 * m * g.quarter
  let below := value / g.point
  match readsBack m q g below, readsBack m q g (below + 1) with
  | true, true => some (if 2 * (value % g.point) < g.point then below else below + 1)
  | true, false => some below
  | false, true => some (below + 1)
  | false, false => none

/-- The exponent of the coarsest grid that is looked at; no number reaches its first point. -/
def coarsest : Int := 309

/-- The shortest decimal that is read back as `m * 2 ^ q`: its digits and its exponent. -/
def shortest (m : Nat) (q : Int) : Nat × Int :=
  let grids := (List.range 700).map fun i => coarsest - Int.ofNat i
  (grids.findSome? fun x => (onGrid? m q x).map fun d => (d, x)).getD (0, 0)

/-- The positional text of `d * 10 ^ x`. -/
def positional (d : Nat) (x : Int) : String :=
  let digits := Nat.toDigits 10 d
  if 0 ≤ x then String.ofList (digits ++ List.replicate x.toNat '0')
  else
    let places := (-x).toNat
    let padded := List.replicate (places + 1 - digits.length) '0' ++ digits
    let whole := padded.length - places
    String.ofList (padded.take whole ++ '.' :: padded.drop whole)

/-- The text of a number. Zero keeps its sign; a number that is none has no sign. -/
def text : Binary64 → String
  | .finite negative m q =>
    let digits := if m = 0 then "0" else
      let (d, x) := shortest m q
      positional d x
    if negative then "-" ++ digits else digits
  | .infinite negative => if negative then "-inf" else "inf"
  | .nan => "NaN"

end AgentLaunch.Binary64
