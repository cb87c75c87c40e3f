import AgentLaunch.Shell.Format
import AgentLaunch.Shell.Glob
import AgentLaunch.Tools.Lines

/-!
# Fields and characters

Tools that take fields out of lines, and that replace characters.
-/

namespace AgentLaunch.Tools

open Shell (State Glob.namedClass)

namespace Cut

/-- A range of positions from one on; without a last one it has no end. -/
structure Range where
  first : Nat
  last : Option Nat

def range? (t : String) : Option Range :=
  let number (w : String) : Option Nat :=
    if w ≠ "" ∧ w.toList.all isDigit ∧ ofDigits 10 w.toList < maxWord then
      some (ofDigits 10 w.toList) else none
  match t.splitOn "-" with
  | [a] => (number a).bind fun n => if n = 0 then none else some ⟨n, some n⟩
  | [a, b] =>
    if a = "" ∧ b = "" then none
    else do
      let first ← if a = "" then some 1 else number a
      let last ← if b = "" then some none else (number b).map some
      if first = 0 ∨ last.any (· < first) then none else some ⟨first, last⟩
  | _ => none

def ranges? (t : String) : Option (List Range) :=
  ((t.map fun c => if c = ' ' ∨ c = '\t' then ',' else c).splitOn ",").mapM range?

def Range.has (n : Nat) (range : Range) : Bool :=
  range.first ≤ n && range.last.all (n ≤ ·)

/-- The lists that were given, with the kinds of what they count. -/
def lists (r : Reading) : List (String × String) :=
  ["b", "c", "f"].flatMap fun k => (r.values k).map (k, ·)

def line (r : Reading) (kind : String) (ranges : List Range) (l : List Char) :
    Option (List Char) :=
  let picks (n : Nat) : Bool := ranges.any (Range.has n) != r.has "complement"
  let pick {α : Type} (xs : List α) : List α :=
    (xs.zipIdx.filter fun x => picks (x.2 + 1)).map (·.1)
  if kind = "f" then
    let delimiter := (((r.value? "d").getD "\t").toList).headD '\x00'
    let parts := (l.foldr (fun c (part, later) =>
      if c = delimiter then ([], part :: later) else (c :: part, later)) ([], []))
    let fields := parts.1 :: parts.2
    let between := ((r.value? "output-delimiter").getD (String.singleton delimiter)).toList
    if fields.length = 1 then (if r.has "s" then none else some l)
    else some (between.intercalate (pick fields))
  else some (pick l)

def run (s : State) (r : Reading) : State :=
  match lists r with
  | [(kind, list)] =>
    match ranges? list with
    | none => s.withStatus 1
    | some ranges =>
      if kind ≠ "f" ∧ (r.has "d" || r.has "s") then s.withStatus 1
      else
        let mark := lineMark r "z"
        filtering 1 (fun r ts =>
          joined mark ((ts.flatMap (partsAt mark)).filterMap (line r kind ranges))) s r
  | _ => s.withStatus 1

def tool : Tool where
  letters := "b:c:d:f:nsz"
  names := "bytes:=b characters:=c fields:=f delimiter:=d only-delimited=s output-delimiter: " ++
    "complement zero-terminated=z help version"
  sound := ruled [("d", fun t => t.length ≤ 1)]
  run := run

end Cut

namespace Tr

/-- A part of a set: characters, a class, which need not have a name, or one character as often as
it takes. -/
inductive Part where
  | characters (cs : List Char)
  | namedClass (name : String) (cs : List Char)
  | fill (c : Char)

def between (a b : Char) : List Char :=
  (List.range (b.toNat + 1 - a.toNat)).map fun k => Char.ofNat (a.toNat + k)

/-- The first character of a set, with its escape carried out, and whether it was one. -/
def next? : List Char → Option (Char × Bool × List Char)
  | [] => none
  | '\\' :: rest =>
    match rest with
    | [] => some ('\\', true, [])
    | d :: more =>
      match Shell.Format.escape? rest with
      | some (c, rest) => some (c, true, rest)
      | none => some (d, true, more)
  | c :: rest => some (c, false, rest)

/-- The class, the equivalence or the repetition in front of a set, if there is one; and whether it
is a sound one. -/
def bracket? (s : List Char) : Option (Option Part × List Char) :=
  match s with
  | '[' :: kind :: rest =>
    let name := rest.takeWhile (· ≠ kind)
    let behind := rest.drop name.length
    if kind = ':' ∧ behind.take 2 = [':', ']'] then
      let cs := (Glob.namedClass (String.ofList name)).flatMap fun r => between r.1 r.2
      some (if cs = [] then none else some (.namedClass (String.ofList name) cs), behind.drop 2)
    else if kind = '=' ∧ behind.take 2 = ['=', ']'] ∧ name ≠ [] then
      some (match name with
        | [c] => some (.namedClass "" [c])
        | _ => none, behind.drop 2)
    else
      match next? (kind :: rest) with
      | some (c, _, '*' :: rest) =>
        let count := rest.takeWhile (· ≠ ']')
        let base := if count.head? = some '0' then 8 else 10
        let n := ofDigits base count
        if rest.length = count.length then none
        else if !(count.all fun c => digitValue c < base) ∨ n > maxWord then
          some (none, rest.drop (count.length + 1))
        else
          some (some (if n = 0 then .fill c else .characters (List.replicate (min n 65536) c)),
            rest.drop (count.length + 1))
      | _ => none
  | _ => none

/-- The parts of a set. The number bounds how many there are. -/
def parts? : Nat → List Char → Option (List Part)
  | 0, _ | _, [] => some []
  | n + 1, s =>
    match bracket? s with
    | some (none, _) => none
    | some (some part, rest) => (parts? n rest).map (part :: ·)
    | none =>
      match next? s with
      | none => some []
      | some (a, _, '-' :: rest) =>
        match next? rest with
        | none => (parts? n ['-']).map (.characters [a] :: ·)
        | some (b, _, rest) =>
          if b < a then none else (parts? n rest).map (.characters (between a b) :: ·)
      | some (a, _, rest) => (parts? n rest).map (.characters [a] :: ·)

/-- The characters of a set, filled up to a length. -/
def characters (length : Nat) (ps : List Part) : List Char :=
  let known := ps.flatMap fun
    | .characters cs | .namedClass _ cs => cs
    | .fill _ => []
  ps.flatMap fun
    | .characters cs | .namedClass _ cs => cs
    | .fill c => List.replicate (length - known.length) c

/-- How often a part is to fill up a set. -/
def fills (ps : List Part) : Nat :=
  (ps.filter fun p => match p with
    | .fill _ => true
    | _ => false).length

/-- Leaves only one of equal characters that stand together and belong to a set. -/
def squeezed (among : Char → Bool) : List Char → List Char
  | a :: b :: rest =>
    if a = b && among a then squeezed among (b :: rest) else a :: squeezed among (b :: rest)
  | t => t

/-- Whether a set can be the goal of a translation: its classes are those of case, and stand where
the other set has the opposite one. -/
def isGoal (front goal : List Part) : Bool :=
  let names (ps : List Part) : List String := ps.filterMap fun
    | .namedClass name _ => some name
    | _ => none
  let isCase (n : String) : Bool := n = "lower" || n = "upper"
  (names goal).all isCase &&
    (names goal = [] || ((names front).filter isCase).length ≥ (names goal).length)

def run (s : State) (r : Reading) : State :=
  let deletes := r.has "d"
  let squeezes := r.has "s"
  let least := if deletes = squeezes then 2 else 1
  let most := if deletes && !squeezes then 1 else 2
  let n := r.operands.length
  if n < least ∨ n > most then s.withStatus 1
  else match r.operands.mapM fun a => parts? a.length a.toList with
    | none => s.withStatus 1
    | some [] => s.withStatus 1
    | some (front :: more) =>
      let goal := more.headD []
      let set := characters 0 front
      let complement := r.hasAny ["c", "C"]
      let among (c : Char) : Bool := set.contains c != complement
      let translates := n = 2 && !deletes
      let target := characters set.length goal
      if fills front > 0 ∨ fills goal > 1 ∨ (fills goal = 1 ∧ !translates) then s.withStatus 1
      else if translates ∧ (!isGoal front goal ∨ (goal.isEmpty && !r.has "t" && set ≠ [])) then
        s.withStatus 1
      else
        let text := s.input
        let s := s.leaveInput []
        let target := if target = [] then set else target
        let map (c : Char) : Char :=
          if !among c then c
          else if complement then target.getLastD c
          else
            let k := set.length - 1 - set.reverse.idxOf c
            match target[k]? with
            | some d => d
            | none => if r.has "t" then c else target.getLastD c
        let changed := if deletes then text.filter (!among ·)
          else if translates then text.map map else text
        let last : Char → Bool := if n = 2 then target.contains else among
        s.say (String.ofList (if squeezes then squeezed last changed else changed))

def tool : Tool where
  letters := "+AcCdst"
  names := "complement=c delete=d squeeze-repeats=s truncate-set1=t help version"
  run := run

end Tr

end AgentLaunch.Tools
