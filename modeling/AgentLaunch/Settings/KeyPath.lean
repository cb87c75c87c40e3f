/-!
# Key paths

Keys of configuration sources. A key that has the form of a path, such as `a.b` or `a[0]`, leads
into nested values; any other key is a name of its own. Names are compared without regard to case.
-/

namespace AgentLaunch

inductive KeyPath.Step where
  | entry (name : String)
  /-- To the item at this place; negative places count from the end. -/
  | item (index : Int)
  deriving DecidableEq, Repr

/-- A name at the top, and the steps from there. -/
structure KeyPath where
  root : String
  steps : List KeyPath.Step
  deriving DecidableEq, Repr

namespace KeyPath

/-- The small form of a letter. The Kelvin sign is the only letter outside ASCII whose small form
can stand in a path. -/
def lowerChar (c : Char) : Char :=
  if c = '\u212a' then 'k' else c.toLower

/-- The small form of a name. -/
def lower (s : String) : String :=
  String.ofList (s.toList.map lowerChar)

/-- The characters of a name in a path. -/
def isNameChar (c : Char) : Bool :=
  c.isAlphanum || c = ' ' || c = '_' || c = '-'

private def isBlank (c : Char) : Bool :=
  c = ' ' || c = '\t'

/-- The number that digits stand for, if it is a place: below `2 ^ 63`, in either direction. -/
private def place? (minus : Bool) (digits : List Char) : Option Int :=
  let n : Nat := digits.foldl (fun n c => n * 10 + (c.toNat - 48)) 0
  if digits = [] then none
  else if minus then (if n ≤ 9223372036854775808 then some (-Int.ofNat n) else none)
  else if n < 9223372036854775808 then some (Int.ofNat n) else none

/-- A step in front of a text, and the rest. -/
def step? : List Char → Option (Step × List Char)
  | '.' :: rest =>
    let name := rest.takeWhile isNameChar
    if name = [] then none
    else some (.entry (lower (String.ofList name)), rest.dropWhile isNameChar)
  | '[' :: rest =>
    let rest := rest.dropWhile isBlank
    let (minus, rest) := match rest with
      | '-' :: rest => (true, rest)
      | rest => (false, rest)
    match place? minus (rest.takeWhile Char.isDigit),
        (rest.dropWhile Char.isDigit).dropWhile isBlank with
    | some i, ']' :: rest => some (.item i, rest)
    | _, _ => none
  | _ => none

/-- The steps that a text consists of. Each takes at least one character. -/
private def stepsUpTo : Nat → List Char → Option (List Step)
  | _, [] => some []
  | 0, _ => none
  | n + 1, s => do
    let (step, rest) ← step? s
    return step :: (← stepsUpTo n rest)

def parse? (key : String) : Option KeyPath :=
  let s := key.toList
  let name := s.takeWhile isNameChar
  if name = [] then none
  else (stepsUpTo s.length (s.dropWhile isNameChar)).map fun steps =>
    ⟨lower (String.ofList name), steps⟩

/-- The path of a key, which is read in small letters; a key that is none is a name. -/
def ofKey (key : String) : KeyPath :=
  (parse? (lower key)).getD ⟨lower key, []⟩

end KeyPath

end AgentLaunch
