/-!
# Readers

Readers take what they understand from the front of a text. A reader that fails takes nothing, so
that another one can be tried in its place.
-/

namespace AgentLaunch.Toml

/-- Takes a value from the front of a text, or fails. -/
abbrev Reader := StateT (List Char) Option

namespace Reader

/-- The value of a text that is read to its end. -/
def run? (r : Reader α) (s : List Char) : Option α :=
  match r.run s with
  | some (a, []) => some a
  | _ => none

def fail : Reader α :=
  fun _ => none

/-- The character in front, which is not taken. -/
def peek : Reader (Option Char) := do
  return (← get).head?

/-- Whether the character in front is this one. -/
def nextIs (c : Char) : Reader Bool := do
  return (← peek) = some c

def satisfying (p : Char → Bool) : Reader Char
  | c :: rest => if p c then some (c, rest) else none
  | [] => none

def char (c : Char) : Reader Unit := do
  let _ ← satisfying (· = c)

def text (t : String) : Reader Unit :=
  t.toList.forM char

def takeWhile (p : Char → Bool) : Reader (List Char) :=
  fun s => some (s.span p)

def takeWhile1 (p : Char → Bool) : Reader (List Char) := do
  return (← satisfying p) :: (← takeWhile p)

/-- Takes the character if it is in front. -/
def skip? (c : Char) : Reader Bool := do
  if ← nextIs c then
    char c
    return true
  else
    return false

private def manyUpTo (item : Reader (Option α)) : Nat → Reader (List α)
  | 0 => fail
  | n + 1 => do
    match ← item with
    | none => return []
    | some a => return a :: (← manyUpTo item n)

/-- Reads items until there is none. An item takes at least one character, so that a text has no
more items than characters. -/
def many (item : Reader (Option α)) : Reader (List α) := do
  manyUpTo item ((← get).length + 1)

end Reader

end AgentLaunch.Toml
