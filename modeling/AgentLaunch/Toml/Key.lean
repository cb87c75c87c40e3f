import AgentLaunch.Toml.Text

/-!
# Keys in TOML

Keys are bare words or texts in one line. Several of them, joined by points, lead into nested
tables.
-/

namespace AgentLaunch.Toml

open Reader

/-- A key and the keys of the tables that lead to it, the outermost first. -/
structure Key where
  path : List String
  last : String
  deriving DecidableEq, Repr

def Key.maxWords : Nat := 79

def isBareCharacter (c : Char) : Bool :=
  c.isAlphanum || c = '_' || c = '-'

private def simpleKey : Reader String :=
  String.ofList <$> do
    match ← peek with
    | some '"' => basicText
    | some '\'' => literalText
    | _ => takeWhile1 isBareCharacter

private def spacedKey : Reader String := do
  blanks
  let k ← simpleKey
  blanks
  return k

def key : Reader Key := do
  let first ← spacedKey
  let rest ← many do
    if ← skip? '.' then some <$> spacedKey else return none
  let words := first :: rest
  if words.length ≤ Key.maxWords then
    return ⟨words.dropLast, words.getLast (List.cons_ne_nil _ _)⟩
  else fail

end AgentLaunch.Toml
