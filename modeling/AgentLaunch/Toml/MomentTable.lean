import AgentLaunch.Toml.Number

/-!
# Tables that stand for moments

A table whose first key is a reserved one stands for a date, a time, or both, which the value of
that key tells as a text. Its other entries have no meaning.
-/

namespace AgentLaunch.Toml

open Reader

/-- The key that makes a table stand for a moment. -/
def momentKey : String := "$__toml_private_datetime"

namespace Moment

def ofText? (s : String) : Option Moment :=
  moment.run? s.toList

/-- The moment that an entry under the reserved key tells. -/
def ofEntry? : Value → Option Moment
  | .scalar (.string s) => ofText? s
  | _ => none

end Moment

mutual

/-- The value with moments in place of the tables that stand for them. There is none if one of
these tables tells no moment. -/
def Value.withMoments : Value → Option Value
  | .scalar s => some (.scalar s)
  | .array items => (itemsWithMoments items).map .array
  | .table [] => some (.table [])
  | .table ((key, v) :: rest) =>
    if key = momentKey then (Moment.ofEntry? v).map fun m => .scalar (.moment m)
    else do return .table ((key, ← v.withMoments) :: (← entriesWithMoments rest))

def itemsWithMoments : List Value → Option (List Value)
  | [] => some []
  | v :: rest => do return (← v.withMoments) :: (← itemsWithMoments rest)

def entriesWithMoments : List (String × Value) → Option (List (String × Value))
  | [] => some []
  | (key, v) :: rest => do return (key, ← v.withMoments) :: (← entriesWithMoments rest)

end

end AgentLaunch.Toml
