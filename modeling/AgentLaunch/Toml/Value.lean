import AgentLaunch.Binary64.Shortest
import AgentLaunch.Toml.Moment

/-!
# TOML values

What a TOML document holds. Scalars have one text each, whatever notation they were written in.
-/

namespace AgentLaunch.Toml

inductive Scalar where
  | string (s : String)
  | integer (n : Int)
  | float (x : Binary64)
  | boolean (b : Bool)
  | moment (m : Moment)
  deriving DecidableEq, Repr

def Scalar.text : Scalar → String
  | .string s => s
  | .integer n => toString n
  | .float x => x.text
  | .boolean b => if b then "true" else "false"
  | .moment m => m.text

/-- A value of a document. The keys of a table are distinct. -/
inductive Value where
  | scalar (s : Scalar)
  | array (items : List Value)
  | table (entries : List (String × Value))
  deriving Repr

end AgentLaunch.Toml
