/-!
# Accounts

The accounts an agent can run under, the errors of looking one up, and a fixed table of accounts.
-/

namespace AgentLaunch

/-- An account of the operating system: its name, its user number and its group number. -/
structure Account where
  name : String
  uid : UInt32
  gid : UInt32
  deriving DecidableEq, Repr

/-- Why an account could not be looked up. -/
inductive LookupError where
  | unknownUser (name : String)
  /-- The accounts could not be read, for this reason. -/
  | failed (reason : String)
  deriving DecidableEq, Repr

def LookupError.message : LookupError → String
  | .unknownUser name => "Unknown user: " ++ name
  | .failed reason => "User lookup failed: " ++ reason

/-- Accounts in the order in which they were added. -/
structure AccountTable where
  accounts : List Account
  deriving Repr

namespace AccountTable

def empty : AccountTable := ⟨[]⟩

def add (t : AccountTable) (a : Account) : AccountTable :=
  ⟨t.accounts ++ [a]⟩

def ofList (as : List Account) : AccountTable :=
  as.foldl add empty

def superuser : AccountTable :=
  empty.add ⟨"root", 0, 0⟩

/-- The account added last under exactly this name. -/
def find? (t : AccountTable) (name : String) : Option Account :=
  t.accounts.foldl (fun found a => if a.name = name then some a else found) none

def resolve (t : AccountTable) (name : String) : Except LookupError Account :=
  match t.find? name with
  | some a => .ok a
  | none => .error (.unknownUser name)

theorem find?_add (t : AccountTable) (a : Account) (name : String) :
    (t.add a).find? name = if a.name = name then some a else t.find? name := by
  simp [add, find?, List.foldl_append]

end AccountTable

end AgentLaunch
