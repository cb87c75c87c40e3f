import AgentLaunch.Account

/-!
# Account records

The accounts of a machine as its account file lists them: one record a line, and colons between its
parts. Of two records with one name the system only knows the first.
-/

namespace AgentLaunch

/-- An account with the home directory that is on record for it. -/
structure AccountRecord where
  account : Account
  home : String
  deriving DecidableEq, Repr

namespace AccountRecord

private def number? (s : String) : Option UInt32 :=
  match s.toNat? with
  | some n => if s.all Char.isDigit && n < UInt32.size then some (.ofNat n) else none
  | none => none

/-- The record that a line holds, if it holds one. -/
def ofLine? (line : String) : Option AccountRecord :=
  match line.splitOn ":" with
  | name :: _ :: uid :: gid :: _ :: home :: _ => do
    return ⟨⟨name, ← number? uid, ← number? gid⟩, home⟩
  | _ => none

/-- The records of an account file. Other lines are passed over. -/
def ofText (text : String) : List AccountRecord :=
  (text.splitOn "\n").filterMap ofLine?

def table (records : List AccountRecord) : AccountTable :=
  .ofList (records.reverse.map (·.account))

def home? (records : List AccountRecord) (uid : UInt32) : Option String :=
  (records.find? fun r => r.account.uid = uid).map (·.home)

/-- The user that a process runs for, by the report that the system gives of it. -/
def user? (status : String) : Option UInt32 :=
  (status.splitOn "\n").findSome? fun line =>
    match line.splitOn "\t" with
    | "Uid:" :: uid :: _ => number? uid
    | _ => none

end AccountRecord

end AgentLaunch
