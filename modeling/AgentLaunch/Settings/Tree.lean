import AgentLaunch.Settings.KeyPath

/-!
# Configuration trees

The values that sources give, merged into one tree. A table is merged entry by entry into the
table that is there; every other value takes the place of what is there. A path may lead to an item
that a list cannot have, and then the run is broken off.
-/

namespace AgentLaunch

/-- How a run is broken off. -/
inductive Breakage where
  /-- By a step that cannot be taken. -/
  | panicked
  /-- By a lack of memory. -/
  | aborted
  deriving DecidableEq, Repr

/-- The exit code of a run that is broken off. A lack of memory shows as the number of a signal. -/
def Breakage.exitCode : Breakage → Nat
  | .panicked => 101
  | .aborted => 134

/-- A value of a source, or of all sources together. -/
inductive Tree where
  | unset
  | text (s : String)
  /-- The origin of a list is lost when it was built item by item. -/
  | list (origin : Option String) (items : List Tree)
  | table (entries : List (String × Tree))
  deriving Repr

namespace Tree

/-- The entries of a table; any other value has none. -/
def entries : Option Tree → List (String × Tree)
  | some (.table es) => es
  | _ => []

/-- The items of a list and its origin; any other value has none. -/
def items : Option Tree → Option String × List Tree
  | some (.list origin ts) => (origin, ts)
  | _ => (none, [])

def get? (name : String) : List (String × Tree) → Option Tree
  | [] => none
  | (n, t) :: rest => if n = name then some t else get? name rest

def put (name : String) (t : Tree) : List (String × Tree) → List (String × Tree)
  | [] => [(name, t)]
  | (n, old) :: rest => if n = name then (n, t) :: rest else (n, old) :: put name t rest

theorem get?_put_self (name : String) (t : Tree) (es : List (String × Tree)) :
    get? name (put name t es) = some t := by
  induction es with
  | nil => simp [put, get?]
  | cons e rest ih =>
    by_cases h : e.1 = name <;> simp [put, get?, h, ih]

theorem get?_put_of_ne {name other : String} (h : other ≠ name) (t : Tree)
    (es : List (String × Tree)) : get? other (put name t es) = get? other es := by
  induction es with
  | nil => simp [put, get?, Ne.symm h]
  | cons e rest ih =>
    by_cases hn : e.1 = name
    · simp [put, get?, hn, Ne.symm h]
    · by_cases ho : e.1 = other <;> simp_all [put, get?]

mutual

/-- A value laid over another one, if there is one. -/
def laidOver : Tree → Option Tree → Tree
  | .table es, old => laidOverAll es (old.getD (.table []))
  | new, _ => new

def laidOverAll : List (String × Tree) → Tree → Tree
  | [], old => old
  | (name, new) :: rest, old =>
    let name := KeyPath.lower name
    let below := entries (some old)
    laidOverAll rest (.table (put name (new.laidOver (get? name below)) below))

end

/-- How many items a list can have at all. A value takes 96 bytes, and no list more than
`2 ^ 63 - 1`. -/
def maxItems : Nat := 9223372036854775807 / 96

/-- The place that an index means in a list of this length. There is none before the first item, and
none for which the list would have to be extended beyond the memory. -/
def placeOf (room : Nat) (index : Int) (length : Nat) : Except Breakage Nat :=
  if index < 0 then
    if index.natAbs ≤ length then .ok (length - index.natAbs) else .error .panicked
  else if index.toNat < length ∨ index.toNat < room then .ok index.toNat
  else if index.toNat < maxItems then .error .aborted
  else .error .panicked

/-- Puts an item at a place; a gap before it is left unset. -/
def setItem (ts : List Tree) (i : Nat) (t : Tree) : List Tree :=
  if i < ts.length then ts.set i t
  else ts ++ List.replicate (i - ts.length) .unset ++ [t]

/-- Lays a value over what some steps lead to. What is in the way is replaced, and so is an item
that is the last step. -/
def place (room : Nat) (new : Tree) : List KeyPath.Step → Option Tree → Except Breakage Tree
  | [], old => .ok (new.laidOver old)
  | .entry name :: rest, old => do
    let t ← place room new rest (get? name (entries old))
    return .table (put name t (entries old))
  | .item index :: rest, old => do
    let (origin, ts) := items old
    let i ← placeOf room index ts.length
    let t ← place room new rest (if rest = [] then none else ts[i]?)
    return .list origin (setItem ts i t)

/-- Lays a value over the one that a path leads to from the top. -/
def set (room : Nat) (root : List (String × Tree)) (path : KeyPath) (new : Tree) :
    Except Breakage (List (String × Tree)) := do
  let t ← place room new path.steps (get? path.root root)
  return put path.root t root

/-- Lays all entries of a source over what earlier sources gave. The keys are read as paths. -/
def addSource (room : Nat) (root : List (String × Tree)) (source : List (String × Tree)) :
    Except Breakage (List (String × Tree)) :=
  source.foldlM (fun root (key, t) => set room root (KeyPath.ofKey key) t) root

/-- Puts an entry in front of the first one that is not met before it. -/
def insertByRank (rank : String → Nat) (e : String × Tree) :
    List (String × Tree) → List (String × Tree)
  | [] => [e]
  | d :: rest => if rank e.1 ≤ rank d.1 then e :: d :: rest else d :: insertByRank rank e rest

mutual

/-- The same value with the entries of its tables in the order of the ranks that their names have
below some other names. -/
def arranged (rank : List String → String → Nat) (above : List String) : Tree → Tree
  | .table es => .table (arrangedAll rank above es)
  | t => t

/-- The same entries, and those of the tables among them, in the order of their ranks. -/
def arrangedAll (rank : List String → String → Nat) (above : List String) :
    List (String × Tree) → List (String × Tree)
  | [] => []
  | (name, t) :: rest =>
    insertByRank (rank above) (name, t.arranged rank (above ++ [name]))
      (arrangedAll rank above rest)

end

/-- Of entries with one key the last. -/
def lastOfEach : List (String × Tree) → List (String × Tree)
  | [] => []
  | e :: rest => if rest.any fun d => d.1 = e.1 then lastOfEach rest else e :: lastOfEach rest

end Tree

end AgentLaunch
