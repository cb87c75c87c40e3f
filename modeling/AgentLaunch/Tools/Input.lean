import AgentLaunch.Tools.Tool

/-!
# Input of tools

Texts that tools read from files or from their input, and the lines in them.
-/

namespace AgentLaunch.Tools

open Shell (State)

def clockSeconds : Nat := 1700000000

/-- The text of a file, or of the input for a dash. -/
def textAt (s : State) (path : String) : Option (List Char) × State :=
  if path = "-" then (some s.input, s.leaveInput [])
  else ((s.textOf? path).map String.toList, s)

/-- The texts of files, or of the input if there is no name at all, with their names. One that
cannot be read is a failure. -/
def texts (code : Nat) (s : State) (paths : List String) : List (String × List Char) × State :=
  (if paths = [] then ["-"] else paths).foldl (fun (found, s) path =>
    match textAt s path with
    | (some t, s) => (found ++ [(path, t)], s)
    | (none, s) => (found, failed code s)) ([], s)

/-- The parts of a text that a character ends; the last one may go without it. -/
def partsAt (mark : Char) (t : List Char) : List (List Char) :=
  let (part, later) := t.foldr (fun c (part, later) =>
    if c = mark then ([], part :: later) else (c :: part, later)) ([], [])
  let all := part :: later
  if all.getLast? = some [] then all.dropLast else all

def lines (t : List Char) : List (List Char) :=
  partsAt '\n' t

def joined (mark : Char) (ls : List (List Char)) : String :=
  String.ofList (ls.flatMap (· ++ [mark]))

def unlines (ls : List (List Char)) : String :=
  joined '\n' ls

/-- Work on the texts of all operands, or on the input, that leaves a text. -/
def filtering (code : Nat) (change : Reading → List (List Char) → String) (s : State)
    (r : Reading) : State :=
  let (ts, s) := texts code s r.operands
  s.say (change r (ts.map (·.2)))

/-- The character that ends a line: a NUL if the option for it is given. -/
def lineMark (r : Reading) (key : String) : Char :=
  if r.has key then '\x00' else '\n'

def isDirectory (s : State) (path : String) : Bool :=
  match s.system.files.lookup s.directory path with
  | .ok (_, .directory) => true
  | _ => false

/-- A text on the right of a field. -/
def padLeft (width : Nat) (t : String) : String :=
  String.ofList (List.replicate (width - t.length) ' ') ++ t

end AgentLaunch.Tools
