import AgentLaunch.Shell.Arithmetic
import AgentLaunch.Shell.Builtins

/-!
# Parameters

The values that parameters have, and what words make of them.
-/

namespace AgentLaunch.Shell.State

def switchLetters (s : State) : String :=
  String.join [if s.switches.failFast then "e" else "", if s.switches.noPaths then "f" else "",
    if s.switches.strict then "u" else ""]

/-- The value of a parameter that is one text, if it has one. -/
def parameter? (s : State) (name : String) : Option String :=
  match name with
  | "#" => some (toString s.arguments.length)
  | "?" => some (toString s.status)
  | "$" => some (toString s.shell.pid.toNat)
  | "!" => s.children.head?.map fun c => toString c.1.toNat
  | "-" => some s.switchLetters
  | "0" => some s.name
  | "@" => if s.arguments = [] then none else some (String.intercalate " " s.arguments)
  | "*" =>
    if s.arguments = [] then none
    else some (String.intercalate (String.ofList ((Builtins.separators s).take 1)) s.arguments)
  | _ =>
    match Builtins.count? name with
    | some n => s.arguments[n - 1]?
    | none => s.value? name

/-- Whether a parameter may have no value even where one is needed. -/
def mayMiss (name : String) : Bool :=
  name = "@" || name = "*" || name = "!"

def valuePieces (s : State) (splits quoted : Bool) (t : List Char) : List Piece :=
  if splits && !quoted then Piece.split (Builtins.separators s) t else Piece.whole quoted t

def parameterPieces (s : State) (splits quoted : Bool) (name value : String) : List Piece :=
  if splits && (name = "@" || (name = "*" && !quoted)) then
    let each := s.arguments.map fun a => s.valuePieces splits quoted a.toList
    (each.intersperse [if quoted then .separator else .blank]).flatten
  else s.valuePieces splits quoted value.toList

/-- The files that a field asks for, or the field itself. -/
def paths (s : State) (field : List Glob.Marked) : List String :=
  let found := if !s.switches.noPaths && Glob.isPattern field then
    Glob.paths s.system.files s.directory field else []
  if found = [] then [String.ofList (field.map (·.1))] else found

/-- Sets the variables that an expression has assigned, the last one first. -/
def assignNumbers (s : State) (found : List (String × Int)) : State :=
  found.foldr (fun (name, n) s =>
    if s.leaving.isSome then s else s.assign name (toString n)) s

def number? (s : State) (found : List (String × Int)) (name : String) : Option Int :=
  match found.find? fun v => v.1 = name with
  | some v => some v.2
  | none => Expression.ofText? ((s.value? name).getD "")

end AgentLaunch.Shell.State
