import AgentLaunch.Shell.Field
import AgentLaunch.Shell.Format
import AgentLaunch.Shell.Lookup
import AgentLaunch.Shell.Signal
import AgentLaunch.Shell.Test

/-!
# Commands of the shell

The commands that a shell runs in its own process, as far as they run no other ones.
-/

namespace AgentLaunch.Shell.Builtins

open State

def count? (t : String) : Option Nat :=
  if t ≠ "" ∧ t.toList.all Char.isDigit then t.toNat? else none

def exit (s : State) (args : List String) : State :=
  match args with
  | [] => s.stop s.status
  | a :: _ =>
    match count? a with
    | some n => s.stop (n % 256)
    | none => s.fail

def return_ (s : State) (args : List String) : State :=
  match args with
  | [] => { s with leaving := some .returned }
  | a :: _ =>
    match count? a with
    | some n => { s with leaving := some .returned, status := n }
    | none => s.fail

def leaveLoops (onward : Bool) (s : State) (args : List String) : State :=
  match count? (args.headD "1") with
  | some (n + 1) =>
    let n := min (n + 1) s.loops
    if n = 0 then s.withStatus 0
    else { s with leaving := some (.skipped n onward), status := 0 }
  | _ => s.fail

def shift (s : State) (args : List String) : State :=
  match count? (args.headD "1") with
  | some n =>
    if n > s.arguments.length then s.fail
    else { s with arguments := s.arguments.drop n, status := 0 }
  | none => s.fail

/-- Turns a switch on or off, if there is one with this letter. -/
def turn? (switches : Switches) (on : Bool) (c : Char) : Option Switches :=
  match c with
  | 'e' => some { switches with failFast := on }
  | 'u' => some { switches with strict := on }
  | 'f' => some { switches with noPaths := on }
  | 'n' => some { switches with idle := on }
  | _ => if "IabimsvxCEV".toList.contains c then some switches else none

def turnAll? (switches : Switches) (on : Bool) (letters : List Char) : Option Switches :=
  letters.foldlM (fun w c => turn? w on c) switches

def letter? (name : String) : Option Char :=
  ([("errexit", 'e'), ("nounset", 'u'), ("noglob", 'f'), ("xtrace", 'x'), ("verbose", 'v'),
    ("allexport", 'a'), ("notify", 'b'), ("noclobber", 'C'), ("monitor", 'm'), ("stdin", 's'),
    ("interactive", 'i'), ("ignoreeof", 'I'), ("noexec", 'n'), ("vi", 'V'),
    ("emacs", 'E')].find? fun n => n.1 = name).map (·.2)

/-- The switches after options, and the arguments behind them if some are given. -/
def options (switches : Switches) : List String → Option (Switches × Option (List String))
  | [] => some (switches, none)
  | "--" :: rest => some (switches, some rest)
  | "-" :: rest => some (switches, if rest = [] then none else some rest)
  | [a] =>
    if a = "-o" ∨ a = "+o" then some (switches, none)
    else match a.toList with
      | sign :: letters =>
        if sign = '-' ∨ sign = '+' then (turnAll? switches (sign = '-') letters).map (·, none)
        else some (switches, some [a])
      | [] => some (switches, some [a])
  | a :: b :: rest =>
    match a.toList with
    | [sign, 'o'] =>
      if sign = '-' ∨ sign = '+' then do
        options (← turn? switches (sign = '-') (← letter? b)) rest
      else some (switches, some (a :: b :: rest))
    | sign :: letters =>
      if sign = '-' ∨ sign = '+' then do
        options (← turnAll? switches (sign = '-') letters) (b :: rest)
      else some (switches, some (a :: b :: rest))
    | [] => some (switches, some (a :: b :: rest))

def set (s : State) (args : List String) : State :=
  match options s.switches args with
  | some (switches, arguments) =>
    { s with switches := switches, arguments := arguments.getD s.arguments, status := 0 }
  | none => s.fail

/-- An argument as the name of a variable and the value for it. -/
def nameAndValue (a : String) : String × Option String :=
  let name := a.toList.takeWhile (· ≠ '=')
  (String.ofList name,
    if name.length = a.length then none else some (String.ofList (a.toList.drop (name.length + 1))))

def declare (change : State → String → State) (s : State) (args : List String) : State :=
  args.foldl (fun s a =>
    let (name, value) := nameAndValue a
    if s.leaving.isSome then s
    else if !Token.isName name.toList then s.fail
    else
      let s := change s name
      match value with
      | some v => if s.leaving.isSome then s else s.assign name v
      | none => s) (s.withStatus 0)

def mark (change : Binding → Binding) (s : State) (name : String) : State :=
  s.bind (change ((s.binding? name).getD ⟨name, none, false, false⟩))

def export_ (s : State) (args : List String) : State :=
  declare (mark fun b => { b with exported := true }) s (args.filter (· ≠ "-p"))

def readonly (s : State) (args : List String) : State :=
  let args := args.filter (· ≠ "-p")
  let given := declare (fun s _ => s) s args
  if given.leaving.isSome then given
  else declare (mark fun b => { b with constant := true }) given
    (args.map fun a => (nameAndValue a).1)

/-- Makes variables local to a function: they are brought back at its end. -/
def local_ (s : State) (args : List String) : State :=
  match s.saved with
  | none => s.fail
  | some _ =>
    declare (fun s name =>
      match s.saved with
      | some saved => { s with saved := some ((name, s.binding? name) :: saved) }
      | none => s) s args

def unset (s : State) (args : List String) : State :=
  match args with
  | "-f" :: names =>
    { s with functions := s.functions.filter fun f => !names.contains f.1, status := 0 }
  | args =>
    (args.filter (· ≠ "-v")).foldl (fun s name =>
      if s.leaving.isSome then s
      else if Token.isName name.toList then s.unset name
      else s.fail) (s.withStatus 0)

def trap (s : State) (args : List String) : State :=
  let args := if args.head? = some "--" then args.tail else args
  let change (action : Option String) (signals : List String) : State :=
    signals.foldl (fun s name =>
      match Signal.number? name with
      | some n =>
        let others := s.traps.filter fun t => t.1 ≠ n
        { s with traps := match action with
          | some a => (n, a) :: others
          | none => others }
      | none => s.withStatus 1) (s.withStatus 0)
  match args with
  | [] => s.withStatus 0
  | [name] => change none [name]
  | action :: signals =>
    if action = "-" ∨ (count? action).isSome then
      change none (if action = "-" then signals else args)
    else change (some action) signals

def changeDirectory (s : State) (args : List String) : State :=
  let args := args.filter fun a => a ≠ "-L" ∧ a ≠ "-P" ∧ a ≠ "--"
  let target := match args with
    | [] => (s.value? "HOME").getD ""
    | "-" :: _ => (s.value? "OLDPWD").getD s.directory
    | path :: _ => path
  if target = "" then s.withStatus 0
  else match s.system.files.lookup s.directory target with
    | .ok (place, .directory) =>
      let path := pathOf place
      let bound := (s.bind ⟨"OLDPWD", some s.directory, true, false⟩).bind
        ⟨"PWD", some path, true, false⟩
      let shown := if args.head? = some "-" then bound.say (path ++ "\n") else bound
      { shown with directory := path, status := 0 }
    | _ => s.withStatus shellError

/-- A line of an input with what is quoted in it, the rest, and whether the line is complete. -/
def line (raw : Bool) : List Char → List (Char × Bool) × List Char × Bool
  | [] => ([], [], false)
  | '\n' :: rest => ([], rest, true)
  | '\\' :: c :: rest =>
    if raw then
      let (l, rest, complete) := line raw (c :: rest)
      (('\\', false) :: l, rest, complete)
    else
      let (l, rest, complete) := line raw rest
      (if c = '\n' then l else (c, true) :: l, rest, complete)
  | c :: rest =>
    let (l, rest, complete) := line raw rest
    ((c, false) :: l, rest, complete)

def separators (s : State) : List Char :=
  ((s.value? "IFS").getD " \t\n").toList

/-- The arguments behind the options of `read`, of which one has a value. -/
def variableNames : List String → List String
  | "-p" :: _ :: rest => variableNames rest
  | w :: rest =>
    if w.startsWith "-p" ∨ w = "-r" then variableNames rest else w :: variableNames rest
  | [] => []

/-- Reads a line of the input into variables; the last one takes what is left. -/
def read (s : State) (args : List String) : State :=
  let names := variableNames args
  if names = [] ∨ names.any fun n => !Token.isName n.toList then s.withStatus shellError
  else
    let (l, rest, complete) := line (args.contains "-r") s.input
    let values := Piece.lineFields (separators s) names.length l
    let assigned := (names.zip values).foldl (fun s (name, value) =>
      if s.leaving.isSome then s else s.assign name (String.ofList value)) (s.leaveInput rest)
    if assigned.leaving.isSome then assigned
    else assigned.withStatus (if complete then 0 else 1)

def octal (n : Nat) : String :=
  let digits := Nat.toDigits 8 n
  String.ofList (List.replicate (4 - digits.length) '0' ++ digits)

def mask (s : State) (args : List String) : State :=
  match args with
  | [] => (s.withStatus 0).say (octal s.mask ++ "\n")
  | a :: _ =>
    match Format.number ("0" ++ a) with
    | (n, true) => { s with mask := n.toNat % 512, status := 0 }
    | _ => if a.startsWith "-" ∨ a.toList.any Char.isAlpha then s.withStatus 0
      else s.withStatus shellError

def wait (s : State) (args : List String) : State :=
  args.foldl (fun s a =>
    match s.children.find? fun c => toString c.1.toNat = a with
    | some (_, ending) => s.withStatus ending.status
    | none => s.withStatus (if (count? a).isSome then 127 else shellError)) (s.withStatus 0)

/-- The options of a script one by one: the letter, the value, and the next position. -/
def option (letters : List Char) (args : List String) (index offset : Nat) :
    Option (Char × Option String × Nat × Nat) :=
  match (args[index - 1]?).map String.toList with
  | some ('-' :: c :: rest) =>
    if c :: rest = ['-'] then none
    else match (c :: rest)[offset]? with
      | none => none
      | some c =>
        let after := (rest.drop offset)
        let behind := letters.dropWhile (· ≠ c)
        if behind = [] ∨ c = ':' then
          some ('?', none, if after = [] then (index + 1, 0) else (index, offset + 1))
        else if behind[1]? = some ':' then
          if after ≠ [] then some (c, some (String.ofList after), index + 1, 0)
          else match args[index]? with
            | some value => some (c, some value, index + 2, 0)
            | none => some (if letters.head? = some ':' then ':' else '?', none, index + 1, 0)
        else some (c, none, if after = [] then (index + 1, 0) else (index, offset + 1))
  | _ => none

/-- Where the place inside a word of options is kept. No script has a variable of this name. -/
def placeName : String := "OPTIND "

/-- Reads the next option of a script into a variable. -/
def getOption (s : State) (args : List String) : State :=
  match args with
  | letters :: name :: rest =>
    let words := if rest = [] then s.arguments else rest
    let index := ((s.value? "OPTIND").bind count?).getD 1
    let known := ((s.value? placeName).bind count?).getD 0
    match option letters.toList words (max index 1) known with
    | some (c, value, index, offset) =>
      let assigned := ((s.assign name (String.singleton c)).assign "OPTIND" (toString index)).assign
        placeName (toString offset)
      let valued := match value with
        | some v => assigned.assign "OPTARG" v
        | none => assigned.unset "OPTARG"
      valued.withStatus 0
    | none =>
      let index := if words[index - 1]? = some "--" then index + 1 else index
      ((s.assign name "?").assign "OPTIND" (toString index)).withStatus 1
  | _ => s.withStatus shellError

def echo (s : State) (args : List String) : State :=
  (s.withStatus 0).say (String.ofList (Format.line args true))

def printf (s : State) : List String → State
  | "--" :: format :: args | format :: args =>
    let (t, sound) := Format.apply format args
    ((s.withStatus (if sound then 0 else 1)).say (String.ofList t))
  | [] => s.withStatus shellError

def nothing (s : State) (_ : List String) : State :=
  s.withStatus 0

/-- The commands whose errors end the shell, and which change its variables for good. -/
def special : List (String × (State → List String → State)) :=
  [(":", nothing), ("break", leaveLoops false), ("continue", leaveLoops true), ("exit", exit),
    ("export", export_), ("readonly", readonly), ("local", local_), ("return", return_),
    ("set", set), ("shift", shift), ("times", nothing), ("trap", trap), ("unset", unset)]

def regular : List (String × (State → List String → State)) :=
  [("alias", nothing), ("bg", nothing), ("cd", changeDirectory), ("chdir", changeDirectory),
    ("echo", echo), ("false", fun s _ => s.withStatus 1), ("fg", nothing),
    ("getopts", getOption), ("hash", nothing), ("jobs", nothing), ("kill", Signal.kill),
    ("printf", printf),
    ("pwd", fun s _ => (s.withStatus 0).say (s.directory ++ "\n")), ("read", read),
    ("test", fun s args => s.withStatus (Test.status s args)),
    ("[", fun s args => s.withStatus (Test.bracketStatus s args)), ("true", nothing),
    ("ulimit", nothing), ("umask", mask), ("unalias", nothing), ("wait", wait)]

/-- The commands that run other ones: those whose errors end the shell, and the others. -/
def runners : List String × List String :=
  ([".", "eval", "exec"], ["command", "type"])

def find? (table : List (String × (State → List String → State))) (name : String) :
    Option (State → List String → State) :=
  (table.find? fun c => c.1 = name).map (·.2)

def isSpecial (name : String) : Bool :=
  (find? special name).isSome || runners.1.contains name

def isRegular (name : String) : Bool :=
  (find? regular name).isSome || runners.2.contains name

inductive Meaning where
  | keyword
  | special
  | function
  | regular
  | program (path : String)

def meaning? (s : State) (name : String) : Option Meaning :=
  if (Script.closers ++ ["if", "while", "until", "for", "case", "\x7b", "!"]).contains name then
    some .keyword
  else if isSpecial name then some .special
  else if s.functions.any fun f => f.1 = name then some .function
  else if isRegular name then some .regular
  else match Lookup.find s name with
    | .ok path => if Test.unary s "-x" path then some (.program path) else none
    | .error _ => none

/-- The name or the path that a command is known by. -/
def nameOf? (s : State) (name : String) : Option String :=
  (meaning? s name).map fun m => match m with
    | .program path => path
    | _ => name

def describe (s : State) (name : String) : State :=
  match meaning? s name with
  | some m =>
    s.say (name ++ " is " ++ (match m with
      | .keyword => "a shell keyword"
      | .special => "a special shell builtin"
      | .function => "a shell function"
      | .regular => "a shell builtin"
      | .program path => path) ++ "\n")
  | none => (s.withStatus Lookup.notFound).say (name ++ ": not found\n")

end AgentLaunch.Shell.Builtins
