import AgentLaunch.Image
import AgentLaunch.Shell.Builtins

/-!
# Starting programs

The states in which programs and shells begin, and how they read their arguments.
-/

namespace AgentLaunch.Shell.State

/-- The process as one that begins with a program: what belongs to the shell is gone. -/
def renewed (s : State) (path : String) (image : Image) : State :=
  let title := Text.lossy (((Path.fileName? path).getD path).toUTF8.toList.take 15)
  { s with
    identity := { s.identity with title := title, words := image.name :: image.args }
    name := image.name
    arguments := []
    bindings := s.bindings.filter fun b => b.exported && b.value.isSome
    functions := []
    switches := ⟨false, false, false, false⟩
    traps := s.traps.filter fun t => t.2 = ""
    status := 0
    tested := false
    loops := 0
    saved := none }

def asShell (s : State) : State :=
  let parent := toString (s.waiting.headD 1).toNat
  let named := s.bindings.filter fun b => Token.isName b.name.toList
  let bindings := named.map fun b => { b with constant := false }
  let begun := { s with shell := s.identity, children := [], bindings := bindings }
  (((begun.bind ⟨"PPID", some parent, false, false⟩).bind
    ⟨"IFS", some " \t\n", false, false⟩).bind ⟨"OPTIND", some "1", false, false⟩).bind
      ⟨"PWD", some s.directory, true, false⟩

/-- The arguments of a shell: its switches, whether a script is given as text, and the rest. -/
structure ShellArguments where
  switches : Switches
  isText : Bool
  isInput : Bool
  rest : List String

def shellArguments? : ShellArguments → List String → Option ShellArguments
  | a, [] => some a
  | a, word :: rest =>
    match word.toList with
    | ['-'] | ['-', '-'] => some { a with rest := rest }
    | sign :: letters =>
      if sign ≠ '-' ∧ sign ≠ '+' then some { a with rest := word :: rest }
      else
        let text := letters.contains 'c'
        let input := letters.contains 's'
        let named := letters.contains 'o'
        let plain := letters.filter fun c => !"csol".toList.contains c
        match Builtins.turnAll? a.switches (sign = '-') plain, named, rest with
        | none, _, _ => none
        | some w, false, rest =>
          shellArguments? ⟨w, a.isText || text, a.isInput || input, []⟩ rest
        | some w, true, name :: rest =>
          match (Builtins.letter? name).bind (Builtins.turn? w (sign = '-')) with
          | some w => shellArguments? ⟨w, a.isText || text, a.isInput || input, []⟩ rest
          | none => none
        | some w, true, [] => some ⟨w, a.isText || text, a.isInput || input, []⟩
    | [] => some { a with rest := word :: rest }

/-- The options of `bash` that have long names, each with whether a value stands behind it. -/
def longOptions : List (String × Bool) :=
  [("--norc", false), ("--noprofile", false), ("--posix", false), ("--login", false),
    ("--noediting", false), ("--verbose", false), ("--restricted", false), ("--rcfile", true),
    ("--init-file", true), ("--debug", false), ("--debugger", false), ("--dump-strings", false),
    ("--dump-po-strings", false), ("--pretty-print", false), ("-norc", false),
    ("-noprofile", false), ("-login", false), ("-posix", false), ("-r", false)]

/-- Arguments without such options; nothing if a value is missing. -/
def withoutLong : List String → Option (List String)
  | [] => some []
  | w :: rest =>
    match longOptions.find? fun o => o.1 = w with
    | none => some (w :: rest)
    | some (_, false) => withoutLong rest
    | some (_, true) =>
      match rest with
      | _ :: rest => withoutLong rest
      | [] => none

end AgentLaunch.Shell.State
