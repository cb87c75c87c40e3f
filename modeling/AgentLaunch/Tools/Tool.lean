import AgentLaunch.Shell.State
import AgentLaunch.Tools.Options

/-!
# Tools

Programs of the system that read options and operands, do their work, and leave an exit code.
-/

namespace AgentLaunch.Tools

open Shell (State)

/-- How a tool runs a command in a process of its own: how that ends, and the state afterwards. -/
abbrev Launch := List String → State → Shell.Ending × State

structure Tool where
  /-- The options with one letter, as a grammar reads them. -/
  letters : String := ""
  names : String := "help version"
  /-- The exit code for a mistake in the options. -/
  usage : Nat := 1
  /-- Older ways to write options, as the ones that replace them. -/
  rewritten : List String → List String := id
  sound : Given → Bool := fun _ => true
  /-- The exit code for an option that is given like this when it cannot be. -/
  unsound : Given → Nat := fun _ => usage
  /-- What the tool does in its process. -/
  run : State → Reading → State

namespace Tool

/-- Runs a tool with words. Its options are looked at one after another. -/
def start (t : Tool) (s : State) (args : List String) : State :=
  let g := Grammar.ofText t.letters t.names
  let strict := s.environment.any fun v => v.1 = "POSIXLY_CORRECT"
  let r := { g with mixed := g.mixed && !strict }.read (t.rewritten args)
  match r.given.find? fun o => g.informs o.key || !t.sound o with
  | some o => s.withStatus (if g.informs o.key then 0 else t.unsound o)
  | none => if r.mistaken then s.withStatus t.usage else t.run (s.withStatus 0) r

end Tool

/-- Work on at least so many operands, and at most so many if there is a bound. -/
def counted (least : Nat) (most : Option Nat) (code : Nat) (body : State → Reading → State)
    (s : State) (r : Reading) : State :=
  let n := r.operands.length
  if n < least ∨ most.any (· < n) then s.withStatus code else body s r

def alone (code : Nat) (body : State → Reading → State) : State → Reading → State :=
  counted 0 (some 0) code body

def leaves (code : Nat) (s : State) (_ : Reading) : State :=
  s.withStatus code

/-- Says whether the values of some options are fine; all other options are. -/
def ruled (rules : List (String × (String → Bool))) (g : Given) : Bool :=
  match g.value, rules.find? fun r => r.1 = g.key with
  | some v, some rule => rule.2 v
  | _, _ => true

/-- Whether a text is one of some names, of which it may be a clear beginning. -/
def isChoice (names : List String) (t : String) : Bool :=
  names.contains t || (names.filter fun n => n.startsWith t).length = 1

/-- Marks a failure, which does not end the work. -/
def failed (code : Nat) (s : State) : State :=
  s.withStatus (max code s.status)

def sayLines (s : State) (ls : List String) : State :=
  s.say (String.join (ls.map (· ++ "\n")))

end AgentLaunch.Tools
