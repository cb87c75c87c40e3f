import AgentLaunch.Shell.Builtins

/-!
# Connections

What descriptors are connected to by redirections.
-/

namespace AgentLaunch.Shell.State

def redirect? (s : State) (descriptor : Nat) (mode : Redirection.Mode) (target : String) :
    Option State :=
  let copy (source : Nat) : Option State := (s.stream source).map (s.connect descriptor)
  let text (t : List Char) : State :=
    let (stream, s) := s.pipe t
    s.connect descriptor stream
  match mode with
  | .lines => some (text target.toList)
  | .duplicate => if target = "-" then some (s.close descriptor) else copy (target.toNat?.getD 0)
  | .read =>
    match descriptor? target with
    | some n => copy n
    | none =>
      match s.textOf? target, Test.node? s target with
      | _, some (.device _) => some (s.connect descriptor .null)
      | some t, _ => some (text t.toList)
      | none, some _ => some (s.connect descriptor .null)
      | none, none => none
  | mode =>
    match descriptor? target with
    | some n => copy n
    | none => s.openForWriting? descriptor (mode = .append) target

end AgentLaunch.Shell.State
