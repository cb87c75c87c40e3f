import AgentLaunch.Perl.Run

/-!
# Processes of scripts

A script runs from what comes first in it to what runs at its end, and its process ends with a
code. Where it splits its process, it is run once more for each of the two, with a plan of which
one it is: first the new process to its end, then the old one, which can wait for it.
-/

namespace AgentLaunch.Perl

open Tools (Launch)

namespace Machine

def callDepth : Nat := 1500

/-- The code of a script that a failure ends: the number of the last error, or how the last command
ended. -/
def failureCode (m : Machine) : Nat :=
  if m.errno % 256 ≠ 0 then m.errno % 256
  else
    let code := (m.status / 256 % 256).toNat
    if code ≠ 0 then code else 255

/-- The code that a script ends with, if it does so by itself. -/
def code? (m : Machine) : Option Nat :=
  match m.leaving with
  | none => some 0
  | some (.exited code) => some (code % 256).toNat
  | some (.died _) => some m.failureCode
  | some (.returned _) | some (.broken _) | some (.continued _) => some m.failureCode
  | some .gone | some .splits => none

/-- Runs what is at the end of a script. It can change the code. -/
def runFinal (launch : Launch) (code : Nat) (m : Machine) : Machine :=
  m.program.final.foldl (fun m body =>
    match m.leaving with
    | some .gone | some .splits => m
    | _ =>
      let after := (execBlock launch callDepth false body { m with leaving := none }).2
      match after.code? with
      | none => after
      | some new =>
        if after.leaving.isSome then { after with status := Int.ofNat new, leaving := none }
        else after) { m with leaving := none, status := Int.ofNat code }

def ended (launch : Launch) (m : Machine) : Machine :=
  match m.code? with
  | none => m
  | some code =>
    let m := runFinal launch code m
    if m.leaving.isSome then m
    else
      let code := (m.status % 256).toNat
      let m := m.writers.foldl (fun m w => (close launch m w.name).2) m
      { m with shell := m.shell.stop code, leaving := some .gone }

/-- Runs a script to the end of its process. -/
def runToEnd (launch : Launch) (m : Machine) : Machine :=
  let m := execAll launch callDepth (m.program.initial.map Statement.block) m
  let m := if m.leaving.isSome then m
    else (execBlock launch callDepth false m.program.body m).2
  ended launch (receive launch callDepth m)

/-- Runs a script that can split its process. The number bounds how often. -/
def runPlanned (launch : Launch) (begun : Machine) : Nat → List (Option Shell.Ending) → Machine
  | 0, _ => begun.overflow
  | n + 1, plan =>
    let m := runToEnd launch { begun with plan := plan }
    match m.leaving with
    | some .splits =>
      let child := runPlanned launch begun n (plan ++ [none])
      runPlanned launch begun n (plan ++ [some child.shell.ending])
    | _ => m

/-- How often the process of a script can be split. -/
def maxSplits : Nat := 12

def begin_ (s : Shell.State) (p : Program) (name : String) (words : List String) : Machine :=
  let given : List (String × Value) :=
    [("0", .ofString name), ("/", .ofString "\n"), ("\"", .ofString " "), ("^O", .ofString "linux"),
      ("^T", .ofNat Tools.clockSeconds), ("^X", .ofString "/usr/bin/perl"),
      ("]", .ofString "5.036"), ("<", .ofNat s.identity.uid.toNat),
      (">", .ofNat s.identity.uid.toNat), ("(", .ofNat s.identity.gid.toNat),
      (")", .ofNat s.identity.gid.toNat), ("@", .text []), (";", .ofString "\x1c"),
      ("^W", .integer 0)]
  let environment := s.environment.map fun v => (v.1.toList, Value.ofString v.2)
  { shell := s, program := p, scalars := given, arrays := [("ARGV", words.map .ofString)]
    tables := [("ENV", environment)], shadows := [], errno := 0, status := 0, groups := []
    positions := [], readers := [], writers := [], handles := 0, alarm := none,
    lineNumber := 0, label := ""
    result := [], asked := none, plan := [], children := [], leaving := none }

/-- Runs a script: the state at the end of its process. -/
def run (launch : Launch) (m : Machine) : Shell.State :=
  (runPlanned launch m maxSplits []).shell

end Machine

end AgentLaunch.Perl
