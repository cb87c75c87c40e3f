import AgentLaunch.Shell.Regex

/-!
# Scripts for lines

The syntax of the language in which the lines of a text are edited one after another.
-/

namespace AgentLaunch.Sed

/-- A regular expression with its flags; nothing stands for the one that was used last. -/
structure Pattern where
  regex : Option Shell.Regex
  fold : Bool

inductive Address where
  | line (n : Nat)
  | step (first step : Nat)
  | last
  | fits (p : Pattern)

/-- Where the lines end that a command is for. -/
inductive End where
  | address (a : Address)
  | plus (n : Nat)
  /-- At the next line whose number is a multiple. -/
  | multiple (n : Nat)

/-- The lines that a command is for. -/
inductive Selection where
  | all
  | single (a : Address)
  | range (first : Address) (last : End)

/-- How letters are changed that a replacement puts in. -/
inductive Case where
  | upper
  | lower
  | upperOnce
  | lowerOnce
  | asIs
  deriving DecidableEq

inductive Piece where
  | text (t : List Char)
  | group (n : Nat)
  | case (c : Case)

structure Substitution where
  pattern : Pattern
  replacement : List Piece
  everywhere : Bool
  number : Nat
  prints : Bool
  evaluates : Bool
  file : Option String

inductive Action where
  | block
  | close
  | equals
  | append (t : List Char)
  | insert (t : List Char)
  | change (t : List Char)
  | label (name : String)
  | jump (name : String)
  | jumpIfChanged (name : String)
  | jumpUnlessChanged (name : String)
  | delete
  | deleteFirst
  | execute (command : List Char)
  | showName
  | getHold
  | appendHold
  | keep
  | appendKeep
  | list
  | next
  | appendNext
  | print
  | printFirst
  | quit (code : Nat)
  | quitSilently (code : Nat)
  | readFile (path : String)
  | readLine (path : String)
  | substitute (s : Substitution)
  | nothing
  | writeFile (path : String)
  | writeFirst (path : String)
  | exchange
  | translate (pairs : List (Char × Char))
  | empty
  | broken

structure Command where
  selection : Selection
  negated : Bool
  action : Action

namespace Action

def output? : Action → Option String
  | .writeFile path | .writeFirst path => some path
  | .substitute s => s.file
  | _ => none

/-- The place in a script that an action leads to. -/
def goal? : Action → Option String
  | .jump name | .jumpIfChanged name | .jumpUnlessChanged name =>
    if name = "" then none else some name
  | _ => none

end Action

end AgentLaunch.Sed
