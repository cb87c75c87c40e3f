import AgentLaunch.Binary64

/-!
# Programs over records

The syntax of the language in which records of a text are matched by patterns and worked on by
actions.
-/

namespace AgentLaunch.Awk

inductive Arithmetic where
  | plus
  | minus
  | times
  | divided
  | modulo
  | power
  deriving DecidableEq

inductive Comparison where
  | less
  | lessEqual
  | equal
  | different
  | greaterEqual
  | greater
  deriving DecidableEq

inductive Expr where
  | number (x : Binary64)
  | text (t : List Char)
  /-- A regular expression, which asks about the whole record by itself. -/
  | regex (source : List Char)
  | name (n : String)
  | item (table : String) (indices : List Expr)
  | field (index : Expr)
  | assign (operation : Option Arithmetic) (target value : Expr)
  /-- One up or down: the value before or after the change. -/
  | step (before up : Bool) (target : Expr)
  | conditional (condition yes no : Expr)
  | either (a b : Expr)
  | both (a b : Expr)
  | not (a : Expr)
  | minus (a : Expr)
  | plus (a : Expr)
  | isIn (indices : List Expr) (table : String)
  | fits (negated : Bool) (a pattern : Expr)
  | compare (c : Comparison) (a b : Expr)
  | concat (a b : Expr)
  | arithmetic (o : Arithmetic) (a b : Expr)
  | group (a : Expr)
  /-- Several expressions in parentheses, as they stand behind a word that prints. -/
  | several (es : List Expr)
  | builtin (n : String) (args : List Expr)
  | call (n : String) (args : List Expr)
  | readRecord (target : Option Expr)
  | readFile (target : Option Expr) (path : Expr)
  | readCommand (target : Option Expr) (command : Expr)
  deriving Inhabited

inductive Destination where
  | output
  | file (path : Expr)
  | append (path : Expr)
  | command (text : Expr)
  deriving Inhabited

inductive Statement where
  | evaluate (e : Expr)
  | print (args : List Expr) (sink : Destination)
  | printf (args : List Expr) (sink : Destination)
  | choose (condition : Expr) (yes no : List Statement)
  | whileDo (condition : Expr) (body : List Statement)
  | doWhile (body : List Statement) (condition : Expr)
  | loop (start : List Statement) (condition : Option Expr) (next body : List Statement)
  | forIn (key table : String) (body : List Statement)
  | next
  | nextFile
  | exit (code : Option Expr)
  | return_ (value : Option Expr)
  | break_
  | continue_
  | delete (table : String) (indices : Option (List Expr))
  deriving Inhabited

inductive Pattern where
  | always
  | when (e : Expr)
  | range (first last : Expr)

structure Rule where
  pattern : Pattern
  action : List Statement

structure Function where
  name : String
  parameters : List String
  body : List Statement

structure Program where
  first : List Statement
  rules : List Rule
  last : List Statement
  hasFirst : Bool
  hasLast : Bool
  functions : List Function

/-- The functions of the language, each with the least and the largest number of arguments. -/
def builtins : List (String × Nat × Nat) :=
  [("length", 0, 1), ("substr", 2, 3), ("index", 2, 2), ("split", 2, 3), ("sub", 2, 3),
    ("gsub", 2, 3), ("match", 2, 2), ("sprintf", 1, 1000), ("sin", 1, 1), ("cos", 1, 1),
    ("atan2", 2, 2), ("exp", 1, 1), ("log", 1, 1), ("sqrt", 1, 1), ("int", 1, 1), ("rand", 0, 0),
    ("srand", 0, 1), ("tolower", 1, 1), ("toupper", 1, 1), ("system", 1, 1), ("close", 1, 1),
    ("fflush", 0, 1), ("systime", 0, 0), ("strftime", 0, 3), ("mktime", 1, 1)]

end AgentLaunch.Awk
