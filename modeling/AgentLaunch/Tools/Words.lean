import AgentLaunch.Shell.Format
import AgentLaunch.Shell.Lookup
import AgentLaunch.Shell.Test
import AgentLaunch.Tools.Expr

/-!
# Tools for words

Tools that take their words as they are: they write them out, ask about them, or look for programs
with these names.
-/

namespace AgentLaunch.Tools.Words

open Shell (State)

/-- Whether words only ask for a text about the tool. -/
def asksForText (args : List String) : Bool :=
  args = ["--help"] || args = ["--version"]

/-- Writes words out. Escapes count only if they are asked for. -/
def echo (s : State) (args : List String) : State :=
  let isOption (a : String) : Bool :=
    a.startsWith "-" && a ≠ "-" && a.toList.tail.all fun c => c = 'n' || c = 'e' || c = 'E'
  let options := args.takeWhile isOption
  let words := args.drop options.length
  let letters := options.flatMap String.toList
  let escapes := (letters.filter fun c => c = 'e' || c = 'E').getLast? = some 'e'
  let text := (String.intercalate " " words).toList
  let (t, complete) := if escapes then Shell.Format.unescape text.length text else (text, true)
  s.say (String.ofList (if complete ∧ !letters.contains 'n' then t ++ ['\n'] else t))

/-- A format in which words that are to be quoted are written as they are. -/
def withoutQuotes : List Char → List Char
  | '%' :: 'q' :: rest => '%' :: 's' :: withoutQuotes rest
  | '%' :: c :: rest => '%' :: c :: withoutQuotes rest
  | c :: rest => c :: withoutQuotes rest
  | [] => []

def printf (s : State) (args : List String) : State :=
  match args with
  | "--" :: [] | [] => s.withStatus 1
  | "--" :: format :: args | format :: args =>
    let (t, sound) := Shell.Format.apply (String.ofList (withoutQuotes format.toList)) args
    (s.withStatus (if sound then 0 else 1)).say (String.ofList t)

/-! ### Questions -/

def single : List Char := "bcdefghknoprstuwxzGLNOS".toList

def isSingle (w : String) : Bool :=
  match w.toList with
  | ['-', c] => single.contains c
  | _ => false

/-- Whether a word is a dash with one character. -/
def isShort (w : String) : Bool :=
  match w.toList with
  | ['-', _] => true
  | _ => false

def pairs : List String :=
  ["=", "==", "!=", "-nt", "-ot", "-ef", "-eq", "-ne", "-lt", "-le", "-gt", "-ge"]

/-- The answer about one word, or nothing if there is no such question. -/
def askOne (s : State) (op w : String) : Option Bool :=
  if !isSingle op then none
  else if op = "-t" then (Shell.Test.number? w).map fun _ => false
  else if op = "-N" then some false
  else some (Shell.Test.unary s op w)

def askTwo (s : State) (a op b : String) : Option Bool :=
  Shell.Test.binary s a (if op = "==" then "=" else op) b

abbrev Answer := Option (Bool × List String)

def present : List String → Answer
  | w :: rest => some (w ≠ "", rest)
  | [] => none

def negated (a : Answer) : Answer :=
  a.map fun (b, rest) => (!b, rest)

def askShort (s : State) : List String → Answer
  | "!" :: rest => negated (present rest)
  | op :: w :: rest => if isShort op then (askOne s op w).map (·, rest) else none
  | _ => none

mutual

/-- The answer of words that are told to be so many. The number bounds how often the functions call
each other. -/
def told (s : State) : Nat → Nat → List String → Answer
  | 0, _, _ => none
  | n + 1, count, words =>
    match count, words with
    | 1, words => present words
    | 2, words => askShort s words
    | 3, words => three s n words
    | 4, "!" :: rest => negated (three s n rest)
    | 4, "(" :: a :: b :: ")" :: rest => (askShort s [a, b]).map fun (x, _) => (x, rest)
    | _, words => either s n words

def three (s : State) : Nat → List String → Answer
  | 0, _ => none
  | n + 1, words =>
    match words with
    | a :: op :: b :: rest =>
      if pairs.contains op then (askTwo s a op b).map (·, rest)
      else if a = "!" then negated (askShort s (op :: b :: rest))
      else if a = "(" ∧ b = ")" then some (op ≠ "", rest)
      else if op = "-a" ∨ op = "-o" then either s n words
      else none
    | _ => none

def either (s : State) : Nat → List String → Answer
  | 0, _ => none
  | n + 1, words => do
    match ← both s n words with
    | (a, "-o" :: rest) =>
      let (b, rest) ← either s n rest
      return (a || b, rest)
    | found => return found

def both (s : State) : Nat → List String → Answer
  | 0, _ => none
  | n + 1, words => do
    match ← term s n words with
    | (a, "-a" :: rest) =>
      let (b, rest) ← both s n rest
      return (a && b, rest)
    | found => return found

def term (s : State) : Nat → List String → Answer
  | 0, _ => none
  | n + 1, words =>
    match words with
    | [] => none
    | "!" :: w :: rest => negated (term s n (w :: rest))
    | "!" :: [] => none
    | "(" :: rest =>
      let inside := 1 + ((rest.drop 1).takeWhile (· ≠ ")")).length
      match told s n (if inside ≥ 4 then rest.length else inside) rest with
      | some (a, ")" :: rest) => some (a, rest)
      | _ => none
    | w :: rest =>
      match rest with
      | op :: b :: more =>
        if pairs.contains op then (askTwo s w op b).map (·, more)
        else if isShort w then (askOne s w op).map (·, b :: more)
        else some (w ≠ "", rest)
      | [v] => if isShort w then (askOne s w v).map (·, []) else some (w ≠ "", rest)
      | [] => if isShort w then none else some (w ≠ "", [])

end

def test (s : State) (words : List String) : State :=
  s.withStatus (match words with
    | [] => 1
    | words =>
      match told s (6 * words.length + 12) words.length words with
      | some (true, []) => 0
      | some (false, []) => 1
      | _ => 2)

def bracket (s : State) (words : List String) : State :=
  if words.getLast? = some "]" then test s words.dropLast else s.withStatus 2

def which (s : State) (args : List String) : State :=
  let options := args.takeWhile fun a => a.startsWith "-" && a ≠ "-" && a ≠ "--"
  let names := args.drop options.length
  let names := if names.head? = some "--" then names.tail else names
  if options.any fun o => o.toList.tail.any fun c => c ≠ 'a' && c ≠ 's' then s.withStatus 2
  else if names = [] then s.withStatus 1
  else names.foldl (fun s name =>
    match Shell.Lookup.find s name with
    | .ok path =>
      if Shell.Lookup.isRunnable s path then sayLines s [path] else failed 1 s
    | .error _ => failed 1 s) s

/-- What asks for a text first does the work then. -/
def orText (body : State → List String → State) (s : State) (args : List String) : State :=
  if asksForText args then s else body s args

def table : List (String × (State → List String → State)) :=
  [("true", fun s _ => s), ("false", fun s _ => s.withStatus 1), ("echo", orText echo),
    ("printf", orText printf), ("test", test), ("[", orText bracket), ("expr", Expr.run),
    ("which", which), ("which.debianutils", which)]

end AgentLaunch.Tools.Words
