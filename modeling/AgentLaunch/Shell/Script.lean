import AgentLaunch.Shell.Token

/-!
# Shell scripts

Scripts as trees. A script is run as it is read, so that what stands before a mistake still counts.
-/

namespace AgentLaunch.Shell

inductive Redirection.Mode where
  | read
  | write
  | append
  | duplicate
  | lines
  deriving DecidableEq

structure Redirection where
  descriptor : Nat
  mode : Redirection.Mode
  target : Word

inductive Statement where
  | simple (assignments : List (String × Word)) (words : List Word)
  | group (steps : List Statement)
  | subshell (steps : List Statement)
  /-- Conditions with what they guard, and what runs if none holds. -/
  | conditional (branches : List (List Statement × List Statement)) (otherwise : List Statement)
  | repeated (isUntil : Bool) (condition body : List Statement)
  | forEach (name : String) (words : List Word) (body : List Statement)
  /-- Patterns with what runs for the first that matches. -/
  | choice (subject : Word) (clauses : List (List Word × List Statement))
  | definition (name : String) (body : Statement)
  | pipeline (commands : List Statement)
  | negated (command : Statement)
  /-- The second one runs if the first one succeeds, or if it fails. -/
  | sequel (first : Statement) (ifFails : Bool) (second : Statement)
  | background (command : Statement)
  | redirected (command : Statement) (redirections : List Redirection)

abbrev Script := List Statement

namespace Script

/-- The words that end a part of a compound command. -/
def closers : List String :=
  ["then", "elif", "else", "fi", "do", "done", "esac", "\x7d"]

def Token.bareText? : Token → Option String
  | .word w => w.bare?.map String.ofList
  | _ => none

def nextIs (t : String) : List Token → Bool
  | first :: _ => Token.bareText? first = some t
  | [] => false

def expect (t : String) : List Token → Option (List Token)
  | first :: rest => if Token.bareText? first = some t then some rest else none
  | [] => none

def isBreak : Token → Bool
  | .operator o => o = "\n"
  | _ => false

def skipBreaks (ts : List Token) : List Token :=
  ts.dropWhile isBreak

def atEnd : List Token → Bool
  | [] => true
  | .operator ")" :: _ | .operator ";;" :: _ => true
  | t :: _ => closers.any fun c => Token.bareText? t = some c

/-- The variable that a word assigns to, and its value. -/
def assignment? (w : Word) : Option (String × Word) :=
  let front := w.takeWhile fun p => match p with
    | .literal s false => !s.contains '='
    | _ => false
  match w.drop front.length, (Word.bare? front) with
  | .literal ['='] false :: value, some name =>
    if Token.isName name then some (String.ofList name, Word.withHomes value) else none
  | _, _ => none

def redirection? : String → Option (Nat × Redirection.Mode)
  | "<" | "<>" => some (0, .read)
  | ">" | ">|" => some (1, .write)
  | ">>" => some (1, .append)
  | ">&" => some (1, .duplicate)
  | "<&" => some (0, .duplicate)
  | _ => none

/-- One redirection in front of a text, and the rest. -/
def oneRedirection : List Token → Option (Redirection × List Token)
  | .descriptor n :: .operator o :: .word w :: rest =>
    (redirection? o).map fun (_, mode) => (⟨n, mode, Word.withHome w⟩, rest)
  | .operator o :: .word w :: rest =>
    (redirection? o).map fun (n, mode) => (⟨n, mode, Word.withHome w⟩, rest)
  | .descriptor n :: .lines w :: rest => some (⟨n, .lines, w⟩, rest)
  | .lines w :: rest => some (⟨0, .lines, w⟩, rest)
  | _ => none

def redirections : Nat → List Token → List Redirection × List Token
  | 0, ts => ([], ts)
  | n + 1, ts =>
    match oneRedirection ts with
    | some (r, rest) =>
      let (later, rest) := redirections n rest
      (r :: later, rest)
    | none => ([], ts)

/-- The words of a simple command with its redirections, which may stand anywhere. -/
def simpleParts : Nat → List Token → List Word × List Redirection × List Token
  | 0, ts => ([], [], ts)
  | n + 1, ts =>
    match oneRedirection ts, ts with
    | some (r, rest), _ =>
      let (ws, rs, rest) := simpleParts n rest
      (ws, r :: rs, rest)
    | none, .word w :: rest =>
      let (ws, rs, rest) := simpleParts n rest
      (w :: ws, rs, rest)
    | none, ts => ([], [], ts)

/-- Splits words into the assignments in front and the command. -/
def splitAssignments : List Word → List (String × Word) × List Word
  | [] => ([], [])
  | w :: rest =>
    match assignment? w with
    | some a =>
      let (assignments, ws) := splitAssignments rest
      (a :: assignments, ws)
    | none => ([], w :: rest)

def withRedirections (c : Statement) (ts : List Token) : Statement × List Token :=
  match redirections ts.length ts with
  | ([], ts) => (c, ts)
  | (rs, ts) => (.redirected c rs, ts)

/-- A command without parts, unless operators are left where none may be. -/
def simple (ts : List Token) : Option (Statement × List Token) :=
  let (ws, rs, rest) := simpleParts ts.length ts
  let (assignments, words) := splitAssignments ws
  let words := words.map Word.withHome
  match rest with
  | .broken :: _ | .operator "(" :: _ | .descriptor _ :: _ => none
  | .operator o :: _ =>
    if (redirection? o).isSome || (ws.isEmpty && rs.isEmpty) then none
    else some (command assignments words rs, rest)
  | _ => if ws.isEmpty && rs.isEmpty then none else some (command assignments words rs, rest)
where
  command (assignments : List (String × Word)) (words : List Word) (rs : List Redirection) :
      Statement :=
    if rs.isEmpty then .simple assignments words else .redirected (.simple assignments words) rs

/-- The words of a loop up to the end of the line. -/
def loopWords : List Token → List Word × List Token
  | .word w :: rest =>
    let (ws, rest) := loopWords rest
    (Word.withHome w :: ws, rest)
  | ts => ([], ts)

def patterns : List Token → Option (List Word × List Token)
  | .word w :: .operator "|" :: rest => (patterns rest).map fun (ws, rest) =>
    (Word.withHome w :: ws, rest)
  | .word w :: .operator ")" :: rest => some ([Word.withHome w], rest)
  | _ => none

mutual

/-- Commands up to the end of a part. The number bounds how often the functions call each other,
which is less than the number of tokens times their number. -/
def script : Nat → List Token → Option (Script × List Token)
  | 0, _ => none
  | n + 1, ts =>
    let ts := skipBreaks ts
    if atEnd ts then some ([], ts)
    else do
      let (c, ts) ← item n ts
      let (rest, ts) ← script n ts
      return (c :: rest, ts)

/-- A command with what separates it from the next one. -/
def item : Nat → List Token → Option (Statement × List Token)
  | 0, _ => none
  | n + 1, ts => do
    match ← sequels n (← pipeline n ts) with
    | (c, .operator "&" :: ts) => return (.background c, ts)
    | (c, .operator ";" :: ts) => return (c, ts)
    | (c, ts) =>
      if atEnd ts || (ts.head?.map isBreak).getD false then return (c, ts) else none

/-- What runs depending on how the command in front of it ends. -/
def sequels : Nat → Statement × List Token → Option (Statement × List Token)
  | 0, _ => none
  | n + 1, (c, .operator "&&" :: ts) => do
    let (d, ts) ← pipeline n (skipBreaks ts)
    sequels n (.sequel c false d, ts)
  | n + 1, (c, .operator "||" :: ts) => do
    let (d, ts) ← pipeline n (skipBreaks ts)
    sequels n (.sequel c true d, ts)
  | _ + 1, found => some found

def pipeline : Nat → List Token → Option (Statement × List Token)
  | 0, _ => none
  | n + 1, ts =>
    match expect "!" ts with
    | some ts => (pipeline n ts).map fun (c, ts) => (.negated c, ts)
    | none => do
      let (c, ts) ← command n ts
      let (cs, ts) ← piped n ts
      return (if cs.isEmpty then c else .pipeline (c :: cs), ts)

def piped : Nat → List Token → Option (List Statement × List Token)
  | 0, _ => none
  | n + 1, .operator "|" :: ts => do
    let (c, ts) ← command n (skipBreaks ts)
    let (cs, ts) ← piped n ts
    return (c :: cs, ts)
  | _, ts => some ([], ts)

def command : Nat → List Token → Option (Statement × List Token)
  | 0, _ => none
  | n + 1, .operator "(" :: ts => do
    match ← script n ts with
    | (c :: cs, .operator ")" :: ts) => return withRedirections (.subshell (c :: cs)) ts
    | _ => none
  | n + 1, .word w :: .operator "(" :: .operator ")" :: ts => do
    let name ← w.bare?
    let (body, ts) ← command n (skipBreaks ts)
    return (.definition (String.ofList name) body, ts)
  | n + 1, ts =>
    if nextIs "\x7b" ts then do
      let (body, ts) ← filled n (ts.drop 1)
      return withRedirections (.group body) (← expect "\x7d" ts)
    else if nextIs "if" ts then do
      let (c, ts) ← branches n (ts.drop 1)
      return withRedirections c ts
    else if nextIs "while" ts || nextIs "until" ts then do
      let (condition, rest) ← filled n (ts.drop 1)
      let (body, rest) ← filled n (← expect "do" rest)
      return withRedirections (.repeated (nextIs "until" ts) condition body)
        (← expect "done" rest)
    else if nextIs "for" ts then do
      let (c, ts) ← loop n (ts.drop 1)
      return withRedirections c ts
    else if nextIs "case" ts then do
      match ts.drop 1 with
      | .word subject :: ts =>
        let (cs, ts) ← clauses n (← expect "in" (skipBreaks ts))
        return withRedirections (.choice (Word.withHome subject) cs) ts
      | _ => none
    else if atEnd ts then none
    else simple ts

def filled : Nat → List Token → Option (Script × List Token)
  | 0, _ => none
  | n + 1, ts => do
    match ← script n ts with
    | ([], _) => none
    | found => return found

def branches : Nat → List Token → Option (Statement × List Token)
  | 0, _ => none
  | n + 1, ts => do
    let (condition, ts) ← filled n ts
    let (body, ts) ← filled n (← expect "then" ts)
    if nextIs "elif" ts then
      match ← branches n (ts.drop 1) with
      | (.conditional bs otherwise, ts) =>
        return (.conditional ((condition, body) :: bs) otherwise, ts)
      | _ => none
    else if nextIs "else" ts then
      let (otherwise, ts) ← filled n (ts.drop 1)
      return (.conditional [(condition, body)] otherwise, ← expect "fi" ts)
    else return (.conditional [(condition, body)] [], ← expect "fi" ts)

def loop : Nat → List Token → Option (Statement × List Token)
  | 0, _ => none
  | _, [] => none
  | n + 1, t :: ts => do
    let name ← Token.bareText? t
    if !Token.isName name.toList then none
    let (ws, ts) ← match expect "in" (skipBreaks ts) with
      | some ts =>
        match loopWords ts with
        | (ws, .operator o :: ts) => if o = ";" ∨ o = "\n" then some (ws, ts) else none
        | _ => none
      | none =>
        some ([[.parameter "@" true]], match ts with
          | .operator ";" :: ts => ts
          | ts => ts)
    let (body, ts) ← filled n (← expect "do" (skipBreaks ts))
    return (.forEach name ws body, ← expect "done" ts)

def clauses : Nat → List Token → Option (List (List Word × Script) × List Token)
  | 0, _ => none
  | n + 1, ts =>
    let ts := skipBreaks ts
    match expect "esac" ts with
    | some ts => some ([], ts)
    | none => do
      let (ps, ts) ← patterns (match ts with
        | .operator "(" :: ts => ts
        | ts => ts)
      match ← script n ts with
      | (body, .operator ";;" :: ts) =>
        let (cs, ts) ← clauses n ts
        return ((ps, body) :: cs, ts)
      | (body, ts) => return ([(ps, body)], ← expect "esac" ts)

end

/-- How often the functions may call each other for these tokens. -/
def bound (ts : List Token) : Nat :=
  10 * ts.length + 10

def line : Nat → List Token → Option (Script × List Token)
  | 0, _ => none
  | n + 1, ts => do
    let (c, ts) ← item (bound ts) ts
    match ts with
    | [] => return ([c], [])
    | t :: _ =>
      if isBreak t then return ([c], ts)
      else
        let (rest, ts) ← line n ts
        return (c :: rest, ts)

/-- The lines of a script as far as they can be read, and whether all can be. -/
def readLines : Nat → List Token → List Script × Bool
  | 0, _ => ([], false)
  | n + 1, ts =>
    match skipBreaks ts with
    | [] => ([], true)
    | ts =>
      match line (ts.length + 1) ts with
      | none => ([], false)
      | some (first, ts) =>
        let (rest, complete) := readLines n ts
        (first :: rest, complete)

/-- The lines of a script, each with compound commands in full, as far as they can be read, and
whether all can be. -/
def read (s : List Char) : List Script × Bool :=
  let ts := Token.scan s
  readLines (ts.length + 1) ts

end Script

end AgentLaunch.Shell
