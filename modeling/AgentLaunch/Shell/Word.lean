/-!
# Words of the shell

A word is kept in parts, as quoting and expansion work on parts of words.
-/

namespace AgentLaunch.Shell

/-- What is done with the value of a parameter. -/
inductive Change where
  /-- A word stands for a missing value. -/
  | orElse
  /-- A word is assigned in place of a missing value. -/
  | orAssign
  /-- Nothing may go on without a value. -/
  | orFail
  /-- A word stands for a value that is there. -/
  | instead
  | dropFront (longest : Bool)
  | dropEnd (longest : Bool)

/-- A part of a word. What is quoted is not split into several words. -/
inductive Part where
  | literal (s : List Char) (quoted : Bool)
  | parameter (name : String) (quoted : Bool)
  | length (name : String) (quoted : Bool)
  /-- The value of a parameter with a change. An empty value can count as a missing one. -/
  | changed (name : String) (change : Change) (evenIfEmpty : Bool) (word : List Part)
    (quoted : Bool)
  | substitution (script : List Char) (quoted : Bool)
  | arithmetic (expression : List Part) (quoted : Bool)
  /-- The home directory of an account, or the own one if there is no name. -/
  | home (user : String)
  | invalid

abbrev Word := List Part

namespace Word

/-- The text of a word that has neither quotes nor expansions. -/
def bare? : Word → Option (List Char)
  | [] => some []
  | .literal s false :: rest => (bare? rest).map (s ++ ·)
  | _ => none

/-- The text of a word that has no expansions. -/
def literal? : Word → Option (List Char)
  | [] => some []
  | .literal s _ :: rest => (literal? rest).map (s ++ ·)
  | _ => none

def hasQuotes (w : Word) : Bool :=
  w.any fun p => match p with
    | .literal _ quoted => quoted
    | _ => false

/-- Whether a part is an unquoted character other than a slash. -/
def isNamePart : Part → Bool
  | .literal [c] false => c ≠ '/'
  | _ => false

/-- A word with a home directory in place of a tilde and the name behind it in front. -/
def withHome : Word → Word
  | .literal ['~'] false :: rest =>
    let name := rest.takeWhile isNamePart
    let behind := rest.drop name.length
    let ends := match behind with
      | [] | .literal ['/'] false :: _ => true
      | _ => false
    match ends, bare? name with
    | true, some user => .home (String.ofList user) :: behind
    | _, _ => .literal ['~'] false :: rest
  | w => w

def segments (w : Word) : List Word :=
  w.foldr (fun p found =>
    match p, found with
    | .literal [':'] false, found => [] :: found
    | p, first :: later => (p :: first) :: later
    | p, [] => [[p]]) [[]]

/-- A value with home directories in place of tildes in front and behind colons. -/
def withHomes (w : Word) : Word :=
  [Part.literal [':'] false].intercalate ((segments w).map withHome)

end Word

end AgentLaunch.Shell
