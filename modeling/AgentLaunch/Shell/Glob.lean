import AgentLaunch.FileTree

/-!
# Patterns of the shell

Patterns for texts and for the names of files. A character that is quoted stands for itself.
-/

namespace AgentLaunch.Shell.Glob

/-- A character, and whether it is quoted. -/
abbrev Marked := Char × Bool

inductive Atom where
  | character (c : Char)
  | anyCharacter
  | anyText
  | oneOf (negated : Bool) (ranges : List (Char × Char))

def namedClass (name : String) : List (Char × Char) :=
  match name with
  | "alpha" => [('a', 'z'), ('A', 'Z')]
  | "digit" => [('0', '9')]
  | "alnum" => [('a', 'z'), ('A', 'Z'), ('0', '9')]
  | "lower" => [('a', 'z')]
  | "upper" => [('A', 'Z')]
  | "xdigit" => [('a', 'f'), ('A', 'F'), ('0', '9')]
  | "space" => [(' ', ' '), ('\t', '\x0d')]
  | "blank" => [(' ', ' '), ('\t', '\t')]
  | "punct" => [('!', '/'), (':', '@'), ('[', '\x60'), ('\x7b', '~')]
  | "cntrl" => [('\x00', '\x1f'), ('\x7f', '\x7f')]
  | "print" => [(' ', '~')]
  | "graph" => [('!', '~')]
  | _ => []

/-- The ranges up to a closing bracket, which may come first as a character. -/
def ranges : Nat → Bool → List Marked → Option (List (Char × Char) × List Marked)
  | 0, _, _ | _, _, [] => none
  | n + 1, first, (c, quoted) :: rest =>
    if c = ']' ∧ ¬ quoted ∧ ¬ first then some ([], rest)
    else
      let name := rest.drop 1 |>.takeWhile (·.1 ≠ ':')
      if c = '[' ∧ ¬ quoted ∧ rest.head? = some (':', false) ∧
          (rest.drop (name.length + 1)).take 2 = [(':', false), (']', false)] then do
        let (more, rest) ← ranges n false (rest.drop (name.length + 3))
        return (namedClass (String.ofList (name.map (·.1))) ++ more, rest)
      else match rest with
        | ('-', false) :: (d, q) :: rest =>
          if d = ']' ∧ ¬ q then do
            let (more, rest) ← ranges n false (('-', true) :: (d, q) :: rest)
            return ((c, c) :: more, rest)
          else do
            let (more, rest) ← ranges n false rest
            return ((c, d) :: more, rest)
        | rest => do
          let (more, rest) ← ranges n false rest
          return ((c, c) :: more, rest)

/-- The parts of a pattern. A bracket without its counterpart stands for itself. -/
def atoms : Nat → List Marked → List Atom
  | 0, _ | _, [] => []
  | n + 1, (c, true) :: rest => .character c :: atoms n rest
  | n + 1, ('*', false) :: rest => .anyText :: atoms n rest
  | n + 1, ('?', false) :: rest => .anyCharacter :: atoms n rest
  | n + 1, ('\\', false) :: (c, _) :: rest => .character c :: atoms n rest
  | n + 1, ('[', false) :: rest =>
    let negated := rest.head? = some ('!', false) ∨ rest.head? = some ('^', false)
    match ranges rest.length true (if negated then rest.drop 1 else rest) with
    | some (rs, rest) => .oneOf negated rs :: atoms n rest
    | none => .character '[' :: atoms n rest
  | n + 1, (c, false) :: rest => .character c :: atoms n rest

def ends : List Char → List (List Char)
  | [] => [[]]
  | c :: rest => (c :: rest) :: ends rest

def matchesAtoms : List Atom → List Char → Bool
  | [], s => s.isEmpty
  | .anyText :: rest, s => (ends s).any (matchesAtoms rest)
  | _ :: _, [] => false
  | .character c :: rest, d :: s => c = d && matchesAtoms rest s
  | .anyCharacter :: rest, _ :: s => matchesAtoms rest s
  | .oneOf negated rs :: rest, d :: s =>
    (rs.any (fun r => r.1 ≤ d && d ≤ r.2) != negated) && matchesAtoms rest s

def fits (pattern : List Marked) (s : List Char) : Bool :=
  matchesAtoms (atoms pattern.length pattern) s

/-- A text without the shortest or the longest front that fits a pattern. -/
def dropFront (pattern : List Marked) (longest : Bool) (s : List Char) : List Char :=
  let lengths := List.range (s.length + 1)
  match (if longest then lengths.reverse else lengths).find? fun n => fits pattern (s.take n) with
  | some n => s.drop n
  | none => s

/-- A text without the shortest or the longest end that fits a pattern. -/
def dropEnd (pattern : List Marked) (longest : Bool) (s : List Char) : List Char :=
  let lengths := List.range (s.length + 1)
  match (if longest then lengths else lengths.reverse).find? fun n => fits pattern (s.drop n) with
  | some n => s.take n
  | none => s

/-- Whether a word asks for the names of files. -/
def isPattern (w : List Marked) : Bool :=
  w.any fun (c, quoted) => !quoted && (c = '*' || c = '?' || c = '[')

def words : List Marked → List (List Marked)
  | [] => [[]]
  | (c, quoted) :: rest =>
    if c = '/' then [] :: words rest
    else match words rest with
      | [] => [[(c, quoted)]]
      | first :: more => ((c, quoted) :: first) :: more

/-- The paths that fit the words of a pattern, each behind a path that is already found. -/
def pathsBehind (files : FileTree) (directory : String) : List String → List (List Marked) →
    List String
  | found, [] => found
  | found, w :: rest =>
    let literal := String.ofList (w.map (·.1))
    let next := found.flatMap fun path =>
      if isPattern w then
        match files.lookup directory (if path = "" then "." else path) with
        | .ok (place, .directory) =>
          (files.names place).filterMap fun name =>
            let hidden := name.startsWith "." && w.head?.map (·.1) ≠ some '.'
            if fits w name.toList && !hidden then some (path ++ name) else none
        | _ => []
      else [path ++ literal]
    pathsBehind files directory (if rest = [] then next else next.map (· ++ "/")) rest

/-- The paths that a pattern stands for, in order. -/
def paths (files : FileTree) (directory : String) (w : List Marked) : List String :=
  (pathsBehind files directory [""] (words w)).filter fun path =>
    (files.lookup directory path).isOk

end AgentLaunch.Shell.Glob
