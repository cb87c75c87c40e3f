import AgentLaunch.Shell.Word

/-!
# Shell tokens

The words and operators of shell scripts.
-/

namespace AgentLaunch.Shell

inductive Token where
  | word (w : Word)
  | operator (s : String)
  /-- The number in front of a redirection. -/
  | descriptor (n : Nat)
  /-- Lines of the script that are input of a command. -/
  | lines (w : Word)
  /-- What cannot be read, up to the end of the script. -/
  | broken

namespace Token

def isBlank (c : Char) : Bool :=
  c = ' ' || c = '\t'

def isMeta (c : Char) : Bool :=
  isBlank c || "\n;&|()<>".toList.contains c

def isNameStart (c : Char) : Bool :=
  c.isAlpha || c = '_'

def isNameChar (c : Char) : Bool :=
  c.isAlphanum || c = '_'

def isName : List Char → Bool
  | c :: rest => isNameStart c && rest.all isNameChar
  | [] => false

/-- The parameters whose names are single characters. -/
def isSpecial (c : Char) : Bool :=
  c.isDigit || "#@*?$!-".toList.contains c

def operators : List String :=
  ["&&", "||", ";;", ">>", ">|", ">&", "<>", "<&", "<", ">", ";", "&", "|", "(", ")", "\n"]

def operator? (s : List Char) : Option (String × List Char) :=
  (operators.find? fun o => o.toList.isPrefixOf s).map fun o => (o, s.drop o.length)

/-- The text up to the parenthesis that closes one already open. Parentheses in quotes do not
count. -/
def closing (depth : Nat) (quote : Option Char) : List Char → Option (List Char × List Char)
  | [] => none
  | '\\' :: c :: rest =>
    if quote = some '\'' then (closing depth quote (c :: rest)).map fun (a, b) => ('\\' :: a, b)
    else (closing depth quote rest).map fun (a, b) => ('\\' :: c :: a, b)
  | c :: rest =>
    match quote with
    | some q =>
      (closing depth (if c = q then none else quote) rest).map fun (a, b) => (c :: a, b)
    | none =>
      if c = ')' ∧ depth = 0 then some ([], rest)
      else
        let depth := if c = '(' then depth + 1 else if c = ')' then depth - 1 else depth
        let quote := if c = '\'' ∨ c = '"' then some c else none
        (closing depth quote rest).map fun (a, b) => (c :: a, b)

/-- The script up to a closing backquote. A backslash is taken away before what is special. -/
def backquoted (quoted : Bool) : List Char → Option (List Char × List Char)
  | [] => none
  | '\x60' :: rest => some ([], rest)
  | '\\' :: c :: rest =>
    let front := if c = '$' ∨ c = '\x60' ∨ c = '\\' ∨ (quoted ∧ c = '"') then [c] else ['\\', c]
    (backquoted quoted rest).map fun (a, b) => (front ++ a, b)
  | c :: rest => (backquoted quoted rest).map fun (a, b) => (c :: a, b)

inductive Stop where
  /-- Before a character that ends words, or at the end of the text. -/
  | word
  | quote
  | brace
  | parentheses (depth : Nat)
  | text
  deriving DecidableEq

namespace Stop

/-- The rest of a text that a sequence of parts ends in front of. -/
def reached? (stop : Stop) : List Char → Option (List Char)
  | [] => if stop = .word ∨ stop = .text then some [] else none
  | c :: rest =>
    match stop with
    | .word => if isMeta c then some (c :: rest) else none
    | .quote => if c = '"' then some rest else none
    | .brace => if c = '\x7d' then some rest else none
    | .parentheses 0 => if c = ')' ∧ rest.head? = some ')' then some (rest.drop 1) else none
    | _ => none

/-- What remains to be closed behind a character. -/
def after (stop : Stop) (c : Char) : Stop :=
  match stop with
  | .parentheses n =>
    if c = '(' then .parentheses (n + 1) else if c = ')' then .parentheses (n - 1) else stop
  | _ => stop

/-- Whether a backslash between quotes takes the meaning from a character. -/
def escapes (stop : Stop) (c : Char) : Bool :=
  c = '$' || c = '\x60' || c = '\\' || (c = '"' && stop ≠ .text) || (c = '\x7d' && stop = .brace)

end Stop

/-- The name of a parameter in front of a text. -/
def parameterName (s : List Char) : List Char × List Char :=
  match s with
  | c :: rest =>
    if c.isDigit then s.span Char.isDigit
    else if isNameStart c then s.span isNameChar
    else if isSpecial c then ([c], rest)
    else ([], s)
  | [] => ([], [])

/-- The change that is asked for behind the name of a parameter. -/
def change? : List Char → Option (Change × Bool × List Char)
  | ':' :: '-' :: rest => some (.orElse, true, rest)
  | ':' :: '=' :: rest => some (.orAssign, true, rest)
  | ':' :: '?' :: rest => some (.orFail, true, rest)
  | ':' :: '+' :: rest => some (.instead, true, rest)
  | '-' :: rest => some (.orElse, false, rest)
  | '=' :: rest => some (.orAssign, false, rest)
  | '?' :: rest => some (.orFail, false, rest)
  | '+' :: rest => some (.instead, false, rest)
  | '#' :: '#' :: rest => some (.dropFront true, false, rest)
  | '#' :: rest => some (.dropFront false, false, rest)
  | '%' :: '%' :: rest => some (.dropEnd true, false, rest)
  | '%' :: rest => some (.dropEnd false, false, rest)
  | _ => none

/-- Whether a change comes with a pattern, in which quotes have their own meaning. -/
def hasPattern : Change → Bool
  | .dropFront _ | .dropEnd _ => true
  | _ => false

mutual

/-- Parts up to where they end. The number bounds how many parts there are and how deep they are
nested, for which the length of the text is enough. -/
def parts (stop : Stop) (quoted : Bool) : Nat → List Char → Option (Word × List Char)
  | 0, _ => none
  | n + 1, s =>
    match stop.reached? s with
    | some rest => some ([], rest)
    | none =>
      match s with
      | [] => none
      | '\\' :: '\n' :: rest => parts stop quoted n rest
      | '\\' :: c :: rest => do
        let (front, rest) : List Char × List Char :=
          if quoted && !stop.escapes c then (['\\'], c :: rest) else ([c], rest)
        let (ps, rest) ← parts stop quoted n rest
        return (.literal front true :: ps, rest)
      | '$' :: rest => do
        let (p, rest) ← dollar quoted n rest
        let (ps, rest) ← parts stop quoted n rest
        return (p :: ps, rest)
      | '\x60' :: rest => do
        let (script, rest) ← backquoted quoted rest
        let (ps, rest) ← parts stop quoted n rest
        return (.substitution script quoted :: ps, rest)
      | '"' :: rest => do
        if stop = .text then
          let (ps, rest) ← parts stop quoted n rest
          return (.literal ['"'] true :: ps, rest)
        else
          let (inside, rest) ← parts .quote true n rest
          let (ps, rest) ← parts stop quoted n rest
          return ((if inside.isEmpty then [.literal [] true] else inside) ++ ps, rest)
      | '\'' :: rest => do
        let inside := rest.takeWhile (· ≠ '\'')
        if quoted then
          let (ps, rest) ← parts stop quoted n rest
          return (.literal ['\''] true :: ps, rest)
        else if inside.length = rest.length then none
        else
          let (ps, rest) ← parts stop quoted n (rest.drop (inside.length + 1))
          return (.literal inside true :: ps, rest)
      | c :: rest => do
        let (ps, rest) ← parts (stop.after c) quoted n rest
        return (.literal [c] quoted :: ps, rest)

/-- What follows a dollar sign. A dollar sign alone stands for itself. -/
def dollar (quoted : Bool) : Nat → List Char → Option (Part × List Char)
  | 0, _ => none
  | n + 1, '(' :: '(' :: rest =>
    match parts (.parentheses 0) true n rest with
    | some (w, rest) => some (.arithmetic w quoted, rest)
    | none => (closing 1 none rest).map fun (a, b) => (.substitution ('(' :: a) quoted, b)
  | _ + 1, '(' :: rest => (closing 0 none rest).map fun (a, b) => (.substitution a quoted, b)
  | _ + 1, '\x7b' :: '#' :: '\x7d' :: rest => some (.parameter "#" quoted, rest)
  | n + 1, '\x7b' :: rest =>
    let measured : Option (Part × List Char) :=
      match rest with
      | '#' :: s =>
        match parameterName s with
        | (c :: name, '\x7d' :: rest) =>
          some (.length (String.ofList (c :: name)) quoted, rest)
        | _ => none
      | _ => none
    match measured, parameterName rest with
    | some found, _ => some found
    | none, ([], _) => (parts .brace quoted n rest).map fun (_, rest) => (.invalid, rest)
    | none, (name, '\x7d' :: rest) => some (.parameter (String.ofList name) quoted, rest)
    | none, (name, rest) =>
      match change? rest with
      | some (change, evenIfEmpty, rest) =>
        (parts .brace (quoted && !hasPattern change) n rest).map fun (w, rest) =>
          (.changed (String.ofList name) change evenIfEmpty (Word.withHome w) quoted, rest)
      | none => (parts .brace quoted n rest).map fun (_, rest) => (.invalid, rest)
  | _ + 1, s =>
    match s with
    | c :: rest =>
      if isNameStart c then
        let (name, rest) := s.span isNameChar
        some (.parameter (String.ofList name) quoted, rest)
      else if isSpecial c then some (.parameter (String.singleton c) quoted, rest)
      else some (.literal ['$'] quoted, s)
    | [] => some (.literal ['$'] quoted, [])

end

/-- How many parts a text can have at most, and how deep they can be nested. -/
def bound (s : List Char) : Nat :=
  2 * s.length + 4

/-- A text with expansions in it, as between double quotes. -/
def quotedText? (s : List Char) : Option Word :=
  (parts .text true (bound s) s).map (·.1)

def word? (s : List Char) : Option (Word × List Char) :=
  parts .word false (bound s) s

/-- A word as a token; a number right before a redirection is a descriptor. -/
def ofWord (w : Word) (rest : List Char) : Token :=
  match w.bare?, rest with
  | some digits, c :: _ =>
    if digits ≠ [] ∧ digits.all Char.isDigit ∧ (c = '<' ∨ c = '>') then
      .descriptor (digits.foldl (fun n c => n * 10 + (c.toNat - 48)) 0)
    else .word w
  | _, _ => .word w

/-- The lines up to one that consists of a mark, and the text after it. -/
def linesUpTo (mark : List Char) (dropTabs : Bool) : Nat → List Char → List Char × List Char
  | 0, s => ([], s)
  | _, [] => ([], [])
  | n + 1, s =>
    let line := s.takeWhile (· ≠ '\n')
    let rest := s.drop (line.length + 1)
    let line := if dropTabs then line.dropWhile (· = '\t') else line
    if line = mark then ([], rest)
    else
      let (more, rest) := linesUpTo mark dropTabs n rest
      (line ++ '\n' :: more, rest)

/-- What follows the operator for lines of input: the lines as a word, and the text without them.
If the mark that ends them is quoted, nothing is expanded in them. -/
def lines? (dropTabs : Bool) (s : List Char) : Option (Word × List Char) := do
  let (markWord, rest) ← word? (s.dropWhile isBlank)
  let mark ← markWord.literal?
  let line := rest.takeWhile (· ≠ '\n')
  let (body, after) := linesUpTo mark dropTabs s.length (rest.drop (line.length + 1))
  let w ← if markWord.hasQuotes then some [.literal body true] else quotedText? body
  return (w, line ++ '\n' :: after)

/-- The token in front of a text, if there is one, and the rest. -/
def token? (s : List Char) : Option (Option Token × List Char) :=
  match s with
  | '\\' :: '\n' :: rest => some (none, rest)
  | '#' :: rest => some (none, rest.dropWhile (· ≠ '\n'))
  | '<' :: '<' :: '-' :: rest => (lines? true rest).map fun (w, rest) => (some (.lines w), rest)
  | '<' :: '<' :: rest => (lines? false rest).map fun (w, rest) => (some (.lines w), rest)
  | [] => none
  | c :: rest =>
    if isBlank c then some (none, rest)
    else match operator? s with
      | some (o, rest) => some (some (.operator o), rest)
      | none => (word? s).map fun (w, rest) => (some (ofWord w rest), rest)

/-- The tokens of a text. Each takes at least one character. -/
def scanUpTo : Nat → List Char → List Token
  | 0, _ | _, [] => []
  | n + 1, s =>
    match token? s with
    | none => [.broken]
    | some (none, rest) => scanUpTo n rest
    | some (some t, rest) => t :: scanUpTo n rest

def scan (s : List Char) : List Token :=
  scanUpTo s.length s

end Token

end AgentLaunch.Shell
