import AgentLaunch.Text.Alphanumeric
import AgentLaunch.Text.Pattern.Atom

/-!
# Patterns

Which texts are regular expressions. A pattern is read from left to right with a stack of what is
open in it. Of what is complete only the nesting depth is kept. A repetition with counts between
braces is not known here.
-/

namespace AgentLaunch.Text.Pattern

/-- How deep the parts of a pattern may nest. -/
def maxDepth : Nat := 250

structure Part where
  depth : Nat
  /-- Whether it can be repeated. Only flags cannot. -/
  isRepeatable : Bool
  deriving DecidableEq, Repr

/-- The depth of things side by side, which make a level if they are several. -/
def depthTogether : List Nat → Nat
  | [] => 0
  | [n] => n
  | ns => ns.foldl max 0 + 1

/-- An open group, or the whole pattern. What is complete stands in reverse order. -/
structure Group where
  flags : Flags
  alternatives : List Nat
  parts : List Part
  deriving DecidableEq, Repr

namespace Group

def empty (flags : Flags) : Group := ⟨flags, [], []⟩

def add (g : Group) (depth : Nat) : Group :=
  { g with parts := ⟨depth, true⟩ :: g.parts }

def lastDepth (g : Group) : Nat :=
  depthTogether (g.parts.map Part.depth)

def alternate (g : Group) : Group :=
  { g with alternatives := g.lastDepth :: g.alternatives, parts := [] }

def depth (g : Group) : Nat :=
  depthTogether (g.lastDepth :: g.alternatives)

def repeatLast (g : Group) : Option Group :=
  match g.parts with
  | ⟨depth, true⟩ :: rest => some { g with parts := ⟨depth + 1, true⟩ :: rest }
  | _ => none

end Group

structure Bracket where
  /-- The depth of what stands before the last operator, if there is one. -/
  left : Option Nat
  items : List Nat
  deriving DecidableEq, Repr

namespace Bracket

def add (b : Bracket) (depth : Nat) : Bracket :=
  { b with items := depth :: b.items }

def contentDepth (b : Bracket) : Nat :=
  let last := depthTogether b.items
  match b.left with
  | none => last
  | some n => max n last + 1

def operate (b : Bracket) : Bracket := ⟨some b.contentDepth, []⟩

end Bracket

/-- What is open in a pattern, the innermost first. Brackets are inside of groups. -/
structure Stack where
  brackets : List Bracket
  group : Group
  outer : List Group
  /-- The names of groups. No two groups have one name. -/
  names : List String
  deriving DecidableEq, Repr

/-! ### Brackets -/

def classNames : List String :=
  ["alnum", "alpha", "ascii", "blank", "cntrl", "digit", "graph", "lower", "print", "punct",
    "space", "upper", "word", "xdigit"]

/-- Whether a class that is not empty may stand there, or all but it. -/
private def allowsClass (flags : Flags) (negated : Bool) : Bool :=
  if flags.unicode then !flags.caseless else !negated

/-- A class with a name, behind its first bracket: whether it is negated, and the rest. -/
private def namedClass? : List Char → Option (Bool × List Char)
  | ':' :: rest =>
    let negated := rest.head? = some '^'
    let rest := if negated then rest.drop 1 else rest
    let name := rest.takeWhile (· ≠ ':')
    match rest.dropWhile (· ≠ ':') with
    | ':' :: ']' :: after =>
      if classNames.contains (String.ofList name) then some (negated, after) else none
    | _ => none
  | _ => none

/-- How many hyphens are in front, and the rest; what does not count between them is skipped. -/
private def hyphens (flags : Flags) : Nat → List Char → Nat × List Char
  | n + 1, '-' :: rest =>
    let (count, rest) := hyphens flags n (skip flags rest)
    (count + 1, rest)
  | _, s => (0, s)

/-- Opens a class behind its first bracket. Hyphens and a closing bracket that come first are
items. -/
private def openBracket? (flags : Flags) (s : List Char) : Option (Bracket × List Char) := do
  let s := skip flags s
  let negated := s.head? = some '^'
  let s := if negated then skip flags (s.drop 1) else s
  let (count, s) := hyphens flags s.length s
  let (count, s) := match count, s with
    | 0, ']' :: rest => (1, skip flags rest)
    | count, s => (count, s)
  let fits := (flags.unicode || !negated) && (count = 0 || allowsClass flags false)
  if s ≠ [] ∧ fits then return (⟨none, List.replicate count 0⟩, s) else none

/-- The character that is next but one, past what does not count. Of a comment only the mark is
passed over. -/
private def peekSecond (flags : Flags) : List Char → Option Char
  | [] => none
  | _ :: rest =>
    if flags.spaced then
      match rest.dropWhile isWhiteSpace with
      | '#' :: rest => (rest.dropWhile isWhiteSpace).head?
      | rest => rest.head?
    else rest.head?

private def bracketItem? (flags : Flags) (s : List Char) : Option (List Char) := do
  let (first, rest) ← bracketAtom? flags s
  if !first.isAllowedInBrackets flags then none
  let rest := skip flags rest
  if rest.head? = some '-' ∧ peekSecond flags rest ≠ some ']' ∧
      peekSecond flags rest ≠ some '-' then
    let (last, rest) ← bracketAtom? flags (skip flags (rest.drop 1))
    match first, last with
    | .character a _, .character b _ =>
      if last.isAllowedInBrackets flags && a ≤ b then return rest else none
    | _, _ => none
  else return rest

private def bracketStep? (st : Stack) (b : Bracket) (outer : List Bracket) (s : List Char) :
    Option (Stack × List Char) :=
  let flags := st.group.flags
  match s with
  | '[' :: rest =>
    match namedClass? rest with
    | some (negated, rest) =>
      if allowsClass flags negated then some ({ st with brackets := b.add 0 :: outer }, rest)
      else none
    | none => (openBracket? flags rest).map fun (inner, rest) =>
        ({ st with brackets := inner :: b :: outer }, rest)
  | ']' :: rest =>
    let depth := b.contentDepth + 1
    match outer with
    | [] => some ({ st with brackets := [], group := st.group.add depth }, rest)
    | next :: outer => some ({ st with brackets := next.add depth :: outer }, rest)
  | '&' :: '&' :: rest | '-' :: '-' :: rest | '~' :: '~' :: rest =>
    some ({ st with brackets := b.operate :: outer }, rest)
  | s => (bracketItem? flags s).map fun rest => ({ st with brackets := b.add 0 :: outer }, rest)

/-! ### Groups -/

private def flagLetters : List Char := ['i', 'm', 's', 'U', 'u', 'R', 'x']

/-- Switches a flag; most have no effect on what may stand in a pattern. -/
private def Flags.switch (flags : Flags) (value : Bool) : Char → Flags
  | 'i' => { flags with caseless := value }
  | 'u' => { flags with unicode := value }
  | 'x' => { flags with spaced := value }
  | _ => flags

/-- Reads flags: letters to be switched on, and behind a hyphen those to be switched off. None is
given twice. -/
private def flags? (flags : Flags) (letters : List Char) : Option Flags :=
  let on := letters.takeWhile (· ≠ '-')
  let off := letters.dropWhile (· ≠ '-')
  let all := on ++ off.drop 1
  if off = ['-'] ∨ ¬ all.all flagLetters.contains ∨ ¬ all.Nodup then none
  else some ((off.drop 1).foldl (·.switch false ·) (on.foldl (·.switch true ·) flags))

/-- The name of a group in front of its closing mark. -/
private def groupName? (s : List Char) : Option (String × List Char) :=
  let name := s.takeWhile (· ≠ '>')
  let begins (c : Char) := c = '_' || isAlphabetic c
  let continues (c : Char) := c = '_' || c = '.' || c = '[' || c = ']' || isAlphanumeric c
  match name, s.dropWhile (· ≠ '>') with
  | c :: more, _ :: rest =>
    if begins c && more.all continues then some (String.ofList name, rest) else none
  | _, _ => none

private def Stack.openGroup (st : Stack) (flags : Flags) : Stack :=
  { st with group := .empty flags, outer := st.group :: st.outer }

private def openNamed? (st : Stack) (s : List Char) : Option (Stack × List Char) := do
  let (name, rest) ← groupName? s
  if st.names.contains name then none
  return ({ st.openGroup st.group.flags with names := name :: st.names }, rest)

private def openGroup? (st : Stack) (s : List Char) : Option (Stack × List Char) :=
  match skip st.group.flags s with
  | '?' :: 'P' :: '<' :: rest | '?' :: '<' :: rest => openNamed? st rest
  | '?' :: rest =>
    let letters := rest.takeWhile fun c => c ≠ ':' && c ≠ ')'
    match flags? st.group.flags letters, rest.dropWhile fun c => c ≠ ':' && c ≠ ')' with
    | some flags, ':' :: rest => some (st.openGroup flags, rest)
    | some flags, ')' :: rest =>
      if letters = [] then none
      else
        let group := { st.group with flags := flags, parts := ⟨0, false⟩ :: st.group.parts }
        some ({ st with group := group }, rest)
    | _, _ => none
  | rest => some (st.openGroup st.group.flags, rest)

private def closeGroup? (st : Stack) : Option Stack :=
  match st.outer with
  | [] => none
  | g :: outer => some { st with group := g.add (st.group.depth + 1), outer := outer }

/-! ### The whole pattern -/

private def groupStep? (st : Stack) (s : List Char) : Option (Stack × List Char) :=
  match s with
  | '(' :: rest => openGroup? st rest
  | ')' :: rest => (closeGroup? st).map fun st => (st, rest)
  | '|' :: rest => some ({ st with group := st.group.alternate }, rest)
  | '[' :: rest => (openBracket? st.group.flags rest).map fun (b, rest) =>
      ({ st with brackets := [b] }, rest)
  | '*' :: '?' :: rest | '+' :: '?' :: rest | '?' :: '?' :: rest
  | '*' :: rest | '+' :: rest | '?' :: rest =>
    st.group.repeatLast.map fun g => ({ st with group := g }, rest)
  | '\x7b' :: _ => none
  | s => do
    let (atom, rest) ← atom? st.group.flags s
    if atom.isAllowed st.group.flags then return ({ st with group := st.group.add 0 }, rest)
    else none

/-- One step. It takes at least one character. -/
private def step? (st : Stack) (s : List Char) : Option (Stack × List Char) :=
  match st.brackets with
  | [] => groupStep? st s
  | b :: outer => bracketStep? st b outer s

private def readUpTo : Nat → Stack → List Char → Option Stack
  | 0, _, _ => none
  | n + 1, st, s =>
    match skip st.group.flags s with
    | [] => some st
    | s => do
      let (st, rest) ← step? st s
      readUpTo n st rest

/-- Whether a text is a regular expression. -/
def isPattern (s : List Char) : Bool :=
  match readUpTo (s.length + 1) ⟨[], .empty .standard, [], []⟩ s with
  | some ⟨[], group, [], _⟩ => group.depth ≤ maxDepth
  | _ => false

end AgentLaunch.Text.Pattern
