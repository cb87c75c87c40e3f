import AgentLaunch.Shell.Glob

/-!
# Regular expressions

The expressions that lines are searched with, in the plain and in the extended form. Of all places
where an expression fits, the first one counts, and there the longest text.
-/

namespace AgentLaunch.Shell

inductive Edge where
  | lineStart
  | lineEnd
  | textStart
  | textEnd
  | wordStart
  | wordEnd
  | word
  | noWord
  deriving DecidableEq

inductive Regex where
  | any
  | oneOf (negated : Bool) (ranges : List (Char × Char))
  | edge (e : Edge)
  | group (number : Nat) (r : Regex)
  /-- The text that such a part has fitted. -/
  | again (number : Nat)
  | sequence (parts : List Regex)
  | alternatives (branches : List Regex)
  /-- At least so often, and at most so often if there is a bound. -/
  | repeated (r : Regex) (least : Nat) (most : Option Nat)

namespace Regex

/-- The forms of expressions: in the extended one, operators go without a backslash. A backslash in
brackets stands for itself, or with escapes for what it says. -/
structure Form where
  extended : Bool
  escapes : Bool

def Form.plain : Form := ⟨false, false⟩

def Form.wide : Form := ⟨true, false⟩

def ofChar (c : Char) : Regex :=
  .oneOf false [(c, c)]

def isWordChar (c : Char) : Bool :=
  c.isAlphanum || c = '_'

def wordRanges : List (Char × Char) :=
  [('0', '9'), ('A', 'Z'), ('_', '_'), ('a', 'z')]

/-- Whether a character has a meaning of its own, which a backslash takes away or, in the plain
form, gives it. -/
def isSwitched (c : Char) : Bool :=
  "+?|()\x7b\x7d".toList.contains c

inductive Token where
  | literal (c : Char)
  | operator (c : Char)
  /-- A character with a meaning behind a backslash. -/
  | escaped (c : Char)

/-- The next token, if there is one. No expression ends in a single backslash. -/
def next? (form : Form) : List Char → Option (Token × List Char)
  | [] => none
  | ['\\'] => none
  | '\\' :: c :: rest =>
    if isSwitched c then some (if form.extended then .literal c else .operator c, rest)
    else if "wWsSbB<>\x60'123456789".toList.contains c then some (.escaped c, rest)
    else some (.literal c, rest)
  | c :: rest =>
    some (if ".[*^$".toList.contains c || (isSwitched c && form.extended) then .operator c
      else .literal c, rest)

def maxBound : Nat := 32767

/-- The bounds of a repetition, behind the opening brace: nothing if there is no closing one, and a
mistake if they are not in order. -/
def bounds (form : Form) (s : List Char) : Option (Option (Nat × Option Nat × List Char)) :=
  let number (t : List Char) : Option Nat :=
    if t.all Char.isDigit then (String.ofList t).toNat? else none
  let inside := s.takeWhile fun c => c.isDigit || c = ','
  let rest := s.drop inside.length
  let rest? := match form.extended, rest with
    | true, '\x7d' :: rest => some rest
    | false, '\\' :: '\x7d' :: rest => some rest
    | _, _ => none
  let front := inside.takeWhile (· ≠ ',')
  match rest?, inside, inside.drop front.length with
  | none, _, _ | _, [], _ => if form.extended then some none else none
  | some rest, _, back =>
    let least := (number front).getD 0
    let found? : Option (Nat × Option Nat) := match back with
      | [] => (number front).map fun n => (n, some n)
      | [_] => some (least, none)
      | _ :: back => (number back).map fun n => (least, some n)
    match found? with
    | none => none
    | some (least, most) =>
      if least > maxBound ∨ most.any fun n => n < least ∨ n > maxBound then none
      else some (some (least, most, rest))

def classNames : List String :=
  ["alpha", "digit", "alnum", "lower", "upper", "xdigit", "space", "blank", "punct", "cntrl",
    "print", "graph"]

/-- The ranges up to a closing bracket, which may come first as a character. -/
def ranges (form : Form) : Nat → Bool → List Char → Option (List (Char × Char) × List Char)
  | 0, _, _ | _, _, [] => none
  | n + 1, first, c :: rest =>
    if c = ']' ∧ !first then some ([], rest)
    else
      let kind := rest.head?.getD ' '
      let name := (rest.drop 1).takeWhile (· ≠ kind)
      let behind := rest.drop (name.length + 1)
      if c = '[' ∧ kind = ':' ∧ behind.take 2 = [':', ']'] then
        if classNames.contains (String.ofList name) then do
          let (more, rest) ← ranges form n false (behind.drop 2)
          return (Glob.namedClass (String.ofList name) ++ more, rest)
        else none
      else
        let (low, rest) :=
          if c = '[' ∧ (kind = '=' ∨ kind = '.') ∧ behind.take 2 = [kind, ']'] then
            (name.headD ' ', behind.drop 2)
          else match form.escapes, c, rest with
            | true, '\\', d :: rest => (d, rest)
            | _, _, _ => (c, rest)
        match rest with
        | '-' :: high :: rest =>
          if high = ']' then do
            let (more, rest) ← ranges form n false (high :: rest)
            return ((low, low) :: ('-', '-') :: more, rest)
          else
            let (high, rest) := match form.escapes, high, rest with
              | true, '\\', d :: rest => (d, rest)
              | _, _, _ => (high, rest)
            if high < low then none
            else do
              let (more, rest) ← ranges form n false rest
              return ((low, high) :: more, rest)
        | rest => do
          let (more, rest) ← ranges form n false rest
          return ((low, low) :: more, rest)

/-- How many characters an expression in brackets has behind the opening one. -/
def bracketLength (t : List Char) : Nat :=
  let front := match t with
    | '^' :: ']' :: _ => 2
    | '^' :: _ | ']' :: _ => 1
    | _ => 0
  front + inside (t.length + 1) (t.drop front)
where
  inside : Nat → List Char → Nat
    | 0, _ | _, [] => 0
    | n + 1, '[' :: ':' :: rest =>
      let name := rest.takeWhile (· ≠ ']')
      name.length + 3 + inside n (rest.drop (name.length + 1))
    | n + 1, c :: rest => if c = ']' then 1 else 1 + inside n rest

/-- What a character behind a backslash stands for. -/
def ofEscape (c : Char) : Regex :=
  let blanks := Glob.namedClass "space"
  match c with
  | 'w' => .oneOf false wordRanges
  | 'W' => .oneOf true wordRanges
  | 's' => .oneOf false blanks
  | 'S' => .oneOf true blanks
  | 'b' => .edge .word
  | 'B' => .edge .noWord
  | '<' => .edge .wordStart
  | '>' => .edge .wordEnd
  | '\x60' => .edge .textStart
  | '\'' => .edge .textEnd
  | c => .again (c.toNat - 48)

/-- What is read of an expression: the part, how many groups were opened, and the rest. -/
abbrev Found (α : Type) := α × Nat × List Char

mutual

/-- Branches up to a closing parenthesis or the end. The first number bounds how often the functions
call each other, for which a multiple of the length of the text is enough; the second one counts the
groups. -/
def branches (form : Form) : Nat → Nat → List Char → Option (Found (List Regex))
  | 0, _, _ => none
  | n + 1, k, s => do
    let (first, k, rest) ← pieces form n k true s
    match next? form rest with
    | some (.operator '|', rest) =>
      let (more, k, rest) ← branches form n k rest
      return (.sequence first :: more, k, rest)
    | _ => return ([.sequence first], k, rest)

/-- The pieces of a branch. In the plain form, what asks for a repetition stands for itself in
front. -/
def pieces (form : Form) : Nat → Nat → Bool → List Char → Option (Found (List Regex))
  | 0, _, _, _ => none
  | n + 1, k, first, s =>
    match next? form s with
    | none => if s = [] then some ([], k, []) else none
    | some (token, rest) =>
      match token with
      | .operator '|' | .operator ')' => some ([], k, s)
      | token => do
        let (piece, k, rest) ← atom form n k first rest token
        let isEdge := match piece with
          | .edge .lineStart => !form.extended
          | _ => false
        let (piece, rest) ← if isEdge then some (piece, rest) else repetitions form n piece rest
        let (more, k, rest) ← pieces form n k isEdge rest
        return (piece :: more, k, rest)

def atom (form : Form) : Nat → Nat → Bool → List Char → Token → Option (Found Regex)
  | 0, _, _, _, _ => none
  | n + 1, k, first, rest, token =>
    match token with
    | .literal c => some (ofChar c, k, rest)
    | .escaped c =>
      if c.isDigit ∧ k < c.toNat - 48 then none else some (ofEscape c, k, rest)
    | .operator '.' => some (.any, k, rest)
    | .operator '^' =>
      some (if first || form.extended then .edge .lineStart else ofChar '^', k, rest)
    | .operator '$' =>
      let last := match next? form rest with
        | none => rest = []
        | some (.operator d, _) => d = '|' || d = ')'
        | _ => false
      some (if last || form.extended then .edge .lineEnd else ofChar '$', k, rest)
    | .operator '[' => do
      let negated := rest.head? = some '^'
      let inside := if negated then rest.drop 1 else rest
      let (rs, rest) ← ranges form inside.length true inside
      return (.oneOf negated rs, k, rest)
    | .operator '(' => do
      let (bs, k', rest) ← branches form n (k + 1) rest
      match next? form rest with
      | some (.operator ')', rest) => return (.group (k + 1) (.alternatives bs), k', rest)
      | _ => none
    | .operator '\x7b' =>
      if form.extended then some (ofChar '\x7b', k, rest) else none
    | .operator c =>
      if form.extended ∧ first ∧ "*+?".toList.contains c then some (.sequence [], k, rest)
      else some (ofChar c, k, rest)

def repetitions (form : Form) : Nat → Regex → List Char → Option (Regex × List Char)
  | 0, r, s => some (r, s)
  | n + 1, r, s =>
    match next? form s with
    | some (.operator '*', rest) => repetitions form n (.repeated r 0 none) rest
    | some (.operator '+', rest) => repetitions form n (.repeated r 1 none) rest
    | some (.operator '?', rest) => repetitions form n (.repeated r 0 (some 1)) rest
    | some (.operator '\x7b', rest) => do
      match ← bounds form rest with
      | some (least, most, rest) => repetitions form n (.repeated r least most) rest
      | none => return (r, s)
    | _ => some (r, s)

end

def read? (form : Form) (s : List Char) : Option Regex :=
  match branches form (4 * s.length + 8) 0 s with
  | some (bs, _, []) => some (.alternatives bs)
  | _ => none

/-- Whether an expression has parts whose text is kept. -/
def hasGroup (form : Form) (s : List Char) : Bool :=
  match branches form (4 * s.length + 8) 0 s with
  | some (_, k, []) => k > 0
  | _ => false

/-- A place in a text: what is in front of it, from the end; what is behind it; and the texts of the
groups. -/
structure Spot where
  before : List Char
  rest : List Char
  groups : List (Nat × List Char)

/-- Whether a place is of a kind. -/
def Spot.isAt (p : Spot) (e : Edge) : Bool :=
  let wordBefore := p.before.head?.any isWordChar
  let wordBehind := p.rest.head?.any isWordChar
  match e with
  | .lineStart => p.before = [] || p.before.head? = some '\n'
  | .lineEnd => p.rest = [] || p.rest.head? = some '\n'
  | .textStart => p.before = []
  | .textEnd => p.rest = []
  | .wordStart => !wordBefore && wordBehind
  | .wordEnd => wordBefore && !wordBehind
  | .word => wordBefore != wordBehind
  | .noWord => wordBefore = wordBehind

def Spot.step (p : Spot) : Spot :=
  { p with before := p.rest.take 1 ++ p.before, rest := p.rest.drop 1 }

def Spot.group (p : Spot) (number : Nat) : List Char :=
  ((p.groups.find? fun g => g.1 = number).map (·.2)).getD []

/-- Whether two characters are the same, or differ only in their case if that does not count. -/
def same (fold : Bool) (a b : Char) : Bool :=
  a = b || (fold && a.toLower = b.toLower)

/-- Fits an expression to the text at a place so that something can follow. The number bounds how
often the function calls itself. -/
def run {α : Type} (fold : Bool) : Nat → Regex → Spot → (Spot → Option α) → Option α
  | 0, _, _, _ => none
  | n + 1, r, p, goOn =>
    match r with
    | .any => if p.rest = [] then none else goOn p.step
    | .oneOf negated ranges =>
      match p.rest with
      | c :: _ =>
        let isIn (d : Char) : Bool := ranges.any fun r => r.1 ≤ d && d ≤ r.2
        let found := isIn c || (fold && (isIn c.toLower || isIn c.toUpper))
        if found != negated then goOn p.step else none
      | [] => none
    | .edge e => if p.isAt e then goOn p else none
    | .group k r =>
      run fold n r p fun q =>
        let t := p.rest.take (p.rest.length - q.rest.length)
        goOn { q with groups := (k, t) :: q.groups.filter fun g => g.1 ≠ k }
    | .again k =>
      if (p.groups.find? fun g => g.1 = k).isNone then none
      else
        let t := p.group k
        let there := p.rest.take t.length
        if there.length = t.length && (there.zip t).all fun (a, b) => same fold a b then
          goOn { p with before := there.reverse ++ p.before, rest := p.rest.drop t.length }
        else none
    | .sequence [] => goOn p
    | .sequence (r :: rest) => run fold n r p fun q => run fold n (.sequence rest) q goOn
    | .alternatives branches => branches.findSome? fun r => run fold n r p goOn
    | .repeated r least most =>
      let once : Option α :=
        if most = some 0 then none
        else run fold n r p fun q =>
          if q.rest.length < p.rest.length || least > 0 then
            run fold n (.repeated r (least - 1) (most.map (· - 1))) q goOn
          else none
      match once with
      | some found => some found
      | none => if least = 0 then goOn p else none

/-- A bound that is enough for texts of a length. -/
def enough (p : Spot) : Nat :=
  1000 + 10 * p.rest.length

/-- The longest text at a place that an expression fits: the place behind it. -/
def longest? (fold : Bool) (r : Regex) (p : Spot) : Option Spot :=
  let ends (k : Nat) : Option Spot :=
    run fold (enough p) r p fun q => if q.rest.length = k then some q else none
  match run fold (enough p) r p some with
  | none => none
  | some found => ((List.range found.rest.length).findSome? ends) <|> some found

/-- Where an expression fits first in a text, and the place behind. The number bounds how many
places are looked at. -/
def search? (fold : Bool) (r : Regex) : Nat → Spot → Option (Spot × Spot)
  | 0, _ => none
  | n + 1, p =>
    match longest? fold r p with
    | some q => some (p, q)
    | none => if p.rest = [] then none else search? fold r n p.step

/-- The first place in a text that an expression fits. -/
def find? (fold : Bool) (r : Regex) (t : List Char) : Option (Spot × Spot) :=
  search? fold r (t.length + 1) ⟨[], t, []⟩

/-- Whether an expression fits somewhere in a line, or the whole of it, or a word of it. -/
def isIn (fold whole word : Bool) (r : Regex) (line : List Char) : Bool :=
  let sound (p q : Spot) : Bool :=
    (!whole || q.rest = []) && (!word || whole ||
      (!(p.before.head?.any isWordChar) && !(q.rest.head?.any isWordChar)))
  let places := if whole then [0] else List.range (line.length + 1)
  places.any fun k =>
    let p : Spot := ⟨(line.take k).reverse, line.drop k, []⟩
    (run fold (enough p) r p fun q => if sound p q then some () else none).isSome

/-- The parts of a line that an expression fits, from left to right, empty ones left out. The number
bounds how many places there are. -/
def parts (fold : Bool) (r : Regex) : Nat → Spot → List (List Char)
  | 0, _ => []
  | n + 1, p =>
    match search? fold r (p.rest.length + 1) p with
    | none => []
    | some (q, e) =>
      let t := q.rest.take (q.rest.length - e.rest.length)
      if t = [] then (if q.rest = [] then [] else parts fold r n q.step)
      else t :: parts fold r n e

end Regex

end AgentLaunch.Shell
