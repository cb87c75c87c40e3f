import AgentLaunch.Sed.Syntax
import AgentLaunch.Tools.Quantity

/-!
# Reading scripts for lines
-/

namespace AgentLaunch.Sed.Parse

open Shell (Regex)
open Tools (isDigit ofDigits digitValue isBlank)

structure Mode where
  extended : Bool
  /-- Whether a script may neither use files nor run commands. -/
  sandbox : Bool
  /-- Whether only what every such language has is allowed. -/
  strict : Bool

def skipBlanks (t : List Char) : List Char :=
  t.dropWhile fun c => c = ' ' || c = '\t'

def number? (t : List Char) : Option (Nat × List Char) :=
  let digits := t.takeWhile isDigit
  if digits = [] then none else some (ofDigits 10 digits, t.drop digits.length)

/-- The number in front of a text, or zero. -/
def numberOr (t : List Char) : Nat × List Char :=
  (number? t).getD (0, t)

/-! ### Texts between delimiters -/

/-- A text up to its delimiter, in which no line ends unless a backslash is in front of its end. A
backslash in front of the delimiter goes, and so does the one of a line end in an expression. -/
def upTo (mark : Char) (isRegex : Bool) : Nat → List Char → Option (List Char × List Char)
  | 0, _ | _, [] => none
  | n + 1, '\\' :: c :: rest => do
    if mark = '\\' then return ([], c :: rest)
    let (t, rest) ← upTo mark isRegex n rest
    return (if c = mark then (c :: t, rest)
      else if c = 'n' ∧ isRegex then ('\n' :: t, rest)
      else ('\\' :: c :: t, rest))
  | n + 1, c :: rest =>
    if c = mark then some ([], rest)
    else if c = '\n' then none
    else if c = '[' ∧ isRegex then do
      let k := Regex.bracketLength rest
      let (t, behind) ← upTo mark isRegex n (rest.drop k)
      return (c :: rest.take k ++ t, behind)
    else do
      let (t, rest) ← upTo mark isRegex n rest
      return (c :: t, rest)

/-- The character that an escape of the language stands for. -/
def escape? : List Char → Option (Char × List Char)
  | 'a' :: rest => some ('\x07', rest)
  | 'f' :: rest => some ('\x0c', rest)
  | 'n' :: rest => some ('\n', rest)
  | 'r' :: rest => some ('\r', rest)
  | 't' :: rest => some ('\t', rest)
  | 'v' :: rest => some ('\x0b', rest)
  | 'c' :: c :: rest => some (Char.ofNat (c.toUpper.toNat ^^^ 64), rest)
  | 'd' :: rest => numeral 10 3 rest
  | 'o' :: rest => numeral 8 3 rest
  | 'x' :: rest => numeral 16 2 rest
  | _ => none
where
  numeral (base width : Nat) (rest : List Char) : Option (Char × List Char) :=
    let digits := (rest.take width).takeWhile fun c => digitValue c < base
    if digits = [] then none
    else some (Char.ofNat (ofDigits base digits % 256), rest.drop digits.length)

/-- The source of an expression with such escapes carried out. What then has a meaning of its own
keeps a backslash. -/
def withoutEscapes : Nat → List Char → List Char
  | 0, t => t
  | _, [] => []
  | n + 1, '\\' :: rest =>
    match escape? rest with
    | some (c, rest) =>
      if "^$.*[]\\/+?()\x7b\x7d|".toList.contains c then '\\' :: c :: withoutEscapes n rest
      else c :: withoutEscapes n rest
    | none =>
      match rest with
      | d :: rest => '\\' :: d :: withoutEscapes n rest
      | [] => ['\\']
  | n + 1, c :: rest => c :: withoutEscapes n rest

/-- An expression whose edges of lines are those of the whole text. -/
def wholeText : Nat → Regex → Regex
  | 0, r => r
  | n + 1, r =>
    match r with
    | .edge .lineStart => .edge .textStart
    | .edge .lineEnd => .edge .textEnd
    | .group k r => .group k (wholeText n r)
    | .sequence rs => .sequence (rs.map (wholeText n))
    | .alternatives rs => .alternatives (rs.map (wholeText n))
    | .repeated r least most => .repeated (wholeText n r) least most
    | r => r

def groupCount (t : List Char) (extended : Bool) : Nat :=
  let rec count : List Char → Nat
    | '\\' :: '(' :: rest => (if extended then 0 else 1) + count rest
    | '\\' :: _ :: rest => count rest
    | '(' :: rest => (if extended then 1 else 0) + count rest
    | _ :: rest => count rest
    | [] => 0
  count t

/-- What is in front of a place in an expression. -/
inductive Before where
  | start
  | operand
  | repetition
  deriving DecidableEq

/-- Whether repetitions stand where they can. In the plain dialect they stand for themselves at the
start, and two of them do not follow each other. The number bounds how many characters there are. -/
def isSound (extended : Bool) : Nat → Before → List Char → Bool
  | 0, _, _ | _, _, [] => true
  | n + 1, b, '\\' :: c :: rest =>
    if extended then isSound extended n .operand rest
    else if c = '(' ∨ c = '|' then isSound extended n .start rest
    else if c = '\x7b' then
      let inside := rest.takeWhile (· ≠ '\\')
      b ≠ .repetition && isSound extended n .repetition (rest.drop (inside.length + 2))
    else if c = '+' ∨ c = '?' then
      isSound extended n (if b = .start then .operand else .repetition) rest
    else isSound extended n .operand rest
  | n + 1, b, c :: rest =>
    match c, extended with
    | '[', _ => isSound extended n .operand (rest.drop (Regex.bracketLength rest))
    | '*', false =>
      if b = .start then isSound extended n .operand rest
      else b ≠ .repetition && isSound extended n .repetition rest
    | '*', true | '+', true | '?', true => b ≠ .start && isSound extended n .repetition rest
    | '\x7b', true =>
      let inside := rest.takeWhile fun c => isDigit c || c = ','
      b ≠ .start && (rest.drop inside.length).head? = some '\x7d' &&
        isSound extended n .repetition (rest.drop (inside.length + 1))
    | '(', true | '|', true | '^', true => isSound extended n .start rest
    | '^', false => isSound extended n (if b = .start then .start else .operand) rest
    | _, _ => isSound extended n .operand rest

/-- The pattern of an expression, which is read in its dialect. -/
def pattern? (m : Mode) (source : List Char) (fold multiline : Bool) : Option Pattern :=
  if source = [] then some ⟨none, fold⟩
  else
    let t := withoutEscapes source.length source
    if !isSound m.extended t.length .start t then none
    else (Regex.read? ⟨m.extended, false⟩ t).map fun r =>
      ⟨some (if multiline then r else wholeText 100 r), fold⟩

/-! ### Addresses -/

/-- The flags behind an expression that is an address. -/
def flags : Nat → List Char → (Bool × Bool) × List Char
  | 0, t => ((false, false), t)
  | n + 1, t =>
    match t with
    | 'I' :: rest =>
      let ((_, m), rest) := flags n rest
      ((true, m), rest)
    | 'M' :: rest =>
      let ((f, _), rest) := flags n rest
      ((f, true), rest)
    | t => ((false, false), t)

/-- An expression that is an address, behind its opening delimiter. -/
def expression? (m : Mode) (mark : Char) (t : List Char) : Option (Address × List Char) := do
  if mark = '\n' ∨ mark = '\\' then none
  let (source, rest) ← upTo mark true (t.length + 1) t
  let ((fold, multiline), rest) := if m.strict then ((false, false), rest)
    else flags rest.length rest
  let p ← pattern? m source fold multiline
  return (.fits p, rest)

inductive Found where
  | nothing
  | mistake
  | found (a : Address) (rest : List Char)

def address (m : Mode) (t : List Char) : Found :=
  match t with
  | '$' :: rest => .found .last rest
  | '/' :: rest =>
    match expression? m '/' rest with
    | some (a, rest) => .found a rest
    | none => .mistake
  | '\\' :: mark :: rest =>
    match expression? m mark rest with
    | some (a, rest) => .found a rest
    | none => .mistake
  | t =>
    match number? t with
    | none => .nothing
    | some (n, rest) =>
      match skipBlanks rest, m.strict with
      | '~' :: behind, false =>
        let (k, rest) := numberOr (skipBlanks behind)
        .found (.step n k) rest
      | _, _ => .found (.line n) rest

def end? (m : Mode) (t : List Char) : Option (End × List Char) :=
  match t, m.strict with
  | '+' :: rest, false => (number? rest).map fun (n, rest) => (.plus n, rest)
  | '~' :: rest, false => (number? rest).map fun (n, rest) => (.multiple n, rest)
  | t, _ =>
    match address m t with
    | .found a rest => some (.address a, rest)
    | _ => none

/-- The lines that a command is for. Line zero can only be the start of a range that an expression
ends. -/
def selection? (m : Mode) (t : List Char) : Option (Selection × List Char) :=
  match address m t with
  | .nothing => some (.all, t)
  | .mistake => none
  | .found a rest =>
    match skipBlanks rest with
    | ',' :: behind => do
      let (e, rest) ← end? m (skipBlanks behind)
      let sound := match a, e with
        | .line 0, .address (.fits _) => !m.strict
        | .line 0, _ => false
        | _, _ => true
      if sound then return (.range a e, rest) else none
    | _ =>
      match a with
      | .line 0 => none
      | a => some (.single a, rest)

/-! ### Ends of commands -/

/-- The end of a command: a closing brace and a remark stay. -/
def end_ (t : List Char) : Option (List Char) :=
  match t.dropWhile (fun c => isBlank c && c ≠ '\n') with
  | [] => some []
  | '\n' :: rest | ';' :: rest => some rest
  | '\x7d' :: rest => some ('\x7d' :: rest)
  | '#' :: rest => some ('#' :: rest)
  | _ => none

def line (t : List Char) : List Char × List Char :=
  let l := t.takeWhile (· ≠ '\n')
  (l, t.drop (l.length + 1))

/-- A file name, which is the rest of the line. -/
def path? (t : List Char) : Option (String × List Char) :=
  let (l, rest) := line (t.dropWhile fun c => isBlank c && c ≠ '\n')
  if l = [] then none else some (String.ofList l, rest)

/-- A label, which ends at a blank or at a semicolon. -/
def label (t : List Char) : String × List Char :=
  let t := t.dropWhile fun c => isBlank c && c ≠ '\n'
  let name := t.takeWhile fun c => !isBlank c && c ≠ ';' && c ≠ '\x7d'
  (String.ofList name, t.drop name.length)

/-- The lines of a text to put in: backslashes keep line ends and go themselves. -/
def textLines : Nat → List Char → List Char × List Char
  | 0, t => ([], t)
  | _, [] => ([], [])
  | n + 1, '\\' :: c :: rest =>
    let (t, rest) := textLines n rest
    (c :: t, rest)
  | _ + 1, ['\\'] => ([], [])
  | _ + 1, '\n' :: rest => ([], rest)
  | n + 1, c :: rest =>
    let (t, rest) := textLines n rest
    (c :: t, rest)

/-- The text to put in, which begins on the next line or right behind the command. -/
def text? (m : Mode) (t : List Char) : Option (List Char × List Char) :=
  let t := t.dropWhile fun c => isBlank c && c ≠ '\n'
  let take (t : List Char) : Option (List Char × List Char) :=
    let (l, rest) := textLines (t.length + 1) t
    some (l ++ ['\n'], rest)
  match t with
  | [] => none
  | '\\' :: rest =>
    match rest.dropWhile fun c => isBlank c && c ≠ '\n' with
    | [] => some ([], [])
    | '\n' :: rest => take rest
    | rest => take rest
  | '\n' :: _ => none
  | t => if m.strict then none else take t

/-! ### Substitutions -/

/-- The pieces of a replacement, and the largest number of a group in it. The number bounds how many
characters there are. -/
def pieces : Nat → List Char → List Piece × Nat
  | 0, _ | _, [] => ([], 0)
  | n + 1, '\\' :: rest =>
    match rest with
    | [] => ([.text ['\\']], 0)
    | c :: behind =>
      let keep (p : Piece) (k : Nat) (rest : List Char) : List Piece × Nat :=
        let (ps, most) := pieces n rest
        (p :: ps, max k most)
      if isDigit c then keep (.group (digitValue c)) (digitValue c) behind
      else match c with
        | 'U' => keep (.case .upper) 0 behind
        | 'L' => keep (.case .lower) 0 behind
        | 'u' => keep (.case .upperOnce) 0 behind
        | 'l' => keep (.case .lowerOnce) 0 behind
        | 'E' => keep (.case .asIs) 0 behind
        | c =>
          match escape? (c :: behind) with
          | some (d, rest) => keep (.text [d]) 0 rest
          | none => keep (.text [c]) 0 behind
  | n + 1, '&' :: rest =>
    let (ps, most) := pieces n rest
    (.group 0 :: ps, most)
  | n + 1, c :: rest =>
    let (ps, most) := pieces n rest
    (.text [c] :: ps, most)

structure Flags where
  everywhere : Bool
  prints : Bool
  number : Option Nat
  evaluates : Bool
  fold : Bool
  multiline : Bool
  file : Option String

/-- The flags of a substitution up to its end. The number bounds how many there are. -/
def substitutionFlags (m : Mode) : Nat → Flags → List Char → Option (Flags × List Char)
  | 0, _, _ => none
  | _, f, [] => some (f, [])
  | n + 1, f, c :: rest =>
    match c with
    | 'g' => if f.everywhere then none else substitutionFlags m n { f with everywhere := true } rest
    | 'p' => if f.prints then none else substitutionFlags m n { f with prints := true } rest
    | 'e' =>
      if m.sandbox ∨ m.strict then none else substitutionFlags m n { f with evaluates := true } rest
    | 'i' | 'I' =>
      if m.strict then none else substitutionFlags m n { f with fold := true } rest
    | 'm' | 'M' =>
      if m.strict then none else substitutionFlags m n { f with multiline := true } rest
    | 'w' =>
      if m.sandbox then none
      else (path? rest).map fun (path, rest) => ({ f with file := some path }, rest)
    | '\n' | ';' => some (f, rest)
    | '\x7d' | '#' => some (f, c :: rest)
    | '\r' => substitutionFlags m n f rest
    | c =>
      if c = ' ' ∨ c = '\t' then substitutionFlags m n f rest
      else match number? (c :: rest) with
        | some (k, rest) =>
          if k = 0 ∨ f.number.isSome then none
          else substitutionFlags m n { f with number := some k } rest
        | none => none

def substitution? (m : Mode) (t : List Char) : Option (Substitution × List Char) :=
  match t with
  | [] => none
  | mark :: rest => do
    if mark = '\n' ∨ (mark = '\\' ∧ rest = []) then none
    let (source, rest) ← upTo mark true (rest.length + 1) rest
    let (by_, rest) ← upTo mark false (rest.length + 1) rest
    let (f, rest) ← substitutionFlags m (rest.length + 1)
      ⟨false, false, none, false, false, false, none⟩ rest
    let p ← pattern? m source f.fold f.multiline
    let (ps, most) := pieces by_.length by_
    if source ≠ [] ∧ groupCount source m.extended < most then none
    else return (⟨p, ps, f.everywhere, f.number.getD 1, f.prints, f.evaluates, f.file⟩, rest)

def translated? : Nat → List Char → Option (List Char)
  | 0, _ => none
  | _, [] => some []
  | n + 1, '\\' :: c :: rest => do
    let more ← translated? n rest
    match c with
    | '\\' => return '\\' :: more
    | 'n' => return '\n' :: more
    | 't' => return '\t' :: more
    | 'r' => return '\r' :: more
    | c => return '\\' :: c :: more
  | n + 1, c :: rest => do
    return c :: (← translated? n rest)

def translation? (t : List Char) : Option (List (Char × Char) × List Char) :=
  match t with
  | [] => none
  | mark :: rest => do
    if mark = '\n' then none
    let (a, rest) ← upTo mark false (rest.length + 1) rest
    let (b, rest) ← upTo mark false (rest.length + 1) rest
    let a ← translated? (a.length + 1) a
    let b ← translated? (b.length + 1) b
    let rest ← end_ rest
    if a.length = b.length then return (a.zip b, rest) else none

/-! ### Commands -/

/-- The version that a script may ask for at most. -/
def version : List Nat := [4, 9, 0]

def isKnownVersion (t : String) : Bool :=
  let ns := (t.splitOn ".").map fun w => ofDigits 10 (w.toList.takeWhile isDigit)
  let padded := ns ++ List.replicate (3 - ns.length) 0
  compare padded version ≠ .gt

def plain : List (Char × Action) :=
  [('=', .equals), ('d', .delete), ('D', .deleteFirst), ('F', .showName), ('g', .getHold),
    ('G', .appendHold), ('h', .keep), ('H', .appendKeep), ('n', .next), ('N', .appendNext),
    ('p', .print), ('P', .printFirst), ('z', .empty), ('x', .exchange)]

/-- An action behind the lines that it is for. -/
def action? (m : Mode) (s : Selection) (t : List Char) : Option (Action × List Char) :=
  let isRange : Bool := match s with
    | .range .. => true
    | _ => false
  let isAll : Bool := match s with
    | .all => true
    | _ => false
  match t with
  | [] => none
  | c :: rest =>
    if m.strict ∧ "eFQRTvWzL".toList.contains c then none
    else match plain.find? fun p => p.1 = c with
    | some (_, a) => (end_ rest).map fun rest => (a, rest)
    | none =>
      match c with
      | '\x7b' => some (.block, rest)
      | '\x7d' => if isAll then (end_ rest).map fun rest => (.close, rest) else none
      | 'a' => (text? m rest).map fun (t, rest) => (.append t, rest)
      | 'i' => (text? m rest).map fun (t, rest) => (.insert t, rest)
      | 'c' => (text? m rest).map fun (t, rest) => (.change t, rest)
      | ':' =>
        let t := rest.dropWhile fun c => isBlank c && c ≠ '\n'
        let name := t.takeWhile fun c => c ≠ '\n' && c ≠ ';'
        if isAll ∧ name ≠ [] then
          some (.label (String.ofList name).trimAscii.toString, t.drop (name.length + 1))
        else none
      | 'b' => do
        let (name, rest) := label rest
        return (.jump name, ← end_ rest)
      | 't' => do
        let (name, rest) := label rest
        return (.jumpIfChanged name, ← end_ rest)
      | 'T' => do
        let (name, rest) := label rest
        return (.jumpUnlessChanged name, ← end_ rest)
      | 'e' =>
        if m.sandbox then none
        else
          let (l, rest) := line (rest.dropWhile fun c => isBlank c && c ≠ '\n')
          some (.execute l, rest)
      | 'l' => do
        let (_, rest) := numberOr (skipBlanks rest)
        return (.list, ← end_ rest)
      | 'L' => do
        let (_, rest) := numberOr (skipBlanks rest)
        return (.broken, ← end_ rest)
      | 'q' => do
        if isRange then none
        let (code, rest) := if m.strict then (0, rest) else numberOr (skipBlanks rest)
        return (.quit code, ← end_ rest)
      | 'Q' => do
        if isRange then none
        let (code, rest) := numberOr (skipBlanks rest)
        return (.quitSilently code, ← end_ rest)
      | 'r' => if m.sandbox then none else (path? rest).map fun (p, rest) => (.readFile p, rest)
      | 'R' => if m.sandbox then none else (path? rest).map fun (p, rest) => (.readLine p, rest)
      | 'w' => if m.sandbox then none else (path? rest).map fun (p, rest) => (.writeFile p, rest)
      | 'W' => if m.sandbox then none else (path? rest).map fun (p, rest) => (.writeFirst p, rest)
      | 's' => (substitution? m rest).map fun (s, rest) => (.substitute s, rest)
      | 'v' => do
        let (name, rest) := label rest
        if isKnownVersion name then return (.nothing, ← end_ rest) else none
      | 'y' => (translation? rest).map fun (ps, rest) => (.translate ps, rest)
      | '#' => if isAll then some (.nothing, (line rest).2) else none
      | _ => none

/-- All commands of a script. The number bounds how many there are. -/
def commands? (m : Mode) : Nat → List Char → Option (List Command)
  | 0, _ => none
  | n + 1, t =>
    match t.dropWhile fun c => isBlank c || c = ';' with
    | [] => some []
    | t => do
      let (s, rest) ← selection? m t
      let rest := skipBlanks rest
      let negated := rest.head? = some '!'
      let rest := if negated then skipBlanks (rest.drop 1) else rest
      let (a, rest) ← action? m s rest
      return ⟨s, negated, a⟩ :: (← commands? m n rest)

/-- Whether the braces of a script belong together. -/
def isClosed : Nat → List Command → Bool
  | depth, [] => depth = 0
  | depth, c :: rest =>
    match c.action, depth with
    | .block, depth => isClosed (depth + 1) rest
    | .close, depth + 1 => isClosed depth rest
    | .close, 0 => false
    | _, depth => isClosed depth rest

def script? (m : Mode) (t : List Char) : Option (List Command) := do
  let cs ← commands? m (t.length + 1) t
  if isClosed 0 cs then return cs else none

end AgentLaunch.Sed.Parse
