import AgentLaunch.Environment
import AgentLaunch.Event
import AgentLaunch.Text.Alphanumeric
import AgentLaunch.Text.Blank
import AgentLaunch.Text.Pattern

/-!
# Log filters

Which events are written to the log. A filter is a list of directives, each of which lets events up
to some level pass. The most specific directive that fits an event decides.
-/

namespace AgentLaunch

/-- The rank up to which events pass. With rank 0 none does. -/
abbrev LogFilter.Threshold := Nat

/-- A rule for events of some parts of the program. -/
structure LogFilter.Directive where
  /-- What the target of an event has to begin with. -/
  target : Option String
  /-- Whether the rule is about events inside a span only. There are no spans here. -/
  inSpan : Bool
  /-- The names of values that an event has to have. -/
  fields : List String
  /-- Whether a value is asked for as well, which only spans can have. -/
  hasValue : Bool
  threshold : LogFilter.Threshold
  deriving DecidableEq, Repr

/-- A list of directives. Of equal ones the later counts. -/
structure LogFilter where
  directives : List LogFilter.Directive
  deriving DecidableEq, Repr

namespace LogFilter

inductive Unreadable where
  | malformed
  /-- A part would begin or end inside a character. -/
  | torn
  deriving DecidableEq, Repr

/-- A part of a directive that has to be right. -/
def required (part : Option α) : Except Unreadable α :=
  match part with
  | some a => .ok a
  | none => .error .malformed

def everything : Threshold := 5

private def digits? (s : List Char) : Option Nat :=
  let s := if s.head? = some '+' then s.drop 1 else s
  if s ≠ [] ∧ s.all Char.isDigit then some (s.foldl (fun n c => n * 10 + (c.toNat - 48)) 0)
  else none

/-- A threshold as a number or as the name of a level. -/
def threshold? (s : List Char) : Option Threshold :=
  match digits? s with
  | some n => if n ≤ everything then some n else none
  | none =>
    match String.ofList (s.map Char.toLower) with
    | "off" => some 0
    | "error" => some 1
    | "warn" => some 2
    | "info" => some 3
    | "debug" => some 4
    | "trace" => some 5
    | _ => none

/-- The threshold after an equals sign. None lets everything pass. -/
def thresholdAfter? (s : List Char) : Option Threshold :=
  if s = [] then some everything else threshold? s

/-- What a directive without further parts says: a threshold for all events or, if it is none, a
target all of whose events pass. -/
def plain (s : List Char) : Directive :=
  match threshold? s with
  | some t => ⟨none, false, [], false, t⟩
  | none => ⟨some (String.ofList s), false, [], false, everything⟩

/-- The digits of a whole number or of a decimal fraction, with an exponent or without. -/
private def isDecimal (s : List Char) : Bool :=
  let whole := s.takeWhile Char.isDigit
  let (places, rest) := match s.dropWhile Char.isDigit with
    | '.' :: rest => (rest.takeWhile Char.isDigit, rest.dropWhile Char.isDigit)
    | rest => ([], rest)
  (whole ≠ [] || places ≠ []) &&
    match rest with
    | [] => true
    | e :: exponent =>
      let digits := match exponent with
        | '+' :: digits | '-' :: digits => digits
        | digits => digits
      (e = 'e' || e = 'E') && digits ≠ [] && digits.all Char.isDigit

/-- A number without a sign. Infinity is one, and so is what is no number. -/
private def isNumber (s : List Char) : Bool :=
  isDecimal s || ["inf", "infinity", "nan"].contains (String.ofList (s.map Char.toLower))

/-- Whether a field can be asked to have a value. Values are patterns; truth values and numbers are
too, unless they have a plus sign in front. -/
def isValue : List Char → Bool
  | '+' :: number => isNumber number
  | s => Text.Pattern.isPattern s

/-- The part of a text behind so many bytes. -/
def fromByte : Nat → List Char → Except Unreadable (List Char)
  | 0, s => .ok s
  | _, [] => .error .torn
  | n, c :: rest => if c.utf8Size ≤ n then fromByte (n - c.utf8Size) rest else .error .torn

/-- The part of a text that consists of so many bytes. -/
def firstBytes : Nat → List Char → Except Unreadable (List Char)
  | 0, _ => .ok []
  | _, [] => .error .torn
  | n, c :: rest =>
    if c.utf8Size ≤ n then (firstBytes (n - c.utf8Size) rest).map (c :: ·) else .error .torn

def byteSize (s : List Char) : Nat :=
  s.foldl (fun n c => n + c.utf8Size) 0

/-- The part of a text that lies where a piece of the same size would begin. -/
def cut (written : List Char) (start : Nat) (piece : List Char) :
    Except Unreadable (List Char) := do
  firstBytes (byteSize piece) (← fromByte start written)

/-- The threshold that is written from some byte on. -/
def thresholdFrom (written : List Char) (start : Nat) : Except Unreadable Threshold := do
  required (thresholdAfter? (← fromByte start written))

/-- The rest of a directive after the closing bracket. -/
def afterBracket (written : List Char) (d : Directive) (start : Nat) :
    List Char → Except Unreadable Directive
  | [] => .ok d
  | '=' :: _ => do return { d with threshold := ← thresholdFrom written (start + 1) }
  | _ => .error .malformed

/-- A field between braces, up to an equals sign and a value. -/
def addField (d : Directive) (s : List Char) : Except Unreadable Directive :=
  let value := ((s.dropWhile (· ≠ '=')).drop 1).takeWhile (· ≠ '=')
  if s = [] ∨ ¬ isValue value then .error .malformed
  else .ok { d with
    fields := d.fields ++ [String.ofList (s.takeWhile (· ≠ '='))]
    hasValue := d.hasValue || s.contains '=' }

/-- The rest of a directive after the opening bracket. -/
def span (written : List Char) (d : Directive) (start : Nat) (s : List Char) :
    Except Unreadable Directive := do
  let name := s.takeWhile fun c => c ≠ ']' && c ≠ '\x7b'
  let stop := start + byteSize name
  match s.dropWhile fun c => c ≠ ']' && c ≠ '\x7b' with
  | ']' :: rest =>
    let _ ← cut written start name
    afterBracket written { d with inSpan := true } (stop + 1) rest
  | '\x7b' :: rest =>
    let nameWritten ← cut written start name
    let field := rest.takeWhile (· ≠ '\x7d')
    match rest.dropWhile (· ≠ '\x7d') with
    | '\x7d' :: rest =>
      let d ← addField { d with inSpan := nameWritten ≠ [] } (← cut written (stop + 1) field)
      match rest with
      | ']' :: rest => afterBracket written d (stop + 1 + byteSize field + 2) rest
      | _ => throw .malformed
    | _ => throw .malformed
  | _ => throw .malformed

def canBegin (c : Char) : Bool :=
  c = '-' || c = ':' || c = '_' || Text.isAlphanumeric c

/-- Reads a directive. White space around it is not looked at for its form, but is not taken away
from its parts either: they are cut where they would lie without it. -/
def Directive.parse (written : List Char) : Except Unreadable Directive :=
  let form := Text.trim written
  let anyLevel (target : Option String) : Directive := ⟨target, false, [], false, everything⟩
  match form with
  | [] => .error .malformed
  | '[' :: rest => span written (anyLevel none) 1 rest
  | c :: _ =>
    if !canBegin c then .error .malformed
    else
      let name := form.takeWhile fun c => c ≠ '=' && c ≠ '['
      let stop := byteSize name
      match form.dropWhile fun c => c ≠ '=' && c ≠ '[' with
      | '=' :: _ => do
        let target ← cut written 0 name
        let threshold ← thresholdFrom written (stop + 1)
        return { anyLevel (some (String.ofList target)) with threshold := threshold }
      | '[' :: rest => do
        span written (anyLevel (some (String.ofList (← cut written 0 name)))) (stop + 1) rest
      | _ => .ok (plain written)

/-- Reads directives separated by commas, up to the first that cannot be read; empty ones are
skipped. -/
def parse (s : String) : Except Unreadable LogFilter := do
  let parts := (s.splitOn ",").filter (· ≠ "")
  return ⟨← parts.mapM fun p => Directive.parse p.toList⟩

/-- The filter that is used when none is given, or a malformed one. -/
def standard : LogFilter :=
  ⟨[⟨some "flume_launcher", false, [], false, 3⟩]⟩

/-- The filter that the environment asks for. With a torn one there is none. -/
def ofEnvironment? (env : Environment) : Option LogFilter :=
  match (env.get? "RUST_LOG").map parse with
  | none | some (.error .malformed) => some standard
  | some (.ok f) => some f
  | some (.error .torn) => none

def Directive.fits (d : Directive) (e : Event) : Bool :=
  !d.inSpan && !d.hasValue &&
    (match d.target with
      | none => true
      | some t => t.toList.isPrefixOf e.target.toList) &&
    d.fields.all fun name => e.fields.any fun f => f.1 = name

/-- How specific a directive is: by the length of its target, then by its number of fields. Names
of fields decide last, so that only directives about the same events are equal. -/
def Directive.specificity (d : Directive) : Nat × Nat :=
  ((match d.target with
    | none => 0
    | some t => t.utf8ByteSize + 1), d.fields.length)

private def isMoreSpecific (a b : Directive) : Bool :=
  let (m, i) := a.specificity
  let (n, j) := b.specificity
  n < m || (n = m && (j < i || (i = j && b.fields < a.fields)))

/-- The directive that decides: the most specific one, and of equal ones the last. -/
def decisive (f : LogFilter) (e : Event) : Option Directive :=
  (f.directives.filter fun d => d.fits e).foldl (fun best d =>
    match best with
    | none => some d
    | some b => if isMoreSpecific b d then some b else some d) none

def passes (f : LogFilter) (e : Event) : Bool :=
  match f.decisive e with
  | none => false
  | some d => e.level.rank ≤ d.threshold

end LogFilter

end AgentLaunch
