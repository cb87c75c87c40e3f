import AgentLaunch.Text.Blank

/-!
# Atoms of patterns

The smallest parts of a regular expression: single characters, classes of characters with a name,
and places in a text. Tables of characters outside ASCII are not at hand. So an atom that needs one
stands in a pattern only where Unicode is switched off.
-/

namespace AgentLaunch.Text.Pattern

/-- What is switched on at a place in a pattern, as far as it decides what may stand there. -/
structure Flags where
  /-- Letters stand for both of their cases. -/
  caseless : Bool
  /-- Characters count, not bytes. -/
  unicode : Bool
  /-- White space and comments are skipped. -/
  spaced : Bool
  deriving DecidableEq, Repr

/-- What is switched on where a pattern begins. -/
def Flags.standard : Flags := ⟨false, true, false⟩

/-- A part of a pattern without parts. -/
inductive Atom where
  /-- A character; `asByte` if it is written as a byte in hexadecimal digits. -/
  | character (c : Char) (asByte : Bool)
  /-- Digits, white space or the characters of words, or all but them. -/
  | characters (negated : Bool)
  | anyCharacter
  /-- An end of the text or of a line. -/
  | edge
  /-- An end of a word, or no end of one. -/
  | wordEdge
  deriving DecidableEq, Repr

namespace Atom

def isAllowed (flags : Flags) : Atom → Bool
  | character c asByte =>
    if flags.unicode then !flags.caseless else !asByte || c.toNat < 0x80
  | characters negated => !flags.unicode && !negated
  | anyCharacter => flags.unicode
  | edge => true
  | wordEdge => !flags.unicode

def isAllowedInBrackets (flags : Flags) : Atom → Bool
  | character c _ => if flags.unicode then !flags.caseless else c.toNat < 0x80
  | characters negated => !flags.unicode && !negated
  | _ => false

end Atom

/-- Skips white space and comments, which end with their line. -/
def skipSpace (inComment : Bool) : List Char → List Char
  | [] => []
  | c :: rest =>
    if inComment then skipSpace (c ≠ '\n') rest
    else if isWhiteSpace c then skipSpace false rest
    else if c = '#' then skipSpace true rest
    else c :: rest

def skip (flags : Flags) (s : List Char) : List Char :=
  if flags.spaced then skipSpace false s else s

private def hexValue? (c : Char) : Option Nat :=
  if c.isDigit then some (c.toNat - 48)
  else if 'a' ≤ c ∧ c ≤ 'f' then some (c.toNat - 87)
  else if 'A' ≤ c ∧ c ≤ 'F' then some (c.toNat - 55)
  else none

/-- A fixed count of hexadecimal digits, with the value of those before them. -/
private def hexDigits (flags : Flags) : Nat → Nat → List Char → Option (Nat × List Char)
  | 0, value, s => some (value, s)
  | n + 1, value, c :: rest => do
    hexDigits flags n (value * 16 + (← hexValue? c)) (skip flags rest)
  | _ + 1, _, [] => none

/-- A character by its code point in so many hexadecimal digits. -/
private def codePoint? (flags : Flags) (digits : Nat) (s : List Char) :
    Option (Atom × List Char) := do
  let (n, rest) ← hexDigits flags digits 0 (skip flags s)
  if n.isValidChar then return (.character (Char.ofNat n) (digits = 2), rest) else none

/-- An atom that begins with a backslash, which is already taken. Letters and digits have meanings
of their own behind it, if any; other ASCII characters stand for themselves. -/
def escaped? (flags : Flags) : List Char → Option (Atom × List Char)
  | [] => none
  | c :: rest =>
    match c with
    | 'x' => codePoint? flags 2 rest
    | 'u' => codePoint? flags 4 rest
    | 'U' => codePoint? flags 8 rest
    | 'd' | 's' | 'w' => some (.characters false, rest)
    | 'D' | 'S' | 'W' => some (.characters true, rest)
    | 'a' => some (.character '\x07' false, rest)
    | 'f' => some (.character '\x0c' false, rest)
    | 't' => some (.character '\t' false, rest)
    | 'n' => some (.character '\n' false, rest)
    | 'r' => some (.character '\r' false, rest)
    | 'v' => some (.character '\x0b' false, rest)
    | 'A' | 'z' => some (.edge, rest)
    | 'b' | 'B' | '<' | '>' => some (.wordEdge, rest)
    | c =>
      if c.toNat < 0x80 ∧ ¬ c.isAlphanum then some (.character c false, rest) else none

/-- The atom in front of a text that is not empty. -/
def atom? (flags : Flags) : List Char → Option (Atom × List Char)
  | [] => none
  | '\\' :: rest => escaped? flags rest
  | '.' :: rest => some (.anyCharacter, rest)
  | '^' :: rest | '$' :: rest => some (.edge, rest)
  | c :: rest => some (.character c false, rest)

/-- The atom in front of a text between brackets, where only the backslash is special. -/
def bracketAtom? (flags : Flags) : List Char → Option (Atom × List Char)
  | [] => none
  | '\\' :: rest => escaped? flags rest
  | c :: rest => some (.character c false, rest)

end AgentLaunch.Text.Pattern
