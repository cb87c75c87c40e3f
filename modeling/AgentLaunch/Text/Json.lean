/-!
# Text lists as JSON

Lists of texts written as compact JSON arrays, and a reader for such arrays. Only the characters
that JSON does not allow inside a text are escaped, each in its shortest form.
-/

namespace AgentLaunch.Text.Json

def hexDigit (n : Nat) : Char :=
  if n < 10 then Char.ofNat (48 + n) else Char.ofNat (87 + n)

/-- The written form of one character inside quotes. -/
def escape (c : Char) : List Char :=
  match c with
  | '"' => ['\\', '"']
  | '\\' => ['\\', '\\']
  | '\n' => ['\\', 'n']
  | '\r' => ['\\', 'r']
  | '\t' => ['\\', 't']
  | c =>
    if c = '\x08' then ['\\', 'b']
    else if c = '\x0c' then ['\\', 'f']
    else if c.toNat < 0x20 then
      ['\\', 'u', '0', '0', hexDigit (c.toNat / 16), hexDigit (c.toNat % 16)]
    else [c]

def encodeChars (s : List Char) : List Char :=
  '"' :: s.flatMap escape ++ ['"']

def encode (s : String) : String :=
  String.ofList (encodeChars s.toList)

/-- A list of texts as one array without spaces. -/
def encodeList (xs : List String) : String :=
  String.ofList
    ('[' :: (List.intercalate [','] (xs.map fun x => encodeChars x.toList)) ++ [']'])

def hexValue? (c : Char) : Option Nat :=
  if '0' ≤ c ∧ c ≤ '9' then some (c.toNat - 48)
  else if 'a' ≤ c ∧ c ≤ 'f' then some (c.toNat - 87)
  else if 'A' ≤ c ∧ c ≤ 'F' then some (c.toNat - 55)
  else none

/-- The code unit that four hexadecimal digits stand for. -/
def unit? (a b c d : Char) : Option Nat := do
  return (← hexValue? a) * 4096 + (← hexValue? b) * 256 + (← hexValue? c) * 16 + (← hexValue? d)

def simpleEscape? : Char → Option Char
  | '"' => some '"'
  | '\\' => some '\\'
  | '/' => some '/'
  | 'b' => some '\x08'
  | 'f' => some '\x0c'
  | 'n' => some '\n'
  | 'r' => some '\r'
  | 't' => some '\t'
  | _ => none

/-- The character of a code unit. Halves of a pair stand for none, as the writer never makes
pairs. -/
def char? (n : Nat) : Option Char :=
  if h : n.isValidChar then some (Char.ofNatAux n h) else none

def prependChar (c : Char) : List (List Char) → List (List Char)
  | [] => [[c]]
  | x :: xs => (c :: x) :: xs

mutual

/-- Reads the inside of a text and all texts after it. -/
def texts : List Char → Option (List (List Char))
  | [] => none
  | '"' :: r => (more r).map ([] :: ·)
  | '\\' :: 'u' :: a :: b :: c :: d :: r => do
    let char ← char? (← unit? a b c d)
    (texts r).map (prependChar char)
  | '\\' :: c :: r => do
    let char ← simpleEscape? c
    (texts r).map (prependChar char)
  | c :: r => if c.toNat < 0x20 ∨ c = '\\' then none else (texts r).map (prependChar c)

/-- Reads what follows a text: the end of the array, or a comma and the next text. -/
def more : List Char → Option (List (List Char))
  | [']'] => some []
  | ',' :: '"' :: r => texts r
  | _ => none

end

/-- Reads a compact array of texts; anything else is refused. -/
def decodeList (s : String) : Option (List String) :=
  match s.toList with
  | ['[', ']'] => some []
  | '[' :: '"' :: r => (texts r).map (·.map String.ofList)
  | _ => none

end AgentLaunch.Text.Json
