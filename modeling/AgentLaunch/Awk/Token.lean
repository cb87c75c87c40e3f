import AgentLaunch.Awk.Syntax
import AgentLaunch.Shell.Format
import AgentLaunch.Tools.Quantity

/-!
# Words of programs over records

How the text of a program is taken apart. A slash divides behind something that has a value, and
begins a regular expression elsewhere.
-/

namespace AgentLaunch.Awk

inductive Token where
  | number (x : Binary64)
  | text (t : List Char)
  | regex (source : List Char)
  | name (n : String)
  /-- A name with an opening parenthesis right behind it. -/
  | called (n : String)
  | builtin (n : String)
  | keyword (w : String)
  | symbol (w : String)
  | lineEnd
  deriving DecidableEq

namespace Token

def keywords : List String :=
  ["BEGIN", "END", "if", "else", "while", "do", "for", "in", "next", "nextfile", "exit", "return",
    "break", "continue", "delete", "print", "printf", "getline", "function"]

def symbols : List String :=
  ["&&", "||", "++", "--", "+=", "-=", "*=", "/=", "%=", "^=", "==", "<=", ">=", "!=",
    "!~", ">>", "\x7b", "\x7d", "(", ")", "[", "]", ";", ",", "+", "-", "*", "/", "%", "^", "!",
    ">", "<", "|", "?", ":", "~", "$", "="]

def hasValue : Token → Bool
  | .number _ | .text _ | .regex _ | .name _ | .builtin _ => true
  | .symbol w => [")", "]", "++", "--", "$"].contains w
  | _ => false

def isNameChar (c : Char) : Bool :=
  (c.isAlphanum && c.toNat < 128) || c = '_'

/-- The characters of a text with escapes, and the text behind it. -/
def textOf? : Nat → List Char → Option (List Char × List Char)
  | 0, _ | _, [] => none
  | _ + 1, '"' :: rest => some ([], rest)
  | _ + 1, '\n' :: _ => none
  | n + 1, '\\' :: '\n' :: rest => textOf? n rest
  | n + 1, '\\' :: c :: rest => do
    if c = '"' ∨ c = '/' then
      let (t, rest) ← textOf? n rest
      return (c :: t, rest)
    match Shell.Format.escape? (c :: rest) with
    | some (d, rest) =>
      let (t, rest) ← textOf? n rest
      return (d :: t, rest)
    | none =>
      let (t, rest) ← textOf? n rest
      return ('\\' :: c :: t, rest)
  | n + 1, c :: rest => do
    let (t, rest) ← textOf? n rest
    return (c :: t, rest)

/-- The source of a regular expression up to its slash. One in brackets belongs to it. -/
def regexOf? : Nat → Bool → List Char → Option (List Char × List Char)
  | 0, _, _ | _, _, [] | _, _, '\n' :: _ => none
  | n + 1, inside, '\\' :: c :: rest => do
    let (t, rest) ← regexOf? n inside rest
    return (if c = '/' then (c :: t, rest) else ('\\' :: c :: t, rest))
  | n + 1, inside, c :: rest =>
    if c = '/' ∧ !inside then some ([], rest)
    else if c = '[' ∧ !inside then do
      let front := match rest with
        | '^' :: ']' :: _ => 2
        | '^' :: _ | ']' :: _ => 1
        | _ => 0
      let (t, behind) ← regexOf? n true (rest.drop front)
      return (c :: rest.take front ++ t, behind)
    else do
      let (t, rest) ← regexOf? n (inside && c ≠ ']') rest
      return (c :: t, rest)

def numberOf (t : List Char) : Binary64 × List Char :=
  match Tools.Numeral.mantissa? 10 t with
  | none => (.zero false, t)
  | some (digits, places, rest) =>
    let (e, rest) := Tools.Numeral.exponent 'e' rest
    (.ofDecimal false digits (e - Int.ofNat places), rest)

/-- The token in front of a text, behind another one. -/
def next? (value : Bool) (t : List Char) : Option (Token × List Char) :=
  match t with
  | [] => none
  | '\n' :: rest => some (.lineEnd, rest)
  | '"' :: rest => (textOf? (rest.length + 1) rest).map fun (t, rest) => (.text t, rest)
  | c :: rest =>
    if c.isDigit ∨ (c = '.' ∧ rest.head?.any Char.isDigit) then
      let (x, rest) := numberOf t
      some (.number x, rest)
    else if isNameChar c then
      let word := t.takeWhile isNameChar
      let behind := t.drop word.length
      let n := String.ofList word
      some (if keywords.contains n then .keyword n
        else if builtins.any fun b => b.1 = n then .builtin n
        else if behind.head? = some '(' then .called n
        else .name n, behind)
    else if c = '/' ∧ !value then
      (regexOf? (rest.length + 1) false rest).map fun (t, rest) => (.regex t, rest)
    else (symbols.find? fun w => w.toList.isPrefixOf t).map fun w => (.symbol w, t.drop w.length)

/-- The tokens of a text. The number bounds how many characters there are. -/
def all? : Nat → Bool → List Char → Option (List Token)
  | 0, _, _ => none
  | _, _, [] => some []
  | n + 1, value, '\\' :: '\n' :: rest => all? n value rest
  | n + 1, value, c :: rest =>
    if c = ' ' ∨ c = '\t' ∨ c = '\r' then all? n value rest
    else if c = '#' then all? n value (rest.dropWhile (· ≠ '\n'))
    else do
      let (token, rest) ← next? value (c :: rest)
      let more ← all? n token.hasValue rest
      return token :: more

def read? (t : List Char) : Option (List Token) :=
  all? (t.length + 1) false t

end Token

end AgentLaunch.Awk
