import AgentLaunch.Text.GraphemeExtend
import AgentLaunch.Text.Printable

/-!
# Quoted texts

Texts between quotes for people who read logs: what cannot be seen, or would attach to the quote,
is written by its code point. Lists of texts are written in brackets.
-/

namespace AgentLaunch.Text.Quoted

/-- A code point in hexadecimal digits, between braces. -/
def codePoint (c : Char) : List Char :=
  ['\\', 'u', '\x7b'] ++ Nat.toDigits 16 c.toNat ++ ['\x7d']

/-- The written form of one character inside quotes. -/
def escape (c : Char) : List Char :=
  match c with
  | '\x00' => ['\\', '0']
  | '\t' => ['\\', 't']
  | '\r' => ['\\', 'r']
  | '\n' => ['\\', 'n']
  | '"' => ['\\', '"']
  | '\\' => ['\\', '\\']
  | c => if isGraphemeExtend c || !isPrintable c then codePoint c else [c]

def text (s : String) : String :=
  String.ofList ('"' :: s.toList.flatMap escape ++ ['"'])

/-- Texts in quotes, separated by commas, in brackets. -/
def list (xs : List String) : String :=
  "[" ++ String.intercalate ", " (xs.map text) ++ "]"

end AgentLaunch.Text.Quoted
