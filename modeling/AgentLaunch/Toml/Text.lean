import AgentLaunch.Toml.Number

/-!
# Texts in TOML

Texts between quotes, in one line or in several. Texts between double quotes may hold escapes, those
between apostrophes stand for themselves.
-/

namespace AgentLaunch.Toml

open Reader

/-- Whether a character may stand in a comment or unescaped in a text: no control character but
the tab. -/
def isVisible (c : Char) : Bool :=
  c = '\t' || (0x20 ≤ c.toNat && c.toNat ≠ 0x7F)

def isBlank (c : Char) : Bool :=
  c = ' ' || c = '\t'

def blanks : Reader Unit := do
  let _ ← takeWhile isBlank

/-- The end of a line, with or without a carriage return. -/
def lineBreak : Reader Unit :=
  char '\n' <|> text "\r\n"

/-- Skips a comment, but not the line break after it. -/
def comment : Reader Unit := do
  if ← skip? '#' then
    let _ ← takeWhile isVisible

private def hexDigits : Nat → Reader (List Char)
  | 0 => return []
  | n + 1 => do return (← satisfying isHexDigit) :: (← hexDigits n)

/-- The character of a code point given in a fixed count of hexadecimal digits. -/
private def codePoint (width : Nat) : Reader Char := do
  let n := ofDigits 16 (← hexDigits width)
  if h : n.isValidChar then return Char.ofNatAux n h else fail

private def escaped : Reader Char := do
  match ← satisfying fun _ => true with
  | 'b' => return '\x08'
  | 't' => return '\t'
  | 'n' => return '\n'
  | 'f' => return '\x0c'
  | 'r' => return '\r'
  | '"' => return '"'
  | '\\' => return '\\'
  | 'u' => codePoint 4
  | 'U' => codePoint 8
  | _ => fail

def basicText : Reader (List Char) := do
  char '"'
  let cs ← many do
    if ← nextIs '"' then return none
    if ← skip? '\\' then return some (← escaped)
    return some (← satisfying isVisible)
  char '"'
  return cs

def literalText : Reader (List Char) := do
  char '\''
  let cs ← takeWhile fun c => isVisible c && c ≠ '\''
  char '\''
  return cs

/-- A backslash at the end of a line, with all white space up to the next visible character. -/
private def continuation : Reader (List Char) := do
  char '\\'
  blanks
  lineBreak
  let _ ← many do
    match ← optional (lineBreak <|> (do let _ ← satisfying isBlank)) with
    | some () => return some ()
    | none => return none
  return []

private def escape : Reader (List Char) := do
  char '\\'
  return [← escaped]

private def quotesAhead (quote : Char) : Reader Nat := do
  return ((← get).takeWhile (· = quote)).length

/-- A text between tripled quotes. A line break right after the opening is dropped, others become
single line feeds. One or two quotes are part of the text, also right before the closing. -/
private def longText (quote : Char) (escapes : Bool) : Reader (List Char) := do
  text (String.ofList [quote, quote, quote])
  let _ ← optional lineBreak
  let pieces ← many do
    match ← quotesAhead quote with
    | 0 =>
      if escapes && (← nextIs '\\') then some <$> (continuation <|> escape)
      else some <$> ((do lineBreak; return ['\n']) <|> (do return [← satisfying isVisible]))
    | 1 | 2 => some <$> takeWhile (· = quote)
    | _ => return none
  let closing ← takeWhile (· = quote)
  if closing.length ≤ 5 then return pieces.flatten ++ closing.drop 3 else fail

def longBasicText : Reader (List Char) :=
  longText '"' true

def longLiteralText : Reader (List Char) :=
  longText '\'' false

def quotedText : Reader String :=
  String.ofList <$> do
    match ← get with
    | '"' :: '"' :: '"' :: _ => longBasicText
    | '\'' :: '\'' :: '\'' :: _ => longLiteralText
    | '"' :: _ => basicText
    | _ => literalText

end AgentLaunch.Toml
