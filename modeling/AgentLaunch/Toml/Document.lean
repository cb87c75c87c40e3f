import AgentLaunch.Toml.MomentTable
import AgentLaunch.Toml.Tables

/-!
# TOML documents

A document is a sequence of lines: headers, and keys with their values. A text that breaks a rule
anywhere is no document.
-/

namespace AgentLaunch.Toml

open Reader

/-- How deep arrays and inline tables nest. -/
def maxDepth : Nat := 79

private def scalar : Reader Scalar := do
  match ← peek with
  | some '"' | some '\'' => .string <$> quotedText
  | some 't' => do text "true"; return .boolean true
  | some 'f' => do text "false"; return .boolean false
  | _ => number

private def gap : Reader Unit := do
  let _ ← many do
    match ← peek with
    | some ' ' | some '\t' => some <$> blanks
    | some '\n' | some '\r' => some <$> lineBreak
    | some '#' => do
      comment
      some <$> lineBreak
    | _ => return none

/-- Values between brackets, separated by commas. A comma may follow the last one. -/
private def array (item : Reader Value) : Reader Value := do
  char '['
  gap
  let items ← many do
    if ← nextIs ']' then return none
    let v ← item
    gap
    if ← skip? ',' then
      gap
      return some v
    else if ← nextIs ']' then return some v
    else fail
  char ']'
  return .array items

private def pair (item : Reader Value) : Reader (Key × Value) := do
  let k ← key
  char '='
  blanks
  return (k, ← item)

/-- Keys and values between braces, separated by commas, in one line. -/
private def inlineTable (item : Reader Value) : Reader Value := do
  char '\x7b'
  blanks
  if ← skip? '\x7d' then return .table []
  let first ← pair item
  blanks
  let rest ← many do
    if ← skip? ',' then
      let p ← pair item
      blanks
      return some p
    else return none
  char '\x7d'
  match Entries.assignAll [] (first :: rest) with
  | some entries => return .table (entriesToValues entries)
  | none => fail

/-- A value in which arrays and inline tables nest at most so deep. -/
def value : Nat → Reader Value
  | 0 => .scalar <$> scalar
  | depth + 1 => do
    match ← peek with
    | some '[' => array (value depth)
    | some '\x7b' => inlineTable (value depth)
    | _ => .scalar <$> scalar

inductive Line where
  | header (key : Key)
  | doubledHeader (key : Key)
  | pair (key : Key) (value : Value)

/-- The end of a line, after blanks and a comment. -/
private def lineEnd : Reader Unit := do
  blanks
  comment
  match ← peek with
  | none => return
  | some _ => lineBreak

private def header : Reader Line := do
  char '['
  if ← skip? '[' then
    let k ← key
    text "]]"
    return .doubledHeader k
  else
    let k ← key
    char ']'
    return .header k

/-- The next line, if there is one; empty ones and comments say nothing. -/
private def line? : Reader (Option (List Line)) := do
  blanks
  match ← peek with
  | none => return none
  | some '\n' | some '\r' | some '#' => do
    lineEnd
    return some []
  | some '[' => do
    let l ← header
    lineEnd
    return some [l]
  | some _ => do
    let (k, v) ← pair (value maxDepth)
    lineEnd
    return some [.pair k v]

/-- All lines of a document; a mark of the byte order in front of it is skipped. -/
def lines : Reader (List Line) := do
  let _ ← skip? '\ufeff'
  return (← many line?).flatten

/-- A header with the lines up to the next one. -/
structure Section where
  header : Key
  doubled : Bool
  pairs : List (Key × Value)

/-- The lines before the first header, and the sections. -/
def sections : List Line → List (Key × Value) × List Section
  | [] => ([], [])
  | .pair k v :: rest =>
    let (pairs, later) := sections rest
    ((k, v) :: pairs, later)
  | .header k :: rest =>
    let (pairs, later) := sections rest
    ([], ⟨k, false, pairs⟩ :: later)
  | .doubledHeader k :: rest =>
    let (pairs, later) := sections rest
    ([], ⟨k, true, pairs⟩ :: later)

def addSection (entries : Entries) (s : Section) : Option Entries :=
  if s.doubled then entries.appendTable s.header s.pairs
  else entries.defineTable s.header s.pairs

def Document.ofLines (ls : List Line) : Option (List (String × Value)) := do
  let (pairs, later) := sections ls
  let root ← Entries.assignAll [] pairs
  return entriesToValues (← later.foldlM addSection root)

/-- The entries of the root table that a text describes. The root stands for no moment. -/
def Document.read? (text : String) : Option (List (String × Value)) := do
  let root ← Document.ofLines (← lines.run? text.toList)
  match ← (Value.table root).withMoments with
  | .table entries => return entries
  | _ => none

end AgentLaunch.Toml
