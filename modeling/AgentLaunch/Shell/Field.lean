import AgentLaunch.Shell.Glob

/-!
# Fields

What a word expands to is put together from pieces, and falls into any number of fields.
-/

namespace AgentLaunch.Shell

inductive Piece where
  | character (c : Char) (quoted : Bool)
  /-- Something quoted, so that there is a field even if it is empty. -/
  | present
  | blank
  /-- The end of a field, which may be empty. -/
  | separator
  deriving DecidableEq

namespace Piece

def whole (quoted : Bool) (t : List Char) : List Piece :=
  (if quoted then [.present] else []) ++ t.map fun c => .character c quoted

/-- A text split at the characters that separate fields. -/
def split (separators : List Char) (t : List Char) : List Piece :=
  t.map fun c =>
    if separators.contains c then
      if c = ' ' ∨ c = '\t' ∨ c = '\n' then .blank else .separator
    else .character c false

def marked (pieces : List Piece) : List Glob.Marked :=
  pieces.filterMap fun p => match p with
    | .character c quoted => some (c, quoted)
    | .blank => some (' ', true)
    | _ => none

def text (pieces : List Piece) : String :=
  String.ofList ((marked pieces).map (·.1))

/-- The fields that pieces make up, from the one that is begun. After a blank that ends a field, a
separator ends no other one. -/
def fieldsFrom (begun : Option (List Glob.Marked)) (closed : Bool) :
    List Piece → List (List Glob.Marked)
  | [] => begun.toList
  | .character c quoted :: rest => fieldsFrom (some (begun.getD [] ++ [(c, quoted)])) false rest
  | .present :: rest => fieldsFrom (some (begun.getD [])) false rest
  | .blank :: rest =>
    match begun with
    | some w => w :: fieldsFrom none true rest
    | none => fieldsFrom none closed rest
  | .separator :: rest =>
    match begun with
    | some w => w :: fieldsFrom none false rest
    | none => if closed then fieldsFrom none false rest else [] :: fieldsFrom none false rest

def fields (pieces : List Piece) : List (List Glob.Marked) :=
  fieldsFrom none false pieces

/-- Splits a line into as many fields as there are names; the last one takes what is left, without
the blanks at its ends. -/
def lineFields (separators : List Char) : Nat → List (Char × Bool) → List (List Char)
  | 0, _ => []
  | n + 1, line =>
    let isBlank (c : Char × Bool) : Bool :=
      !c.2 && separators.contains c.1 && (c.1 = ' ' || c.1 = '\t' || c.1 = '\n')
    let isSeparator (c : Char × Bool) : Bool := !c.2 && separators.contains c.1
    let line := line.dropWhile isBlank
    let first := line.takeWhile (!isSeparator ·)
    let afterBlanks := (line.drop first.length).dropWhile isBlank
    let rest := match afterBlanks with
      | c :: more => if isSeparator c then more else afterBlanks
      | [] => []
    if n = 0 then
      let whole := (line.reverse.dropWhile isBlank).reverse
      let alone := (rest.dropWhile isBlank).isEmpty
      [(if alone then first else whole).map (·.1)]
    else first.map (·.1) :: lineFields separators n rest

end Piece

def dropFinalBreaks (t : List Char) : List Char :=
  (t.reverse.dropWhile (· = '\n')).reverse

end AgentLaunch.Shell
