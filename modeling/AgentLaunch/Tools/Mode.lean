import AgentLaunch.Tools.Quantity

/-!
# Modes of files

How a change of the permissions of a file is written: as an octal number, or in clauses that say who
gains or loses what.
-/

namespace AgentLaunch.Tools.Mode

/-- An operation of a clause on the permissions of some. -/
structure Change where
  who : List Char
  operator : Char
  what : List Char

/-- The operations behind those that a clause is about. The number bounds how many there are. -/
def operations? (who : List Char) : Nat → List Char → Option (List Change)
  | 0, _ => none
  | _, [] => some []
  | n + 1, c :: rest =>
    if c ≠ '+' ∧ c ≠ '-' ∧ c ≠ '=' then none
    else
      let digits := rest.takeWhile fun d => '0' ≤ d && d ≤ '7'
      let copied := rest.takeWhile "ugo".toList.contains
      let letters := rest.takeWhile "rwxXst".toList.contains
      if digits ≠ [] then
        if who ≠ [] ∨ ofDigits 8 digits > 4095 ∨ digits.length < rest.length then none
        else some [⟨[], c, digits⟩]
      else if copied.length > 1 then none
      else
        let what := if copied ≠ [] then copied else letters
        (operations? who n (rest.drop what.length)).map (⟨who, c, what⟩ :: ·)

def clause? (t : List Char) : Option (List Change) :=
  let who := t.takeWhile "ugoa".toList.contains
  let rest := t.drop who.length
  if rest = [] then none else operations? who (rest.length + 1) rest

def read? (t : String) : Option (List Change) :=
  let octal := t ≠ "" && t.toList.all fun c => '0' ≤ c && c ≤ '7'
  if octal then
    if ofDigits 8 t.toList > 4095 then none else some [⟨[], '=', t.toList⟩]
  else ((t.splitOn ",").mapM fun w => clause? w.toList).map List.flatten

/-- Whether a file can be executed after a change. -/
def Change.executable (before : Bool) (change : Change) : Bool :=
  let digits := change.what ≠ [] && change.what.all isDigit
  let named := if digits then
      let n := ofDigits 8 change.what
      n % 2 = 1 || n / 8 % 2 = 1 || n / 64 % 2 = 1
    else change.what.contains 'x' || (change.what.any "Xugo".toList.contains && before)
  let all := change.who = [] || change.who.contains 'a' ||
    ['u', 'g', 'o'].all change.who.contains
  match change.operator with
  | '+' => before || named
  | '-' => before && !(named && all)
  | _ => named || (before && !all)

/-- Whether a file can be executed after all changes. -/
def executable (changes : List Change) (before : Bool) : Bool :=
  changes.foldl Change.executable before

end AgentLaunch.Tools.Mode
