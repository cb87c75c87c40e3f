import AgentLaunch.Awk.Value
import AgentLaunch.Shell.Format

/-!
# Formats for values

How values are set in the places that a format has for them. A format takes no more values than
there are.
-/

namespace AgentLaunch.Awk.Format

open Shell.Format (Layout)

/-- A count in a format, which a value can give; nothing if there is none. -/
def count? (vs : List Value) : List Char → Option (Nat × List Value × List Char)
  | '*' :: rest =>
    match vs with
    | v :: vs => some ((Value.machineInt v.toNumber).toNat, vs, rest)
    | [] => none
  | t =>
    let digits := t.takeWhile Char.isDigit
    some (Tools.ofDigits 10 digits, vs, t.drop digits.length)

def sign (l : Layout) (negative : Bool) : List Char :=
  if negative then ['-'] else if l.plus then ['+'] else if l.space then [' '] else []

def placed? (l : Layout) (conversion : Char) (format : Char × Nat) (v : Value) :
    Option (List Char) :=
  let x := v.toNumber
  match conversion with
  | 's' => some (l.text (v.shown format))
  | 'c' =>
    some (l.text (match v with
      | .number x => [Char.ofNat ((Value.machineInt x) % 256).toNat]
      | v => (v.shown format).take 1))
  | 'd' | 'i' | 'u' | 'x' | 'X' | 'o' =>
    match x.truncated? with
    | some _ => some (Shell.Format.shown l (if conversion = 'i' then 'd' else conversion)
        (Value.machineInt x))
    | none => some (l.pad (sign l x.isNegative) (x.display 'f' 0 false).toList false)
  | 'e' | 'f' | 'g' | 'E' | 'F' | 'G' =>
    let t := (x.display conversion.toLower (l.precision.getD 6) l.marked).toList
    let t := if conversion.isUpper then t.map Char.toUpper else t
    some (l.pad (sign l x.isNegative) t (l.zeros && x.ratio?.isSome))
  | _ => none

/-- A format with values in their places; nothing if a value is missing or there is no such place.
The number bounds how many parts the format has. -/
def fill? (format : Char × Nat) : Nat → List Char → List Value → Option (List Char)
  | 0, _, _ => none
  | _, [], _ => some []
  | n + 1, '%' :: '%' :: rest, vs => do
    return '%' :: (← fill? format n rest vs)
  | n + 1, '%' :: rest, vs => do
    let (l, rest) := Layout.flags ⟨false, false, false, false, false, 0, none⟩ rest
    let (width, vs, rest) ← count? vs rest
    let (precision, vs, rest) ← match rest with
      | '.' :: rest => (count? vs rest).map fun (k, vs, rest) => (some k, vs, rest)
      | _ => some (none, vs, rest)
    let l := { l with width := width, precision := precision }
    match rest.dropWhile (fun c => c = 'l' || c = 'h'), vs with
    | conversion :: rest, v :: vs =>
      return (← placed? l conversion format v) ++ (← fill? format n rest vs)
    | _, _ => none
  | n + 1, c :: rest, vs => do
    return c :: (← fill? format n rest vs)

end AgentLaunch.Awk.Format
