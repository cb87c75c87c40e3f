/-!
# Formats

How texts with escapes and formats are written out.
-/

namespace AgentLaunch.Shell.Format

def isOctal (c : Char) : Bool :=
  '0' ≤ c && c ≤ '7'

def ofOctal (digits : List Char) : Char :=
  Char.ofNat (digits.foldl (fun n c => n * 8 + (c.toNat - 48)) 0 % 256)

/-- The character that an escape stands for, behind its backslash. -/
def escape? : List Char → Option (Char × List Char)
  | 'a' :: rest => some ('\x07', rest)
  | 'b' :: rest => some ('\x08', rest)
  | 'f' :: rest => some ('\x0c', rest)
  | 'n' :: rest => some ('\n', rest)
  | 'r' :: rest => some ('\r', rest)
  | 't' :: rest => some ('\t', rest)
  | 'v' :: rest => some ('\x0b', rest)
  | '\\' :: rest => some ('\\', rest)
  | s =>
    let digits := (s.take 3).takeWhile isOctal
    if digits = [] then none else some (ofOctal digits, s.drop digits.length)

/-- A text with its escapes carried out, up to one that ends all output, and whether there was none
like that. The number bounds how many characters there are. -/
def unescape : Nat → List Char → List Char × Bool
  | 0, _ | _, [] => ([], true)
  | _ + 1, '\\' :: 'c' :: _ => ([], false)
  | n + 1, '\\' :: '0' :: rest =>
    let digits := (rest.take 3).takeWhile isOctal
    let (t, complete) := unescape n (rest.drop digits.length)
    (ofOctal digits :: t, complete)
  | n + 1, '\\' :: rest =>
    let (c, rest) := (escape? rest).getD ('\\', rest)
    let (t, complete) := unescape n rest
    (c :: t, complete)
  | n + 1, c :: rest =>
    let (t, complete) := unescape n rest
    (c :: t, complete)

def line (words : List String) (escapes : Bool) : List Char :=
  let (words, final) := match words with
    | "-n" :: rest => (rest, [])
    | _ => (words, ['\n'])
  let text := (String.intercalate " " words).toList
  if escapes then
    let (t, complete) := unescape text.length text
    if complete then t ++ final else t
  else text ++ final

/-- How a value is set in its place. -/
structure Layout where
  toLeft : Bool
  zeros : Bool
  plus : Bool
  space : Bool
  marked : Bool
  width : Nat
  precision : Option Nat

namespace Layout

def flags : Layout → List Char → Layout × List Char
  | l, '-' :: rest => flags { l with toLeft := true } rest
  | l, '0' :: rest => flags { l with zeros := true } rest
  | l, '+' :: rest => flags { l with plus := true } rest
  | l, ' ' :: rest => flags { l with space := true } rest
  | l, '#' :: rest => flags { l with marked := true } rest
  | l, rest => (l, rest)

def pad (l : Layout) (sign t : List Char) (zeros : Bool) : List Char :=
  let missing := l.width - sign.length - t.length
  if l.toLeft then sign ++ t ++ List.replicate missing ' '
  else if zeros then sign ++ List.replicate missing '0' ++ t
  else List.replicate missing ' ' ++ sign ++ t

def text (l : Layout) (t : List Char) : List Char :=
  l.pad [] (match l.precision with
    | some n => t.take n
    | none => t) false

def number (l : Layout) (sign digits : List Char) : List Char :=
  let zeros := List.replicate ((l.precision.getD 1) - digits.length) '0'
  l.pad sign (zeros ++ digits) (l.zeros && l.precision.isNone)

end Layout

/-- The number in front of a text, in one of three bases, and whether it is all of the text. -/
def number (t : String) : Int × Bool :=
  let digits (base : Nat) (s : List Char) : Nat × Bool :=
    let value (c : Char) : Nat :=
      if c.isDigit then c.toNat - 48 else if c.isAlpha then c.toLower.toNat - 87 else base
    let front := s.takeWhile fun c => value c < base
    (front.foldl (fun n c => n * base + value c) 0, front.length = s.length && front ≠ [])
  let unsigned (s : List Char) : Nat × Bool :=
    match s with
    | '0' :: 'x' :: rest | '0' :: 'X' :: rest => digits 16 rest
    | '0' :: _ => digits 8 s
    | _ => digits 10 s
  match t.toList.dropWhile Char.isWhitespace with
  | '-' :: rest => (-Int.ofNat (unsigned rest).1, (unsigned rest).2)
  | '+' :: rest => (Int.ofNat (unsigned rest).1, (unsigned rest).2)
  | ['\'', c] | ['"', c] => (Int.ofNat c.toNat, true)
  | rest => (Int.ofNat (unsigned rest).1, (unsigned rest).2)

/-- A number as a text. Negative ones wrap around where there is no sign. -/
def shown (l : Layout) (conversion : Char) (n : Int) : List Char :=
  let wrapped := (n % 18446744073709551616).toNat
  match conversion with
  | 'x' | 'X' =>
    let digits := Nat.toDigits 16 wrapped
    let digits := if conversion = 'X' then digits.map Char.toUpper else digits
    l.number (if l.marked ∧ wrapped ≠ 0 then ['0', conversion] else []) digits
  | 'o' => l.number (if l.marked then ['0'] else []) (Nat.toDigits 8 wrapped)
  | 'u' => l.number [] (Nat.toDigits 10 wrapped)
  | _ =>
    let sign := if n < 0 then ['-'] else if l.plus then ['+'] else if l.space then [' '] else []
    l.number sign (Nat.toDigits 10 n.natAbs)

/-- What is known while a format is written out. -/
structure Progress where
  output : List Char
  arguments : List String
  sound : Bool
  done : Bool

/-- A count in a format, which an argument can give. -/
def count (p : Progress) : List Char → Nat × Progress × List Char
  | '*' :: rest =>
    ((number (p.arguments.headD "0")).1.toNat, { p with arguments := p.arguments.tail }, rest)
  | s =>
    let digits := s.takeWhile Char.isDigit
    (digits.foldl (fun n c => n * 10 + (c.toNat - 48)) 0, p, s.drop digits.length)

/-- One use of a format. The number bounds how many parts it has. -/
def once : Nat → List Char → Progress → Progress
  | 0, _, p | _, [], p => p
  | n + 1, '\\' :: rest, p =>
    let (c, rest) := (escape? rest).getD ('\\', rest)
    once n rest { p with output := p.output ++ [c] }
  | n + 1, '%' :: '%' :: rest, p => once n rest { p with output := p.output ++ ['%'] }
  | n + 1, '%' :: rest, p =>
    let (l, rest) := Layout.flags ⟨false, false, false, false, false, 0, none⟩ rest
    let (width, p, rest) := count p rest
    let (precision, p, rest) := match rest with
      | '.' :: rest =>
        let (k, p, rest) := count p rest
        (some k, p, rest)
      | _ => (none, p, rest)
    let l := { l with width := width, precision := precision }
    match rest with
    | [] => { p with sound := false, done := true }
    | conversion :: rest =>
      let argument := p.arguments.headD ""
      let taken := { p with arguments := p.arguments.tail }
      if conversion = 's' then
        once n rest { taken with output := p.output ++ l.text argument.toList }
      else if conversion = 'c' then
        once n rest { taken with output := p.output ++ l.text (argument.toList.take 1) }
      else if conversion = 'b' then
        let (t, complete) := unescape argument.length argument.toList
        let taken := { taken with output := p.output ++ l.text t }
        if complete then once n rest taken else { taken with done := true }
      else if "diouxX".toList.contains conversion then
        let (value, sound) := if p.arguments = [] then (0, true) else number argument
        once n rest { taken with
          output := p.output ++ shown l conversion value
          sound := p.sound && sound }
      else { p with sound := false, done := true }
  | n + 1, c :: rest, p => once n rest { p with output := p.output ++ [c] }

/-- Uses a format until no argument is left, but not again if it takes none. -/
def repeatedly (format : List Char) : Nat → Progress → Progress
  | 0, p => p
  | n + 1, p =>
    let q := once format.length format p
    if q.done ∨ q.arguments = [] ∨ q.arguments.length = p.arguments.length then q
    else repeatedly format n q

/-- What a format makes of arguments, and whether all went well. -/
def apply (format : String) (arguments : List String) : List Char × Bool :=
  let p := repeatedly format.toList (arguments.length + 1) ⟨[], arguments, true, false⟩
  (p.output, p.sound)

end AgentLaunch.Shell.Format
