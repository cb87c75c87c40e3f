import AgentLaunch.Tools.Input
import AgentLaunch.Tools.Quantity

/-!
# Tools for columns

Tools that break lines, set tabs, number lines, print pages, or show the bytes of a text.
-/

namespace AgentLaunch.Tools

open Shell (State)

namespace Fold

/-- Breaks a line so that no part is too wide; at blanks if that is possible and asked for. -/
def broken (atBlanks : Bool) (width : Nat) : Nat → List Char → List (List Char)
  | 0, l => [l]
  | n + 1, l =>
    if l.length ≤ width then [l]
    else
      let front := l.take width
      let kept := (front.reverse.dropWhile (· ≠ ' ')).reverse
      let part := if atBlanks ∧ kept ≠ [] then kept else front
      part :: broken atBlanks width n (l.drop part.length)

def width (r : Reading) : Nat :=
  let digits := r.given.filterMap fun g =>
    if g.key.toList.all isDigit then some (g.key ++ g.value.getD "") else none
  (((r.value? "w") <|> digits.getLast?).bind (Quantity.count? "")).getD 80

def text (r : Reading) (ts : List (List Char)) : String :=
  let whole := ts.flatten
  let t := unlines ((lines whole).flatMap fun l => broken (r.has "s") (width r) l.length l)
  if whole.getLast? = some '\n' then t else String.ofList t.toList.dropLast

def tool : Tool where
  letters := "bsw:0::1::2::3::4::5::6::7::8::9::"
  names := "bytes=b spaces=s width:=w help version"
  sound g :=
    match g.key.toList with
    | ['w'] => (g.value.map (Quantity.atLeast "" 1)).getD false
    | [c] => !isDigit c || Quantity.atLeast "" 1 (g.key ++ g.value.getD "")
    | _ => true
  run := filtering 1 text

end Fold

namespace Fmt

def isWidth (most : Nat) (t : String) : Bool :=
  (Quantity.count? "" t).any (· ≤ most)

def rewritten (args : List String) : List String :=
  match args with
  | first :: rest =>
    match first.toList with
    | '-' :: c :: more => if isDigit c then ("-w" ++ String.ofList (c :: more)) :: rest else args
    | _ => args
  | [] => []

def tool : Tool where
  letters := "cstuw:p:g:"
  names := "crown-margin=c prefix:=p split-only=s tagged-paragraph=t uniform-spacing=u width:=w " ++
    "goal:=g help version"
  rewritten := rewritten
  run s r :=
    let width := (r.value? "w").getD "75"
    let most := if (r.value? "w").isSome then
      min 2500 ((Quantity.count? "" width).getD 0) else 75
    if isWidth 2500 width && (r.value? "g").all (isWidth most) then
      filtering 1 (fun _ ts => String.ofList ts.flatten) s r
    else s.withStatus 1

end Fmt

namespace Tabs

/-- Whether a list names tab stops in ascending order. A slash or a plus stands only before the last
one. -/
def isList (t : String) : Bool :=
  let words := ((t.map fun c => if isBlank c then ',' else c).splitOn ",").filter (· ≠ "")
  let bare (w : String) : List Char :=
    match w.toList with
    | '/' :: rest | '+' :: rest => rest
    | rest => rest
  let values := words.map fun w => ofDigits 10 (bare w)
  let plain := words.dropLast
  words.all (fun w => (bare w).all isDigit) &&
    plain.all (fun w => w.toList.all isDigit) &&
    values.all (fun n => n ≤ maxWord) &&
    (words.zip values).all (fun (w, n) => n ≠ 0 || w.startsWith "/" || w.startsWith "+") &&
    ((values.zip (values.drop 1)).zip (words.drop 1)).all fun ((m, n), w) =>
      m < n || w.startsWith "/" || w.startsWith "+"

def isGiven (g : Given) : Bool :=
  match g.key.toList with
  | ['t'] => (g.value.map isList).getD false
  | [c] => !isDigit c || isList (g.key ++ g.value.getD "")
  | _ => true

/-- The width of a tab, if all have the same. -/
def width (r : Reading) : Nat :=
  match ((r.value? "t").bind (Quantity.count? "")) with
  | some n => max n 1
  | none => 8

/-- A line with blanks for its tabs, from a column on. -/
def expanded (width : Nat) : Nat → List Char → List Char
  | _, [] => []
  | k, '\t' :: rest =>
    let missing := width - k % width
    List.replicate missing ' ' ++ expanded width (k + missing) rest
  | k, c :: rest => c :: expanded width (if c = '\n' then 0 else k + 1) rest

/-- Work with tab stops, which all options together name in ascending order. -/
def stopping (body : State → Reading → State) (s : State) (r : Reading) : State :=
  if isList (String.intercalate "," (r.values "t")) then body s r else s.withStatus 1

def expand : Tool where
  letters := "it:0::1::2::3::4::5::6::7::8::9::"
  names := "tabs:=t initial=i help version"
  sound := isGiven
  run := stopping (filtering 1 fun r ts => String.ofList (expanded (width r) 0 ts.flatten))

def unexpand : Tool where
  letters := ",0123456789at:"
  names := "tabs:=t all=a first-only help version"
  sound := isGiven
  run := stopping (filtering 1 fun _ ts => String.ofList ts.flatten)

end Tabs

namespace Nl

/-- Whether a text names the lines to be numbered: all, those with a text, none, or those that an
expression fits. -/
def isStyle (t : String) : Bool :=
  ["a", "t", "n", "p"].any fun w => t.startsWith w

def isNumber (t : String) : Bool :=
  match (unindented t.toList) with
  | '-' :: rest | '+' :: rest | rest =>
    rest ≠ [] && rest.all isDigit && ofDigits 10 rest ≤ maxSigned

def tool : Tool where
  letters := "h:b:f:v:i:pl:s:w:n:d:"
  names := "header-numbering:=h body-numbering:=b footer-numbering:=f starting-line-number:=v " ++
    "line-increment:=i no-renumber=p join-blank-lines:=l number-separator:=s number-width:=w " ++
    "number-format:=n section-delimiter:=d help version"
  sound := ruled [("h", isStyle), ("b", isStyle), ("f", isStyle), ("v", isNumber),
    ("i", isNumber), ("l", Quantity.atLeast "" 1),
    ("w", fun t => (Quantity.count? "" t).any fun n => 1 ≤ n && n ≤ 2147483647),
    ("n", fun t => ["ln", "rn", "rz"].contains t)]
  run := filtering 1 fun r ts =>
    let ls := lines ts.flatten
    let all := (r.value? "b").any fun b => b.startsWith "a"
    let rec numbered (n : Nat) : List (List Char) → List String
      | [] => []
      | l :: rest =>
        if l = [] ∧ !all then String.ofList (List.replicate 7 ' ') :: numbered n rest
        else (padLeft 6 (toString n) ++ "\t" ++ String.ofList l) :: numbered (n + 1) rest
    String.join ((numbered 1 ls).map (· ++ "\n"))

end Nl

namespace Od

def letters : String := "bkKmMGTPEZYRQ0"

/-- A count in one of three bases, with a letter that scales it. -/
def count? (t : String) : Option Nat :=
  let scaled (base : Nat) (s : List Char) : Option Nat :=
    let digits := s.takeWhile fun c => digitValue c < base
    if digits = [] then none
    else (Quantity.scale? letters.toList (s.drop digits.length)).map (· * ofDigits base digits)
  match unindented t.toList with
  | '0' :: x :: rest => if x = 'x' ∨ x = 'X' then scaled 16 rest else scaled 8 ('0' :: x :: rest)
  | s => scaled 10 s

def isCount (t : String) : Bool :=
  (count? t).isSome

/-- Whether a text names formats of numbers and characters. -/
def isFormat : Nat → List Char → Bool
  | 0, _ | _, [] => true
  | n + 1, c :: rest =>
    let behind (t : List Char) : Bool := isFormat n (if t.head? = some 'z' then t.drop 1 else t)
    let sized (names : List Char) (sizes : List Nat) : Bool :=
      match rest with
      | d :: more =>
        if names.contains d then behind more
        else
          let digits := rest.takeWhile isDigit
          if digits = [] then behind rest
          else sizes.contains (ofDigits 10 digits) && behind (rest.drop digits.length)
      | [] => true
    if "ac".toList.contains c then behind rest
    else if "doux".toList.contains c then sized "CSIL".toList [1, 2, 4, 8]
    else if c = 'f' then sized "FDL".toList [4, 8, 16]
    else false

/-- The place that a word behind all files tells, in the older way. -/
def place? (w : String) : Option Nat :=
  let t := if w.startsWith "+" then w.toList.drop 1 else w.toList
  let (base, t) := match t with
    | '0' :: 'x' :: rest => (16, rest)
    | t => (8, t)
  let digits := t.takeWhile fun c => digitValue c < base
  match digits, t.drop digits.length with
  | [], _ => none
  | ds, [] => some (ofDigits base ds)
  | ds, ['b'] => some (ofDigits base ds * 512)
  | _, _ => none

/-- The files, and the place to begin at if it is told in the older way. -/
def placed (r : Reading) : List String × Option Nat :=
  let isNew := r.hasAny ["A", "j", "N", "t", "v", "S", "w"]
  let isOld := r.has "traditional"
  match r.operands with
  | [w] =>
    if (isOld ∨ w.startsWith "+") ∧ !isNew ∧ (place? w).isSome then ([], place? w) else ([w], none)
  | [a, w] =>
    if (isOld ∨ w.toList.head?.any fun c => c = '+' || isDigit c) ∧ !isNew ∧
        (place? w).isSome then ([a], place? w) else ([a, w], none)
  | ws => (ws, none)

/-- The bytes of a text as lines of numbers of two bytes each, behind their place. -/
def dump (t : List Char) : List String :=
  let bytes := (String.ofList t).toUTF8.toList.map UInt8.toNat
  let octal (width n : Nat) : String :=
    let digits := Nat.toDigits 8 n
    String.ofList (List.replicate (width - digits.length) '0' ++ digits)
  let word (k : Nat) : Nat := (bytes[k]?).getD 0 + 256 * (bytes[k + 1]?).getD 0
  let rows := (List.range ((bytes.length + 15) / 16)).map fun row =>
    let left := bytes.length - 16 * row
    octal 7 (16 * row) ++ String.join ((List.range ((min left 16 + 1) / 2)).map fun k =>
      " " ++ octal 6 (word (16 * row + 2 * k)))
  rows ++ [octal 7 bytes.length]

def tool : Tool where
  letters := "A:aBbcDdeFfHhIij:LlN:OoS:st:vw::Xx"
  names := "skip-bytes:=j address-radix:=A read-bytes:=N format:=t output-duplicates=v " ++
    "strings::=S traditional width::=w endian: help version"
  sound := ruled [("A", fun t => t.toList.head?.any fun c => "doxn".toList.contains c),
    ("j", isCount), ("N", isCount), ("w", isCount),
    ("S", fun t => (count? t).any (· ≤ maxSigned)),
    ("t", fun t => isFormat t.length t.toList), ("endian", isChoice ["little", "big"])]
  run s r :=
    let (paths, place?) := placed r
    let (ts, s) := texts 1 s paths
    let whole := ts.flatMap (·.2)
    let skipped := if paths = [] ∧ place?.isSome then 0
      else place?.getD (((r.value? "j").bind count?).getD 0)
    if skipped > whole.length then failed 1 s
    else sayLines s (dump (whole.drop skipped))

end Od

namespace Pr

def isPages (t : String) : Bool :=
  match t.splitOn ":" with
  | [a] => Quantity.atLeast "" 1 a
  | [a, b] => Quantity.atLeast "" 1 a && Quantity.atLeast "" 1 b &&
      (Quantity.count? "" a).getD 0 ≤ (Quantity.count? "" b).getD 0
  | _ => false

def isSize (t : String) : Bool :=
  (Quantity.count? "" t).any fun n => 1 ≤ n && n ≤ 2147483647

/-- A character and a width, each of which can be missing. -/
def isMarked (t : String) : Bool :=
  match t.toList with
  | [] => true
  | c :: rest =>
    let digits := if isDigit c then c :: rest else rest
    digits = [] || isSize (String.ofList digits)

def tool : Tool where
  letters := "0123456789D:FJN:S::TW:abcde::fh:i::l:mn::o:rs::tvw:"
  names := "pages: columns: across=a show-control-chars=c double-space=d date-format:=D " ++
    "expand-tabs::=e form-feed=f header:=h output-tabs::=i join-lines=J length:=l merge=m " ++
    "number-lines::=n first-line-number:=N indent:=o no-file-warnings=r separator::=s " ++
    "sep-string::=S omit-header=t omit-pagination=T show-nonprinting=v width:=w page-width:=W " ++
    "help version"
  sound := ruled [("pages", isPages), ("columns", isSize), ("l", isSize), ("w", isSize),
    ("W", isSize), ("e", isMarked), ("i", isMarked), ("n", isMarked),
    ("N", fun t => match t.toList with
      | '-' :: rest => isSize (String.ofList rest)
      | _ => (Quantity.count? "" t).any (· ≤ 2147483647)),
    ("o", fun t => (Quantity.count? "" t).any (· ≤ 2147483647))]
  run s r :=
    let columns := r.has "columns" || r.given.any fun g => g.key.toList.all isDigit
    let paths := r.operands.filter fun p => !(p.startsWith "+" && isPages (p.drop 1).toString)
    if r.has "m" && (columns || r.has "a") then s.withStatus 1
    else
      let (ts, s) := texts 1 s paths
      s.say (String.ofList (ts.flatMap (·.2)))

end Pr

namespace Ptx

def tool : Tool where
  letters := "AF:GM:ORS:TW:b:i:fg:o:trw:"
  names := "auto-reference=A break-file:=b flag-truncation:=F ignore-case=f gap-size:=g " ++
    "ignore-file:=i macro-name:=M only-file:=o references=r right-side-refs=R format: " ++
    "sentence-regexp:=S traditional=G typeset-mode=t width:=w word-regexp:=W help version"
  sound := ruled [("g", Quantity.atLeast "" 1), ("w", Quantity.atLeast "" 1),
    ("format", isChoice ["roff", "tex"])]
  run s r :=
    let (ts, s) := texts 1 s r.operands
    s.say (String.ofList (ts.flatMap (·.2)))

end Ptx

end AgentLaunch.Tools
