import AgentLaunch.Tools.Lines

/-!
# Sorting

Lines are compared key by key; if no key tells them apart, all their characters do.
-/

namespace AgentLaunch.Tools.Sort

open Shell (State)

/-- A place in a line: a field, and a character of it. Zero stands for the last one. -/
structure Place where
  field : Nat
  character : Nat

/-- A part of a line, and how it is compared. -/
structure Key where
  first : Place
  last : Option Place
  order : List Char

def orders : List Char := "bdfghiMnRrV".toList

def place? (least : Nat) (t : List Char) : Option (Place × List Char) :=
  let digits := t.takeWhile isDigit
  let rest := t.drop digits.length
  if digits = [] ∨ ofDigits 10 digits = 0 then none
  else match rest with
    | '.' :: behind =>
      let more := behind.takeWhile isDigit
      if more = [] ∨ ofDigits 10 more < least then none
      else some (⟨ofDigits 10 digits, ofDigits 10 more⟩, behind.drop more.length)
    | _ => some (⟨ofDigits 10 digits, least⟩, rest)

def key? (t : String) : Option Key := do
  let (first, rest) ← place? 1 t.toList
  let order := rest.takeWhile orders.contains
  match rest.drop order.length with
  | [] => return ⟨first, none, order⟩
  | ',' :: rest =>
    let (last, rest) ← place? 0 rest
    if rest.all orders.contains then return ⟨first, some last, order ++ rest⟩ else none
  | _ => none

/-- The character between fields, if a text names one. -/
def separator? (t : String) : Option Char :=
  match t.toList with
  | [c] => some c
  | ['\\', '0'] => some '\x00'
  | _ => none

/-- The fields of a line, each with the blanks in front of it. The number bounds how many there
are. -/
def blankFields : Nat → List Char → List (List Char)
  | 0, _ | _, [] => []
  | n + 1, l =>
    let blanks := l.takeWhile isBlank
    let word := (l.drop blanks.length).takeWhile (!isBlank ·)
    (blanks ++ word) :: blankFields n (l.drop (blanks.length + word.length))

/-- The fields of a line: what is between separators. -/
def fields (separator : Option Char) (l : List Char) : List (List Char) :=
  match separator with
  | some c =>
    let (part, later) := l.foldr (fun d (part, later) =>
      if d = c then ([], part :: later) else (d :: part, later)) ([], [])
    part :: later
  | none => blankFields l.length l

/-- The part of a line that a key is about. -/
def part (separator : Option Char) (k : Key) (l : List Char) : List Char :=
  let fs := fields separator l
  let between := if separator.isSome then 1 else 0
  let upTo (n : Nat) : Nat := ((fs.take n).map fun f => f.length + between).foldl (· + ·) 0
  let trimmed (t : List Char) : List Char := if k.order.contains 'b' then unindented t else t
  let begin := upTo (k.first.field - 1)
  let skipped := (l.drop begin).length - (trimmed (l.drop begin)).length
  let begin := begin + skipped + (k.first.character - 1)
  let finish := match k.last with
    | none => l.length
    | some p =>
      if p.character = 0 then upTo p.field - between
      else upTo (p.field - 1) + p.character
  (l.take finish).drop begin

/-- The number in front of a text, in units of a millionth. -/
def value (t : List Char) : Int :=
  let front := unindented t
  let (negative, digits) := match front with
    | '-' :: rest => (true, rest)
    | _ => (false, front)
  let whole := digits.takeWhile isDigit
  let places := match digits.drop whole.length with
    | '.' :: rest => rest.takeWhile isDigit
    | _ => []
  let n := ofDigits 10 whole * 1000000 + ofDigits 10 ((places ++ List.replicate 6 '0').take 6)
  if negative then -Int.ofNat n else Int.ofNat n

def months : List String :=
  ["JAN", "FEB", "MAR", "APR", "MAY", "JUN", "JUL", "AUG", "SEP", "OCT", "NOV", "DEC"]

def month (t : List Char) : Int :=
  let name := String.ofList (((unindented t).take 3).map Char.toUpper)
  if months.contains name then Int.ofNat (months.idxOf name + 1) else 0

def scaledValue (t : List Char) : Int :=
  let front := (unindented t).dropWhile fun c => c = '-' || c = '.' || isDigit c
  value t * Int.ofNat (Nat.pow 1024 ((front.head?.bind Quantity.steps).getD 0))

/-- Digits as one number, and every other character on its own. -/
def versionParts : Nat → List Char → List Nat
  | 0, _ | _, [] => []
  | n + 1, c :: rest =>
    if isDigit c then
      let digits := (c :: rest).takeWhile isDigit
      (1000 + ofDigits 10 digits) :: versionParts n ((c :: rest).drop digits.length)
    else (c.toNat + if c.isAlpha then 1000000 else 2000000) :: versionParts n rest

def compareTexts (a b : List Char) : Ordering :=
  compare (String.ofList a) (String.ofList b)

def compareParts (order a b : List Char) : Ordering :=
  let seen (t : List Char) : List Char :=
    let t := if order.contains 'd' then t.filter fun c => c.isAlphanum || isBlank c else t
    let t := if order.contains 'i' then t.filter fun c => ' ' ≤ c && c ≤ '~' else t
    if order.contains 'f' then t.map Char.toUpper else t
  if order.contains 'n' ∨ order.contains 'g' then compare (value a) (value b)
  else if order.contains 'h' then compare (scaledValue a) (scaledValue b)
  else if order.contains 'M' then compare (month a) (month b)
  else if order.contains 'V' then compare (versionParts a.length a) (versionParts b.length b)
  else compareTexts (seen a) (seen b)

structure Plan where
  keys : List Key
  separator : Option Char
  backwards : Bool
  stable : Bool
  unique : Bool

/-- The letters of orders that hold for whole lines, and for keys without letters. -/
def general (r : Reading) : List Char :=
  let named := match r.value? "sort" with
    | some w => ([("general-numeric", 'g'), ("human-numeric", 'h'), ("month", 'M'),
        ("numeric", 'n'), ("random", 'R'), ("version", 'V')].filter fun p =>
          p.1.startsWith w).map (·.2)
    | none => []
  (orders.filter fun c => r.has (String.singleton c)) ++ named

def plan (r : Reading) : Plan :=
  let general := general r
  let keys := (r.values "k").filterMap key?
  let whole : Key := ⟨⟨1, 1⟩, none, general⟩
  let inherit (k : Key) : Key := if k.order = [] then { k with order := general } else k
  let found := if keys = [] then (if general.filter (· ≠ 'r') = [] then [] else [whole])
    else keys.map inherit
  ⟨found, (r.value? "t").bind separator?, general.contains 'r', r.has "s", r.has "u"⟩

def Plan.compareKeys (p : Plan) (a b : List Char) : Ordering :=
  if p.keys = [] then (if p.backwards then (compareTexts a b).swap else compareTexts a b)
  else p.keys.foldl (fun found k =>
    found.then (
      let o := compareParts k.order (part p.separator k a) (part p.separator k b)
      if k.order.contains 'r' then o.swap else o)) .eq

def Plan.compare (p : Plan) (a b : List Char) : Ordering :=
  let byKeys := p.compareKeys a b
  if p.keys = [] ∨ p.stable ∨ p.unique then byKeys
  else byKeys.then (if p.backwards then (compareTexts a b).swap else compareTexts a b)

/-- Leaves out lines that are equal to the one in front of them. -/
def Plan.distinct (p : Plan) : List (List Char) → List (List Char)
  | [] => []
  | l :: rest =>
    match p.distinct rest with
    | m :: more => if p.compareKeys l m = .eq then l :: more else l :: m :: more
    | [] => [l]

def Plan.inOrder (p : Plan) (ls : List (List Char)) : Bool :=
  (ls.zip (ls.drop 1)).all fun (a, b) =>
    let o := p.compare a b
    o = .lt || (o = .eq && !p.unique)

def Plan.sorted (p : Plan) (ls : List (List Char)) : List (List Char) :=
  let sorted := ls.mergeSort fun a b => p.compare a b != .gt
  if p.unique then p.distinct sorted else sorted

def clashes (order : List Char) : Bool :=
  let ignoring := order.contains 'd' || order.contains 'i'
  let kinds := ("ghnM".toList.filter order.contains).length +
    (if ignoring || order.contains 'R' || order.contains 'V' then 1 else 0)
  kinds > 1

def isSize (t : String) : Bool :=
  let digits := t.toList.takeWhile isDigit
  let rest := t.toList.drop digits.length
  digits ≠ [] && (rest = [] || (rest.length = 1 && rest.all "%bKkMGTPEZY".toList.contains))

/-- Whether a word is a key in the old form. -/
def isOldKey (w : String) : Bool :=
  match w.toList with
  | '+' :: c :: rest =>
    isDigit c && (rest.dropWhile fun d => isDigit d || d = '.').all orders.contains
  | _ => false

/-- How it was asked whether a text is sorted. -/
def checks (r : Reading) : List String :=
  r.given.filterMap fun g =>
    if g.key = "c" then some "c" else if g.key = "C" then some "C"
    else if g.key = "check" then
      match g.value with
      | none => some "c"
      | some v => if v ≠ "" ∧ "diagnose-first".startsWith v then some "c" else some "C"
    else none

def run (s : State) (r : Reading) : State :=
  let p := plan r
  let paths := r.operands.filter (!isOldKey ·)
  let asked := checks r
  let mark := lineMark r "z"
  let outputs := r.values "o"
  if p.keys.any fun k => clashes k.order then s.withStatus 2
  else if asked.eraseDups.length > 1 ∨ outputs.eraseDups.length > 1 ∨
      (r.values "t").eraseDups.length > 1 then s.withStatus 2
  else if asked ≠ [] ∧ (paths.length > 1 ∨ outputs ≠ []) then s.withStatus 2
  else
    let (paths?, s) := match r.value? "files0-from" with
      | none => (some paths, s)
      | some source => if paths ≠ [] then (none, s) else Wc.listed s source
    match paths? with
    | none => s.withStatus 2
    | some paths =>
      let (ts, s) := texts 2 s paths
      if s.status ≠ 0 then s
      else
        let ls := ts.flatMap fun t => partsAt mark t.2
        if asked ≠ [] then s.withStatus (if p.inOrder ls then 0 else 1)
        else
          let t := joined mark (p.sorted ls)
          match outputs with
          | [] => s.say t
          | path :: _ =>
            match s.openForWriting? 9 false path with
            | some opened => ((opened.write? 9 t.toList).getD opened).close 9
            | none => s.withStatus 2

def tool : Tool where
  letters := "bcCdfghik:mMno:rRsS:t:T:uVy:z"
  names := "ignore-leading-blanks=b check:: compress-program: debug dictionary-order=d " ++
    "ignore-case=f files0-from: general-numeric-sort=g ignore-nonprinting=i key:=k merge=m " ++
    "month-sort=M numeric-sort=n human-numeric-sort=h version-sort=V random-sort=R " ++
    "random-source: sort: output:=o reverse=r stable=s batch-size: buffer-size:=S " ++
    "field-separator:=t temporary-directory:=T unique=u zero-terminated=z parallel: help version"
  usage := 2
  unsound := fun g => if g.key = "check" ∨ g.key = "sort" then 1 else 2
  sound := ruled [("k", fun t => (key? t).isSome), ("t", fun t => (separator? t).isSome),
    ("check", isChoice ["quiet", "silent", "diagnose-first"]),
    ("sort", isChoice ["general-numeric", "human-numeric", "month", "numeric", "random",
      "version"]),
    ("S", isSize), ("batch-size", Quantity.atLeast "" 2), ("parallel", Quantity.atLeast "" 1)]
  run := run

end AgentLaunch.Tools.Sort
