import AgentLaunch.Tools.Sort

/-!
# Tools for sorted texts

Tools that look at neighbouring lines of one text, or go through two sorted texts side by side.
-/

namespace AgentLaunch.Tools

open Shell (State)

/-- Writes a text to a file, or to the output if there is no path. -/
def deliver (code : Nat) (s : State) (path : Option String) (t : String) : State :=
  match path with
  | none => s.say t
  | some "-" => s.say t
  | some path =>
    match s.openForWriting? 9 false path with
    | some opened => ((opened.write? 9 t.toList).getD opened).close 9
    | none => s.withStatus code

namespace Uniq

/-- Lines with how often they stand one behind the other. -/
def runs (same : List Char → List Char → Bool) : List (List Char) → List (List (List Char))
  | [] => []
  | l :: rest =>
    match runs same rest with
    | (m :: run) :: more => if same l m then (l :: m :: run) :: more else [l] :: (m :: run) :: more
    | found => [l] :: found

def key (r : Reading) (l : List Char) : List Char :=
  let number (k : String) : Nat := ((r.value? k).bind (Quantity.count? "")).getD 0
  let behind := ((Sort.blankFields l.length l).drop (number "f")).flatten
  let t := behind.drop (number "s")
  let t := if (r.value? "w").isSome then t.take (number "w") else t
  if r.has "i" then t.map Char.toUpper else t

def text (r : Reading) (t : List Char) : String :=
  let mark := lineMark r "z"
  let found := runs (fun a b => key r a = key r b) (partsAt mark t)
  let kept := found.filter fun run =>
    (!r.hasAny ["d", "D"] || run.length > 1) && (!r.has "u" || run.length = 1)
  let shown (run : List (List Char)) : List (List Char) :=
    if r.hasAny ["D", "group"] then run
    else (run.take 1).map fun l =>
      if r.has "c" then (padLeft 7 (toString run.length) ++ " ").toList ++ l else l
  joined mark (kept.flatMap shown)

def tool : Tool where
  letters := "0123456789Dcdf:is:uw:z"
  rewritten args := args.map fun w =>
    if w.startsWith "+" ∧ w ≠ "+" ∧ (w.toList.drop 1).all isDigit then
      "-s" ++ (w.drop 1).toString else w
  names := "count=c repeated=d all-repeated::=D group:: ignore-case=i unique=u skip-fields:=f " ++
    "skip-chars:=s check-chars:=w zero-terminated=z help version"
  sound := ruled [("f", fun t => (Quantity.count? "" t).isSome),
    ("s", fun t => (Quantity.count? "" t).isSome), ("w", fun t => (Quantity.count? "" t).isSome),
    ("D", isChoice ["none", "prepend", "separate"]),
    ("group", isChoice ["prepend", "append", "separate", "both"])]
  run := counted 0 (some 2) 1 fun s r =>
    if (r.has "group" && r.hasAny ["c", "d", "D", "u"]) || (r.has "c" && r.has "D") then
      s.withStatus 1
    else match textAt s (r.operands.headD "-") with
      | (some t, s) => deliver 1 s r.operands[1]? (text r t)
      | (none, s) => s.withStatus 1

end Uniq

/-- Goes through two lists of lines side by side, as long as there is any line: what is shown, and
whether each list is in order. The order is looked at behind the first line without a counterpart,
or from the start if that is asked for. -/
def sideBySide (compareLines : List Char → List Char → Ordering) (strict : Bool)
    (shown : Ordering → List Char → List Char → List String) :
    Nat → Bool → List (List Char) → List (List Char) → List String × Bool
  | 0, _, _, _ | _, _, [], [] => ([], true)
  | n + 1, unpaired, a, b =>
    let o : Ordering := match a, b with
      | [], _ => .gt
      | _, [] => .lt
      | l :: _, m :: _ => compareLines l m
    let unpaired := unpaired || o != .eq
    let ordered (ls : List (List Char)) : Bool :=
      match ls with
      | l :: m :: _ => !(strict || unpaired) || compareLines l m != .gt
      | _ => true
    let (as, sa) := if o = .gt then (a, true) else (a.drop 1, ordered a)
    let (bs, sb) := if o = .lt then (b, true) else (b.drop 1, ordered b)
    let line := shown o (a.headD []) (b.headD [])
    if strict && !(sa && sb) then (line, false)
    else
      let (rest, sound) := sideBySide compareLines strict shown n unpaired as bs
      (line ++ rest, sa && sb && sound)

/-- The two texts that a tool is given. -/
def pair? (s : State) (r : Reading) : Option (List Char × List Char) × State :=
  match r.operands with
  | [a, b] =>
    match textAt s a with
    | (none, s) => (none, s)
    | (some t, s) =>
      match textAt s b with
      | (none, s) => (none, s)
      | (some u, s) => (some (t, u), s)
  | _ => (none, s)

namespace Comm

def run (s : State) (r : Reading) : State :=
  match pair? s r with
  | (none, s) => s.withStatus 1
  | (some (a, b), s) =>
    let mark := lineMark r "z"
    let between := (r.value? "output-delimiter").getD "\t"
    let hidden (k : String) : Bool := r.has k
    let shown (o : Ordering) (l m : List Char) : List String :=
      let indent (ks : List String) : String :=
        String.join ((ks.filter (!hidden ·)).map fun _ => between)
      match o with
      | .lt => if hidden "1" then [] else [String.ofList l]
      | .gt => if hidden "2" then [] else [indent ["1"] ++ String.ofList m]
      | .eq => if hidden "3" then [] else [indent ["1", "2"] ++ String.ofList l]
    let la := partsAt mark a
    let lb := partsAt mark b
    let (ls, sound) := sideBySide Sort.compareTexts (r.has "check-order") shown
      (la.length + lb.length + 1) false la lb
    let s := sayLines s ls
    s.withStatus (if sound || r.has "nocheck-order" then 0 else 1)

def tool : Tool where
  letters := "123z"
  names := "check-order nocheck-order output-delimiter: total zero-terminated=z help version"
  run s r :=
    if (r.values "output-delimiter").eraseDups.length > 1 then s.withStatus 1
    else counted 2 (some 2) 1 run s r

end Comm

namespace Join

def isField (t : String) : Bool :=
  (Quantity.count? "" t).any (· ≥ 1)

def isSide (t : String) : Bool :=
  (Quantity.count? "" t).any fun n => n = 1 || n = 2

/-- Whether a list names fields of the output. -/
def isLayout (t : String) : Bool :=
  t = "auto" || (((t.map fun c => if isBlank c then ',' else c).splitOn ",").all fun w =>
    w = "0" || match w.splitOn "." with
      | [side, field] => (side = "1" || side = "2") && isField field
      | _ => false)

def isSeparator (t : String) : Bool :=
  t = "" || t.length = 1 || t = "\\0"

def run (s : State) (r : Reading) : State :=
  match pair? s r with
  | (none, s) => s.withStatus 1
  | (some (a, b), s) =>
    let mark := lineMark r "z"
    let separator := (r.value? "t").bind fun t =>
      if t = "" then some '\n' else Sort.separator? t
    let field (side : String) : Nat :=
      ((r.value? side <|> r.value? "j").bind (Quantity.count? "")).getD 1
    let words (l : List Char) : List (List Char) :=
      (Sort.fields separator l).map fun f => if separator.isNone then unindented f else f
    let key (side : String) (l : List Char) : List Char :=
      let k := ((words l)[field side - 1]?).getD []
      if r.has "i" then k.map Char.toUpper else k
    let la := (partsAt mark a).map fun l => (key "1" l, l)
    let lb := (partsAt mark b).map fun l => (key "2" l, l)
    let ordered (ls : List (List Char × List Char)) : Bool :=
      (ls.zip (ls.drop 1)).all fun (l, m) => Sort.compareTexts l.1 m.1 != .gt
    let (keysA, keysB) := (la.map (·.1), lb.map (·.1))
    let unpaired := !la.isEmpty && !lb.isEmpty &&
      (keysA.any (!keysB.contains ·) || keysB.any (!keysA.contains ·))
    let between := String.singleton (separator.getD ' ')
    let others (side : String) (l : List Char) : List String :=
      ((words l).eraseIdx (field side - 1)).map String.ofList
    let line (k : List Char) (parts : List String) : String :=
      String.intercalate between (String.ofList k :: parts)
    let asked (key side : String) : Bool := (r.values key).contains side
    let alone (side : String) (ls : List (List Char × List Char)) (other : List (List Char)) :
        List String :=
      if asked "a" side || asked "v" side then
        (ls.filter fun l => !other.contains l.1).map fun l => line l.1 (others side l.2)
      else []
    let paired := if (r.values "v") ≠ [] then []
      else la.flatMap fun l => (lb.filter fun m => m.1 = l.1).map fun m =>
        line l.1 (others "1" l.2 ++ others "2" m.2)
    let s := sayLines s (paired ++ alone "1" la keysB ++ alone "2" lb keysA)
    let strict := r.has "check-order"
    s.withStatus (if r.has "nocheck-order" || (ordered la && ordered lb) ||
      !(strict || unpaired) then 0 else 1)

def tool : Tool where
  letters := "a:e:i1:2:j:o:t:v:z"
  names := "ignore-case=i check-order nocheck-order zero-terminated=z header help version"
  sound := ruled [("1", isField), ("2", isField), ("j", isField), ("a", isSide), ("v", isSide),
    ("o", isLayout), ("t", isSeparator)]
  run s r :=
    if r.operands = ["-", "-"] ∨ ["1", "2", "t", "e"].any fun k =>
        (r.values k).eraseDups.length > 1 then s.withStatus 1
    else counted 2 (some 2) 1 run s r

end Join

namespace Tsort

def words (t : List Char) : List String :=
  (((String.ofList t).map fun c => if isBlank c then ' ' else c).splitOn " ").filter (· ≠ "")

def pairs : List String → List (String × String)
  | a :: b :: rest => (a, b) :: pairs rest
  | _ => []

/-- Words in an order in which the first of each pair comes first, and whether there is one. -/
def sorted (ps : List (String × String)) : Nat → List String → List String × Bool
  | 0, left => (left, left.isEmpty)
  | n + 1, left =>
    let free := left.filter fun w => !ps.any fun p => p.2 = w && p.1 ≠ w && left.contains p.1
    if left = [] then ([], true)
    else if free = [] then (left, false)
    else
      let (rest, sound) := sorted ps n (left.filter (!free.contains ·))
      (free ++ rest, sound)

def tool : Tool where
  run := counted 0 (some 1) 1 fun s r =>
    match textAt s (r.operands.headD "-") with
    | (none, s) => s.withStatus 1
    | (some t, s) =>
      let ws := words t
      if ws.length % 2 = 1 then s.withStatus 1
      else
        let (order, sound) := sorted (pairs ws) ws.length ws.eraseDups
        (sayLines s order).withStatus (if sound then 0 else 1)

end Tsort

namespace Shuf

def range? (t : String) : Option (Nat × Nat) :=
  match t.splitOn "-" with
  | [a, b] => do
    let low ← Quantity.count? "" a
    let high ← Quantity.count? "" b
    if low ≤ high + 1 ∧ high ≤ maxWord then some (low, high) else none
  | _ => none

def run (s : State) (r : Reading) : State :=
  let mark := lineMark r "z"
  let limit := ((r.values "n").filterMap (Quantity.count? "")).foldl min maxWord
  let given := r.value? "i"
  let (found?, s) : Option (List (List Char)) × State :=
    match given.bind range? with
    | some (low, high) =>
      (some ((List.range (min (high + 1 - low) 65536)).map fun k =>
        (toString (low + k)).toList), s)
    | none =>
      if r.has "e" then (some (r.operands.map String.toList), s)
      else
        let (t, s) := textAt s (r.operands.headD "-")
        (t.map (partsAt mark), s)
  match found? with
  | none => s.withStatus 1
  | some ls =>
    if r.has "r" && ls.isEmpty && limit > 0 then s.withStatus 1
    else
      let shown := if r.has "r" && (r.values "n") ≠ [] then
        (List.range (min limit 65536)).map fun _ => ls.headD [] else ls.take limit
      deliver 1 s (r.value? "o") (joined mark shown)

def tool : Tool where
  letters := "ei:n:o:rz"
  names := "echo=e input-range:=i head-count:=n output:=o random-source: repeat=r " ++
    "zero-terminated=z help version"
  sound := ruled [("i", fun t => (range? t).isSome),
    ("n", fun t => (Quantity.count? "" t).isSome)]
  run s r :=
    let ranged := (r.value? "i").isSome
    if (r.values "i").length > 1 ∨ (r.has "e" && ranged) ∨
        (r.values "o").eraseDups.length > 1 then s.withStatus 1
    else if ranged then counted 0 (some 0) 1 run s r
    else if r.has "e" then run s r
    else counted 0 (some 1) 1 run s r

end Shuf

end AgentLaunch.Tools
