import AgentLaunch.Tools.Input
import AgentLaunch.Tools.Quantity

/-!
# Tools for lines

Tools that copy texts line by line, number lines, count them, or take some of them.
-/

namespace AgentLaunch.Tools

open Shell (State)

namespace Cat

/-- Lines without those that repeat an empty one. -/
def squeezed : List (List Char) → List (List Char)
  | [] :: [] :: rest => squeezed ([] :: rest)
  | l :: rest => l :: squeezed rest
  | [] => []

/-- A character with a mark for what cannot be seen. -/
def visible (c : Char) : List Char :=
  if c = '\t' then [c]
  else if c.toNat < 32 then ['^', Char.ofNat (c.toNat + 64)]
  else if c.toNat = 127 then ['^', '?']
  else [c]

def line (r : Reading) (l : List Char) : List Char :=
  let shown := if r.hasAny ["v", "e", "t", "A"] then l.flatMap visible else l
  let shown := if r.hasAny ["T", "t", "A"] then
    shown.flatMap fun c => if c = '\t' then ['^', 'I'] else [c] else shown
  if r.hasAny ["E", "e", "A"] then shown ++ ['$'] else shown

/-- Lines with their numbers; only those with a text if it is asked for. -/
def numbered (texted : Bool) : Nat → List (List Char) → List (List Char)
  | _, [] => []
  | n, l :: rest =>
    if texted && l = [] then l :: numbered texted n rest
    else ((padLeft 6 (toString n) ++ "\t").toList ++ l) :: numbered texted (n + 1) rest

def text (r : Reading) (ts : List (List Char)) : String :=
  let whole := ts.flatten
  if r.given = [] ∨ r.given.all (fun g => g.key = "u") then String.ofList whole
  else
    let ls := lines whole
    let ls := if r.has "s" then squeezed ls else ls
    let shown := (ls.map (line r))
    let shown := if r.has "b" then
        (numbered true 1 ls).zip shown |>.map fun (n, l) =>
          if n = [] then l else n.take 7 ++ l
      else if r.has "n" then numbered false 1 shown
      else shown
    let t := unlines shown
    if whole.getLast? = some '\n' ∨ whole = [] then t else String.ofList (t.toList.dropLast)

def tool : Tool where
  letters := "benstuvAET"
  names := "number-nonblank=b number=n squeeze-blank=s show-nonprinting=v show-ends=E " ++
    "show-tabs=T show-all=A help version"
  run := filtering 1 text

end Cat

namespace Tac

/-- The pieces of a text, each with the separator that ends it. -/
def pieces (separator : List Char) : Nat → List Char → List Char → List (List Char)
  | 0, piece, t => if piece ++ t = [] then [] else [piece ++ t]
  | _, piece, [] => if piece = [] then [] else [piece]
  | n + 1, piece, c :: rest =>
    if separator.isPrefixOf (c :: rest) then
      (piece ++ separator) :: pieces separator n [] ((c :: rest).drop separator.length)
    else pieces separator n (piece ++ [c]) rest

def text (r : Reading) (ts : List (List Char)) : String :=
  let separator := (r.value? "s").getD "\n"
  let mark := if separator = "" then ['\x00'] else separator.toList
  let turned (t : List Char) : List Char := ((pieces mark t.length [] t).reverse).flatten
  String.ofList (ts.flatMap turned)

def tool : Tool where
  letters := "brs:"
  names := "before=b regex=r separator:=s help version"
  run s r :=
    if r.has "r" ∧ r.value? "s" = some "" then s.withStatus 1 else filtering 1 text s r

end Tac

namespace Head

def letters : String := "bkKmMGTPEZYRQ0"

/-- A count, which may be one of what is left out. -/
def amount? (t : String) : Option (Bool × Nat) :=
  match t.toList with
  | '-' :: rest => (Quantity.count? letters (String.ofList rest)).map (true, ·)
  | _ => (Quantity.count? letters t).map (false, ·)

def isAmount (t : String) : Bool :=
  (amount? t).any fun a => a.2 ≤ maxWord

/-- Takes some from the front, or leaves some out at the end. -/
def taken {α : Type} (amount : Bool × Nat) (xs : List α) : List α :=
  if amount.1 then xs.take (xs.length - amount.2) else xs.take amount.2

/-- A count right behind the dash, with letters behind it. -/
def rewritten (args : List String) : List String :=
  match args with
  | first :: rest =>
    match first.toList with
    | '-' :: body =>
      let digits := body.takeWhile isDigit
      let flags := body.drop digits.length
      if digits = [] then args
      else if flags.any fun c => !"bkmclqvz".toList.contains c then "-\x00" :: rest
      else
        let unit := (flags.filter fun c => "bkm".toList.contains c).take 1
        let kind := if flags.any fun c => "bkmc".toList.contains c then "-c" else "-n"
        let others := (flags.filter fun c => "qvz".toList.contains c).map fun c =>
          String.ofList ['-', c]
        [kind, String.ofList (digits ++ unit)] ++ others ++ rest
    | _ => args
  | [] => []

def text (r : Reading) (t : List Char) : String :=
  let amount := (((r.last? ["c", "n"]).bind r.value?).bind amount?).getD (false, 10)
  if r.last? ["c", "n"] = some "c" then String.ofList (taken amount t)
  else
    let mark := lineMark r "z"
    let ls := partsAt mark t
    let kept := taken amount ls
    let shown := (joined mark kept).toList
    if kept.length = ls.length ∧ t.getLast? ≠ some mark then String.ofList shown.dropLast
    else String.ofList shown

/-- Texts below their names, if there are several. -/
def titled (r : Reading) (ts : List (String × String)) : String :=
  if (ts.length > 1 ∨ r.has "v") ∧ !r.has "q" then
    String.intercalate "\n" (ts.map fun (name, t) =>
      "==> " ++ (if name = "-" then "standard input" else name) ++ " <==\n" ++ t)
  else String.join (ts.map (·.2))

def endless? (s : State) (r : Reading) : Option State :=
  match r.operands, r.last? ["c", "n"], ((r.value? "c").bind amount?) with
  | [path], some "c", some (false, n) =>
    match s.system.files.lookup s.directory path with
    | .ok (_, .device true) => some (s.say (String.ofList (List.replicate (min n 65536) '\x00')))
    | _ => none
  | _, _, _ => none

def tool : Tool where
  letters := "c:n:qvz"
  names := "bytes:=c lines:=n -presume-input-pipe quiet=q silent=q verbose=v zero-terminated=z " ++
    "help version"
  rewritten := rewritten
  sound := ruled [("c", isAmount), ("n", isAmount)]
  run s r := (endless? s r).getD (
    let (ts, s) := texts 1 s r.operands
    s.say (titled r (ts.map fun (name, t) => (name, text r t))))

end Head

namespace Tail

def amount? (t : String) : Option (Option Char × Nat) :=
  Quantity.signed? Head.letters t

def isAmount (t : String) : Bool :=
  (amount? t).isSome

/-- A count right behind a sign, before at most one name. -/
def rewritten (args : List String) : List String :=
  let isName (w : String) : Bool := w = "-" || !w.startsWith "-"
  let fits := match args with
    | [_] => true
    | [_, w] => isName w || w = "--"
    | [_, w, _] => w = "--"
    | _ => false
  match args with
  | first :: rest =>
    match first.toList with
    | sign :: body =>
      let digits := body.takeWhile isDigit
      let flags := body.drop digits.length
      let plain := flags.filter (· ≠ 'f')
      if !fits ∨ (sign ≠ '-' ∧ sign ≠ '+') ∨ !([[], ['b'], ['c'], ['l']].contains plain) ∨
          (sign = '-' ∧ (body = [] ∨ body = ['c'])) ∨ (digits = [] ∧ sign = '-') then args
      else
        let count := if digits = [] then ['1', '0'] else digits
        let unit := if plain = ['b'] then ['b'] else []
        (if plain = ['b'] ∨ plain = ['c'] then "-c" else "-n") ::
          String.ofList (sign :: count ++ unit) :: rest
    | [] => args
  | [] => []

/-- Takes some from the end, or all from some place on. -/
def taken {α : Type} (amount : Option Char × Nat) (xs : List α) : List α :=
  if amount.1 = some '+' then xs.drop (amount.2 - 1) else xs.drop (xs.length - amount.2)

def text (r : Reading) (t : List Char) : String :=
  let amount := (((r.last? ["c", "n"]).bind r.value?).bind amount?).getD (none, 10)
  if r.last? ["c", "n"] = some "c" then String.ofList (taken amount t)
  else
    let mark := lineMark r "z"
    let shown := (joined mark (taken amount (partsAt mark t))).toList
    String.ofList (if t.getLast? = some mark ∨ shown = [] then shown else shown.dropLast)

def tool : Tool where
  letters := "c:n:fFqs:vz"
  names := "bytes:=c follow:: lines:=n max-unchanged-stats: -disable-inotify pid: " ++
    "-presume-input-pipe quiet=q retry silent=q sleep-interval:=s verbose=v zero-terminated=z " ++
    "help version"
  rewritten := rewritten
  sound := ruled [("c", isAmount), ("n", isAmount), ("pid", Quantity.atLeast "" 0),
    ("max-unchanged-stats", Quantity.atLeast "" 0), ("follow", isChoice ["descriptor", "name"]),
    ("s", fun t => (Duration.read? t).isSome && (t.toList.getLast?.any fun c => !c.isAlpha))]
  run s r :=
    let (ts, s) := texts 1 s r.operands
    s.say (Head.titled r (ts.map fun (name, t) => (name, text r t)))

end Tail

namespace Wc

def byteCount (t : List Char) : Nat :=
  (String.ofList t).utf8ByteSize

def wordCount : Bool → List Char → Nat
  | _, [] => 0
  | inside, c :: rest =>
    if isBlank c then wordCount false rest
    else (if inside then 0 else 1) + wordCount true rest

def count (t : List Char) (kind : String) : Nat :=
  match kind with
  | "l" => t.count '\n'
  | "w" => wordCount false t
  | "m" => t.length
  | "L" => ((lines t).map List.length).foldl max 0
  | _ => byteCount t

/-- What is counted, in the order in which it is shown. -/
def kinds (r : Reading) : List String :=
  let asked := ["l", "w", "m", "c", "L"].filter r.has
  if asked = [] then ["l", "w", "c"] else asked

/-- Counts in texts, and their sum if there are several. -/
def shown (r : Reading) (paths : List String) (ts : List (String × List Char)) : List String :=
  let counts := ts.map fun t => (kinds r).map (count t.2)
  let total := (kinds r).zipIdx.map fun (_, i) =>
    counts.foldl (fun n row => n + (row[i]?).getD 0) 0
  let size := toString (ts.foldl (fun n t => n + byteCount t.2) 0) |>.length
  let width := if (kinds r).length = 1 ∧ paths.length ≤ 1 then 1
    else if paths = [] ∨ paths.contains "-" then 7 else size
  let row (counts : List Nat) (name : String) : String :=
    String.intercalate " " (counts.map fun n => padLeft width (toString n)) ++
      (if name = "" then "" else " " ++ name)
  let rows := (counts.zip ts).map fun (c, t) => row c (if paths = [] then "" else t.1)
  if paths.length > 1 then rows ++ [row total "total"] else rows

/-- The names of files in a list that NULs end. A name cannot be empty. -/
def listed (s : State) (source : String) : Option (List String) × State :=
  match textAt s source with
  | (some t, s) => (some ((partsAt '\x00' t).map String.ofList), s)
  | (none, s) => (none, s)

def tool : Tool where
  letters := "clLmw"
  names := "bytes=c chars=m lines=l words=w debug files0-from: max-line-length=L total: " ++
    "help version"
  sound := ruled [("total", isChoice ["auto", "always", "only", "never"])]
  run s r :=
    match r.value? "files0-from" with
    | none =>
      let (ts, s) := texts 1 s r.operands
      sayLines s (shown r r.operands ts)
    | some source =>
      if r.operands ≠ [] then s.withStatus 1
      else match listed s source with
        | (none, s) => s.withStatus 1
        | (some names, s) =>
          let sound := names.filter fun n => n ≠ "" && !(n = "-" && source = "-")
          let s := if sound.length < names.length then failed 1 s else s
          if sound = [] then s
          else
            let (ts, s) := texts 1 s sound
            sayLines s (shown r sound ts)

end Wc

namespace Rev

def tool : Tool where
  letters := "Vh0"
  names := "zero=0 version=V help=h"
  run := filtering 1 fun r ts =>
    let mark := lineMark r "0"
    joined mark ((partsAt mark ts.flatten).map List.reverse)

end Rev

namespace Paste

/-- Whether a list of delimiters does not end within an escape. -/
def isSound : List Char → Bool
  | [] => true
  | ['\\'] => false
  | '\\' :: _ :: rest => isSound rest
  | _ :: rest => isSound rest

/-- The delimiters of a list. One can be empty. -/
def delimiters : List Char → List (List Char)
  | '\\' :: c :: rest =>
    (match c with
      | '0' => []
      | 'n' => ['\n']
      | 't' => ['\t']
      | 'b' => ['\x08']
      | 'r' => ['\r']
      | 'f' => ['\x0c']
      | 'v' => ['\x0b']
      | c => [c]) :: delimiters rest
  | c :: rest => [c] :: delimiters rest
  | [] => []

/-- Parts with delimiters between them, which are taken in turn. -/
def glued (ds : List (List Char)) : Nat → List (List Char) → List Char
  | _, [] => []
  | _, [l] => l
  | k, l :: rest => l ++ (ds[k % ds.length]?).getD [] ++ glued ds (k + 1) rest

def text (r : Reading) (ts : List (List Char)) : String :=
  let mark := lineMark r "z"
  let given := delimiters ((r.value? "d").getD "\t").toList
  let ds := if given = [] then [[]] else given
  let columns := ts.map (partsAt mark)
  if r.has "s" then joined mark (columns.map (glued ds 0))
  else
    let height := (columns.map List.length).foldl max 0
    joined mark ((List.range height).map fun k =>
      glued ds 0 (columns.map fun column => (column[k]?).getD []))

def tool : Tool where
  letters := "d:sz"
  names := "serial=s delimiters:=d zero-terminated=z help version"
  run s r :=
    if (r.value? "d").any fun d => !isSound d.toList then s.withStatus 1
    else if r.operands.any fun p => p ≠ "-" && (s.textOf? p).isNone && !r.has "s" then
      s.withStatus 1
    else filtering 1 text s r

end Paste

end AgentLaunch.Tools
