import AgentLaunch.Shell.Regex
import AgentLaunch.Tools.Files
import AgentLaunch.Tools.Lines

/-!
# Searching lines

The tool that searches lines for expressions. It leaves zero if a line was found, one if none was,
and two after trouble.
-/

namespace AgentLaunch.Tools.Search

open Shell (State Regex)

inductive Style where
  | plain
  | extended
  | fixed
  | perl
  deriving DecidableEq

def style (default : Style) (r : Reading) : Style :=
  match r.last? ["G", "E", "F", "P", "X"] with
  | some "G" => .plain
  | some "E" => .extended
  | some "F" => .fixed
  | some "P" => .perl
  | some "X" =>
    match r.value? "X" with
    | some "egrep" | some "awk" | some "gawk" | some "posixawk" => .extended
    | some "fgrep" => .fixed
    | some "perl" => .perl
    | _ => .plain
  | _ => default

/-- A digit behind a backslash as the brackets that mean it. -/
def withDigits : List Char → List Char
  | '\\' :: 'd' :: rest => "[0-9]".toList ++ withDigits rest
  | '\\' :: 'D' :: rest => "[^0-9]".toList ++ withDigits rest
  | '\\' :: c :: rest => '\\' :: c :: withDigits rest
  | c :: rest => c :: withDigits rest
  | [] => []

/-- Whether some text stands in a line, or is all of it, or a word of it. -/
def isThere (fold whole word : Bool) (t line : List Char) : Bool :=
  let places := if whole then [0] else List.range (line.length + 1)
  places.any fun k =>
    let here := line.drop k
    let found := here.length ≥ t.length &&
      (here.zip t).all fun (a, b) => Regex.same fold a b
    let behind := here.drop t.length
    found && (!whole || behind = []) && (!word || whole ||
      (!((line.take k).getLast?.any Regex.isWordChar) && !(behind.head?.any Regex.isWordChar)))

/-- A wide expression in which parentheses that close nothing stand for themselves. The first number
bounds how many characters there are, and the second one counts open parentheses. -/
def closed : Nat → Nat → List Char → List Char
  | 0, _, t => t
  | _, _, [] => []
  | n + 1, k, '\\' :: c :: rest => '\\' :: c :: closed n k rest
  | n + 1, k, '[' :: rest =>
    let inside := rest.take (Regex.bracketLength rest)
    '[' :: inside ++ closed n k (rest.drop inside.length)
  | n + 1, k, '(' :: rest => '(' :: closed n (k + 1) rest
  | n + 1, k, ')' :: rest =>
    if k = 0 then '\\' :: ')' :: closed n 0 rest else ')' :: closed n (k - 1) rest
  | n + 1, k, c :: rest => c :: closed n k rest

/-- Whether the name of a class stands in only one pair of brackets, which is a mistake. The number
bounds how many characters there are. -/
def hasBareClass : Nat → List Char → Bool
  | 0, _ | _, [] => false
  | n + 1, '\\' :: _ :: rest => hasBareClass n rest
  | n + 1, '[' :: rest =>
    let inside := rest.take (Regex.bracketLength rest)
    let name := inside.dropLast
    (name.length > 2 && name.head? = some ':' && name.getLast? = some ':') ||
      hasBareClass n (rest.drop inside.length)
  | n + 1, _ :: rest => hasBareClass n rest

def test? (style : Style) (fold whole word : Bool) (e : List Char) :
    Option (List Char → Bool) :=
  let fits (r? : Option Regex) : Option (List Char → Bool) :=
    if hasBareClass e.length e then none else r?.map (Regex.isIn fold whole word)
  match style with
  | .fixed => some (isThere fold whole word e)
  | .plain => fits (Regex.read? .plain e)
  | .extended => fits (Regex.read? .wide (closed e.length 0 e))
  | .perl => (Regex.read? .wide (withDigits e)).map (Regex.isIn fold whole word)

/-- The expressions that are asked for, and the operands that are left. -/
def expressions? (s : State) (r : Reading) : Option (List (List Char)) × List String × State :=
  let given := (r.values "e").flatMap fun e => (e.splitOn "\n").map String.toList
  let (files?, s) := (r.values "f").foldl (fun (found, s) path =>
    match found, textAt s path with
    | some ls, (some t, s) => (some (ls ++ lines t), s)
    | _, (_, s) => (none, s)) ((some [] : Option (List (List Char))), s)
  match files? with
  | none => (none, r.operands, s)
  | some ls =>
    if r.hasAny ["e", "f"] then (some (given ++ ls), r.operands, s)
    else match r.operands with
      | e :: paths => (some ((e.splitOn "\n").map String.toList), paths, s)
      | [] => (none, [], s)

def fits (patterns : List String) (path : String) : Bool :=
  patterns.any fun p =>
    let p := p.toList.map (·, false)
    Shell.Glob.fits p path.toList || Shell.Glob.fits p (baseName path).toList

/-- The files at and below a path. The number bounds how deep they are. -/
def below (s : State) (r : Reading) : Nat → String → List String
  | 0, _ => []
  | n + 1, path =>
    match found? s path with
    | .ok (place, .directory) =>
      if fits (r.values "exclude-dir") path then []
      else (s.system.files.names place).flatMap fun name =>
        match s.system.files.get? (place ++ [name]) with
        | some (.link _) => if r.has "R" then below s r n (path ++ "/" ++ name) else []
        | _ => below s r n (path ++ "/" ++ name)
    | _ =>
      let included := r.values "include"
      if fits (r.values "exclude") path ∨ (included ≠ [] ∧ !fits included path) then []
      else [path]

structure Progress where
  output : List String
  matched : Bool
  troubled : Bool

def searched (r : Reading) (test : List Char → Bool) (parts : List Char → List (List Char))
    (label : Bool) (p : Progress) (name : String) (t : List Char) : Progress :=
  let ls := partsAt (lineMark r "z") t
  let hits := ls.zipIdx.filter fun l => test l.1 != r.has "v"
  let hits := match (r.value? "m").bind (Quantity.count? "") with
    | some n => hits.take n
    | none => hits
  let front (k : Nat) : String :=
    (if label then name ++ ":" else "") ++ (if r.has "n" then toString (k + 1) ++ ":" else "")
  let shown :=
    if r.has "q" then []
    else if r.has "l" then (if hits = [] then [] else [name])
    else if r.has "L" then (if hits = [] then [name] else [])
    else if r.has "c" then [(if label then name ++ ":" else "") ++ toString hits.length]
    else if r.has "o" then
      if r.has "v" then []
      else hits.flatMap fun l => (parts l.1).map fun t => front l.2 ++ String.ofList t
    else hits.map fun l => front l.2 ++ String.ofList l.1
  { p with output := p.output ++ shown, matched := p.matched || hits ≠ [] }

def run (default : Style) (recursive : Bool) (s : State) (r : Reading) : State :=
  let deep := recursive || r.hasAny ["r", "R"] || r.value? "d" = some "recurse"
  match expressions? s r with
  | (none, _, s) => s.withStatus 2
  | (some es, paths, s) =>
    if r.value? "m" = some "0" ∧ !r.has "L" then s.withStatus 1 else
    let style := style default r
    let fold := (r.last? ["i", "y", "no-ignore-case"]).any (· ≠ "no-ignore-case")
    match es.mapM (test? style fold (r.has "x") (r.has "w")) with
    | none => s.withStatus 2
    | some tests =>
      let test (l : List Char) : Bool := tests.any fun f => f l
      let regex? : Option Regex := match style, es with
        | .plain, [e] => Regex.read? .plain e
        | .extended, [e] => Regex.read? .wide (closed e.length 0 e)
        | .perl, [e] => Regex.read? .wide (withDigits e)
        | .fixed, [e] => some (.sequence (e.map Regex.ofChar))
        | _, _ => none
      let parts (l : List Char) : List (List Char) :=
        (regex?.map fun e => Regex.parts fold e l.length ⟨[], l, []⟩).getD []
      let paths := if paths = [] then (if deep then ["."] else ["-"]) else paths
      let label := r.last? ["H", "h"] = some "H" ||
        (!r.has "h" && (paths.length > 1 || (deep && paths.any (isDirectory s))))
      let (p, s) := paths.foldl (fun ((p, s) : Progress × State) path =>
        if path = "-" then
          let t := s.input
          (searched r test parts label p "(standard input)" t, s.leaveInput [])
        else if isDirectory s path then
          if deep then
            ((below s r 64 path).foldl (fun p file =>
              match s.textOf? file with
              | some t => searched r test parts label p file t.toList
              | none => { p with troubled := true }) p, s)
          else ({ p with troubled := p.troubled || r.value? "d" ≠ some "skip" }, s)
        else match s.textOf? path with
          | some t => (searched r test parts label p path t.toList, s)
          | none => ({ p with troubled := true }, s)) (⟨[], false, false⟩, s)
      let s := s.withStatus (if p.matched && (!p.troubled || r.has "q") then 0
        else if p.troubled then 2 else 1)
      sayLines s p.output

def isCount (t : String) : Bool :=
  t ≠ "" && t.toList.all isDigit

def isLimit (t : String) : Bool :=
  isCount (if t.startsWith "-" then (t.drop 1).toString else t)

def tool (default : Style) (recursive : Bool) : Tool where
  letters := "0123456789A:B:C:D:EFGHIPTUVX:abcd:e:f:hiLlm:noqRrsuvwxyZz"
  names := "basic-regexp=G extended-regexp=E fixed-regexp=F fixed-strings=F perl-regexp=P " ++
    "after-context:=A before-context:=B binary-files: byte-offset=b context:=C color:: " ++
    "colour::=color count=c devices:=D directories:=d exclude: exclude-from: exclude-dir: " ++
    "file:=f files-with-matches=l files-without-match=L group-separator: help include: " ++
    "ignore-case=i no-ignore-case initial-tab=T label: line-buffered line-number=n " ++
    "line-regexp=x max-count:=m no-filename=h no-group-separator=group-separator no-messages=s " ++
    "null=Z null-data=z only-matching=o quiet=q recursive=r dereference-recursive=R regexp:=e " ++
    "invert-match=v silent=q text=a binary=U unix-byte-offsets=u version=V with-filename=H " ++
    "word-regexp=w"
  usage := 2
  unsound := fun g => if g.key = "color" then 0 else 2
  sound := ruled [("A", isCount), ("B", isCount), ("C", isCount), ("m", isLimit),
    ("D", fun t => ["read", "skip"].contains t),
    ("d", isChoice ["read", "recurse", "skip"]),
    ("binary-files", fun t => ["binary", "text", "without-match"].contains t),
    ("color", isChoice ["always", "yes", "force", "never", "no", "none", "auto", "tty", "if-tty"]),
    ("X", fun t => ["grep", "egrep", "fgrep", "awk", "gawk", "posixawk", "perl"].contains t)]
  run := run default recursive

end AgentLaunch.Tools.Search
