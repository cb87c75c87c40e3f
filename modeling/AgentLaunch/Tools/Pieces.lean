import AgentLaunch.Shell.Loop
import AgentLaunch.Shell.Regex
import AgentLaunch.Shell.Test
import AgentLaunch.Tools.Files
import AgentLaunch.Tools.Lines

/-!
# Pieces of files

Tools that write texts to files, copy blocks of bytes, or cut a text into several files.
-/

namespace AgentLaunch.Tools

open Shell (State Regex)
open FileTree (Node)

def written (s : State) (path : String) (append : Bool) (t : List Char) : Except OsError State :=
  match s.openForWriting? 9 append path with
  | some opened => .ok (((opened.write? 9 t).getD opened).close 9)
  | none => .error .noAccess

namespace Tee

def tool : Tool where
  letters := "aip"
  names := "append=a ignore-interrupts=i output-error::=p help version"
  sound := ruled [("p", isChoice ["warn", "warn-nopipe", "exit", "exit-nopipe"])]
  run s r :=
    let text := s.input
    let s := each 1 (fun s path => if path = "-" then .ok (s.say (String.ofList text))
      else written s path (r.has "a") text) (s.leaveInput []) r.operands
    s.say (String.ofList text)

end Tee

namespace Yes

/-- How many lines a reader gets before it has gone. -/
def lineCount : Nat := 20000

/-- Writes a line again and again, as long as somebody reads it. -/
def tool : Tool where
  letters := "+"
  run s r :=
    let line := String.intercalate " " (if r.operands = [] then ["y"] else r.operands) ++ "\n"
    match s.stream 1 with
    | none => s.withStatus 1
    | some (.pipe _) =>
      (s.say (String.join (List.replicate lineCount line))).endedLike (.killed 13)
    | some _ => s.endless

end Yes

namespace Dd

/-- A count with letters, and with factors between crosses. -/
def count? (t : String) : Option Nat :=
  (t.splitOn "x").foldlM (fun n w =>
    (Quantity.count? "bcEGkKMPQRTwYZ0" w).bind fun m =>
      if w.toList.head?.any isDigit then some (n * m) else none) 1

def isOperand (w : String) : Bool :=
  let name := String.ofList (w.toList.takeWhile (· ≠ '='))
  let value := String.ofList (w.toList.drop (name.length + 1))
  let isCount (least : Nat) (t : String) : Bool :=
    let bare := if least = 0 ∧ t.endsWith "B" ∧ t.toList.dropLast.all isDigit then
        String.ofList t.toList.dropLast else t
    (count? bare).any (least ≤ ·)
  let among (known : List String) : Bool := (value.splitOn ",").all known.contains
  let flags := ["append", "binary", "cio", "direct", "directory", "dsync", "noatime", "nocache",
    "noctty", "nofollow", "nolinks", "nonblock", "sync", "text", "fullblock", "count_bytes",
    "skip_bytes", "seek_bytes"]
  name.length < w.length && (match name with
    | "if" | "of" => true
    | "bs" | "ibs" | "obs" | "cbs" => isCount 1 value
    | "count" | "skip" | "seek" | "iseek" | "oseek" => isCount 0 value
    | "status" => ["none", "noxfer", "progress"].contains value
    | "conv" => among ["ascii", "ebcdic", "ibm", "block", "unblock", "lcase", "ucase", "sparse",
        "swab", "noerror", "nocreat", "excl", "notrunc", "sync", "fdatasync", "fsync"]
    | "iflag" => among flags
    | "oflag" => among (flags.filter fun f => f ≠ "fullblock" && f ≠ "count_bytes" &&
        f ≠ "skip_bytes")
    | _ => false)

/-- Words of a list of which at most one can be there. -/
def clashes (words given : List String) : Bool :=
  (words.filter given.contains).length > 1

def value? (s : Reading) (name : String) : Option String :=
  (s.operands.filterMap fun w =>
    if w.startsWith (name ++ "=") then some (w.drop (name.length + 1)).toString
    else none).getLast?

def run (s : State) (r : Reading) : State :=
  let conv := ((value? r "conv").getD "").splitOn ","
  let number (name : String) : Option Nat := (value? r name).bind count?
  let block := ((number "bs") <|> (number "ibs")).getD 512
  let outBlock := ((number "bs") <|> (number "obs")).getD 512
  let limit := (number "count").map (· * block)
  let skipped := ((number "skip" <|> number "iseek").getD 0) * block
  let seeked := min (((number "seek" <|> number "oseek").getD 0) * outBlock) 1000000
  if !r.operands.all isOperand then s.withStatus 1
  else if clashes ["ascii", "ebcdic", "ibm"] conv ∨ clashes ["block", "unblock"] conv ∨
      clashes ["lcase", "ucase"] conv ∨ clashes ["excl", "nocreat"] conv then s.withStatus 1
  else
    let endless := (value? r "if").any fun path => match found? s path with
      | .ok (_, .device true) => true
      | _ => false
    let (text?, s) : Option (List Char) × State := match value? r "if" with
      | none => (some s.input, s.leaveInput [])
      | some path =>
        if endless then
          (some (List.replicate (min (limit.getD 65536) 1000000) '\x00'), s)
        else if path = "-" then (none, s) else textAt s path
    match text? with
    | none => s.withStatus 1
    | some t =>
      let t := if endless then t else t.drop skipped
      let t := match limit with
        | some n => t.take n
        | none => t
      let t := if conv.contains "ucase" then t.map Char.toUpper
        else if conv.contains "lcase" then t.map Char.toLower else t
      match value? r "of" with
      | none => s.say (String.ofList t)
      | some path =>
        let before := match found? s path with
          | .ok (place, .file ..) => (s.contents? place).getD []
          | _ => []
        let isThere := (found? s path).toOption.isSome
        if (isThere && conv.contains "excl") || (!isThere && conv.contains "nocreat") then
          s.withStatus 1
        else
          let front := (before.take seeked) ++ List.replicate (seeked - before.length) '\x00'
          let back := if conv.contains "notrunc" then before.drop (seeked + t.length) else []
          match written s path false (front ++ t ++ back) with
          | .ok s => s
          | .error _ => s.withStatus 1

def tool : Tool where
  run := run

end Dd

namespace Split

def letters : String := "bEGKkMmPQRTYZ0"

def isChunks (t : String) : Bool :=
  let positive (w : String) : Bool := Quantity.atLeast "" 1 w
  let pair (a b : String) : Bool :=
    positive a && positive b && (Quantity.count? "" a).getD 0 ≤ (Quantity.count? "" b).getD 0
  match t.splitOn "/" with
  | [n] => positive n
  | [a, b] => if a = "l" ∨ a = "r" then positive b else pair a b
  | [kind, a, b] => (kind = "l" || kind = "r") && pair a b
  | _ => false

/-- The ending of the name of a piece: its number in the base of some digits. -/
def ending (digits : List Char) : Nat → Nat → List Char
  | 0, _ => []
  | n + 1, k =>
    ending digits n (k / digits.length) ++ [(digits[k % digits.length]?).getD 'a']

/-- Cuts a list into pieces of a length. The number bounds how many there are. -/
def chunks {α : Type} (size : Nat) : Nat → List α → List (List α)
  | 0, _ | _, [] => []
  | n + 1, xs => xs.take size :: chunks size n (xs.drop size)

def pieces (r : Reading) (t : List Char) : List (List Char) :=
  let number (k : String) : Option Nat := (r.value? k).bind (Quantity.count? letters)
  let digits := r.given.filterMap fun g =>
    if g.key.toList.all isDigit then some g.key else none
  let perFile := ((number "l") <|> (if digits = [] then none
    else (Quantity.count? "" (String.join digits)))).getD 1000
  match number "b" <|> number "C", (r.value? "n") with
  | some size, _ => chunks size t.length t
  | none, some way =>
    let n := (Quantity.count? "" (((way.splitOn "/").getLast?).getD "1")).getD 1
    let size := max (t.length / n) 1
    (List.range n).map fun k =>
      if k + 1 = n then t.drop (k * size) else (t.drop (k * size)).take size
  | none, none =>
    let ls := (lines t).map (· ++ ['\n'])
    let found := (chunks perFile ls.length ls).map List.flatten
    if t.getLast? = some '\n' then found
    else (found.dropLast) ++ (found.getLast?.map List.dropLast).toList

def run (s : State) (r : Reading) : State :=
  match textAt s (r.operands.headD "-") with
  | (none, s) => s.withStatus 1
  | (some t, s) =>
    let front := (r.operands[1]?).getD "x"
    let back := (r.value? "additional-suffix").getD ""
    let alphabet := if r.has "d" then "0123456789".toList
      else if r.has "x" then "0123456789abcdef".toList else "abcdefghijklmnopqrstuvwxyz".toList
    let width := ((r.value? "a").bind (Quantity.count? "")).getD 2
    let width := if width = 0 then 2 else width
    let found := pieces r t
    let found := if r.has "e" then found.filter (· ≠ []) else found
    (found.zipIdx).foldl (fun s (piece, k) =>
      if s.status ≠ 0 then s
      else if k ≥ Nat.pow alphabet.length (min width 8) then failed 1 s
      else
        let name := front ++ String.ofList (ending alphabet width k) ++ back
        match written s name false piece with
        | .ok s => s
        | .error _ => failed 1 s) s

def tool : Tool where
  letters := "0123456789C:a:b:del:n:t:ux"
  names := "bytes:=b lines:=l line-bytes:=C number:=n elide-empty-files=e unbuffered=u " ++
    "suffix-length:=a additional-suffix: numeric-suffixes::=d hex-suffixes::=x filter: verbose " ++
    "separator:=t -io-blksize: help version"
  sound := ruled [("b", Quantity.atLeast letters 1), ("C", Quantity.atLeast letters 1),
    ("l", Quantity.atLeast letters 1), ("n", isChunks), ("a", Quantity.atLeast "" 0),
    ("t", fun t => t.length = 1 || t = "\\0"),
    ("d", fun t => t.toList.all isDigit),
    ("x", fun t => t.toList.all fun c => digitValue c < 16),
    ("additional-suffix", fun t => !t.toList.contains '/')]
  run s r :=
    let ways := r.given.filter fun g => ["b", "C", "l", "n"].contains g.key
    let old := if r.given.any fun g => g.key.toList.all isDigit then 1 else 0
    if ways.length + old > 1 then s.withStatus 1
    else counted 0 (some 2) 1 run s r

end Split

namespace Csplit

inductive Bound where
  | line (n : Nat)
  /-- A line that an expression fits, moved by some lines. What is in front may be left out. -/
  | fit (e : Regex) (offset : Int) (kept : Bool)

/-- A bound, and how often it is used; without a number as often as there is any. -/
structure Step where
  bound : Bound
  times : Option Nat

def bound? (w : String) : Option Bound :=
  match w.toList with
  | c :: rest =>
    if c = '/' ∨ c = '%' then
      let back := rest.reverse.takeWhile (· ≠ c)
      if back.length = rest.length then none
      else do
        let e ← Regex.read? .plain (rest.take (rest.length - back.length - 1))
        let t := back.reverse
        let offset ← if t = [] then some 0
          else match t with
            | '+' :: digits => if digits ≠ [] ∧ digits.all isDigit then
                some (Int.ofNat (ofDigits 10 digits)) else none
            | '-' :: digits => if digits ≠ [] ∧ digits.all isDigit then
                some (-Int.ofNat (ofDigits 10 digits)) else none
            | digits => if digits.all isDigit then
                some (Int.ofNat (ofDigits 10 digits)) else none
        return .fit e offset (c = '/')
    else if (c :: rest).all isDigit ∧ ofDigits 10 (c :: rest) > 0 then
      some (.line (ofDigits 10 (c :: rest)))
    else none
  | [] => none

def steps? : List String → Option (List Step)
  | [] => some []
  | w :: rest =>
    match rest with
    | again :: more =>
      match again.toList with
      | '\x7b' :: inside =>
        let body := inside.dropLast
        if inside.getLast? ≠ some '\x7d' then none
        else if body = ['*'] then do return ⟨← bound? w, none⟩ :: (← steps? more)
        else if body ≠ [] ∧ body.all isDigit then do
          return ⟨← bound? w, some (ofDigits 10 body + 1)⟩ :: (← steps? more)
        else none
      | _ => do return ⟨← bound? w, some 1⟩ :: (← steps? (again :: more))
    | [] => do return [⟨← bound? w, some 1⟩]

def ascends : Nat → List Step → Bool
  | _, [] => true
  | n, ⟨.line m, _⟩ :: rest => n ≤ m && ascends m rest
  | n, _ :: rest => ascends n rest

/-- Uses a bound once on the lines from a position on, of which there are so many: where it is, if
it is there. -/
def position? (ls : List (List Char)) (at_ : Nat) (fresh : Bool) (base : Nat) : Bound → Option Nat
  | .line n =>
    let goal := base + n - 1
    if goal < at_ ∨ goal > ls.length then none else some goal
  | .fit e offset _ =>
    let start := if fresh then at_ else at_ + 1
    match (List.range (ls.length - start)).find? fun k =>
        ((ls[start + k]?).map (Regex.isIn false false false e)).getD false with
    | none => none
    | some k =>
      let goal := Int.ofNat (start + k) + offset
      if goal < Int.ofNat at_ ∨ goal > Int.ofNat ls.length then none else some goal.toNat

/-- Cuts lines into pieces, and whether all bounds were there. The number bounds how many steps are
taken. -/
def cut (ls : List (List Char)) : Nat → Nat → Bool → List Step → List (List (List Char)) × Bool
  | 0, _, _, _ => ([], false)
  | _, at_, _, [] => ([ls.drop at_], true)
  | n + 1, at_, fresh, step :: rest =>
    if step.times = some 0 then cut ls n at_ fresh rest
    else match position? ls at_ fresh 0 step.bound with
      | none => if step.times.isNone then cut ls n at_ fresh rest else ([ls.drop at_], false)
      | some goal =>
        let piece := (ls.take goal).drop at_
        let next := match step.bound with
          | .line m => { step with bound := .line (m + m) }
          | _ => step
        let (more, sound) := cut ls n goal false
          ({ next with times := step.times.map (· - 1) } :: rest)
        match step.bound with
        | .fit _ _ false => (more, sound)
        | _ => (piece :: more, sound)

def run (s : State) (r : Reading) : State :=
  match r.operands with
  | path :: words =>
    match steps? words with
    | none => s.withStatus 1
    | some steps =>
      if !ascends 1 steps then s.withStatus 1
      else match textAt s path with
        | (none, s) => s.withStatus 1
        | (some t, s) =>
          let ls := lines t
          let (found, sound) := cut ls (ls.length * 2 + steps.length * 4 + 10) 0 true steps
          let found := if r.has "z" then found.filter (· ≠ []) else found
          let width := ((r.value? "n").bind (Quantity.count? "")).getD 2
          let front := (r.value? "f").getD "xx"
          if !sound ∧ !r.has "k" then s.withStatus 1
          else (found.zipIdx.foldl (fun s (piece, k) =>
            let name := front ++ String.ofList (Split.ending "0123456789".toList width k)
            match written s name false (piece.flatMap (· ++ ['\n'])) with
            | .ok s => s
            | .error _ => failed 1 s) s) |> fun s => if sound then s else failed 1 s
  | [] => s.withStatus 1

def tool : Tool where
  letters := "f:b:kn:sqz"
  names := "digits:=n quiet=q silent=s keep-files=k elide-empty-files=z prefix:=f " ++
    "suffix-format:=b suppress-matched help version"
  sound := ruled [("n", fun t => (Quantity.count? "" t).any (· ≤ 2147483647))]
  run := counted 2 none 1 run

end Csplit

namespace Make

/-- A name for a file that is not there. -/
def freshName (s : State) (front back : String) (width : Nat) : String :=
  let name (k : Nat) : String :=
    front ++ String.ofList (Split.ending "abcdefghijklmnopqrstuvwxyz".toList width k) ++ back
  let free (k : Nat) : Bool := match foundLink? s (name k) with
    | .ok _ => false
    | .error _ => true
  name (((List.range 1000).find? free).getD 0)

def temporary (s : State) (r : Reading) : State :=
  let own := r.operands = []
  let template := r.operands.headD "tmp.XXXXXXXXXX"
  let t := template.toList
  let back := match r.value? "suffix" with
    | some v => v
    | none => String.ofList ((t.reverse.takeWhile (· ≠ 'X')).reverse)
  let body := if (r.value? "suffix").isSome then t else t.take (t.length - back.length)
  let marks := (body.reverse.takeWhile (· = 'X')).length
  let front := String.ofList (body.take (body.length - marks))
  let inDirectory := own || r.hasAny ["p", "t"]
  let home := (s.environment.find? fun v => v.1 = "TMPDIR" && v.2 ≠ "").map (·.2)
  let base := if r.has "t" then (home <|> r.value? "p").getD "/tmp"
    else ((r.value? "p").filter (· ≠ "") <|> home).getD "/tmp"
  if marks < 3 ∨ back.toList.contains '/' then s.withStatus 1
  else if inDirectory ∧ !own ∧ (template.startsWith "/" ∨
      (r.has "t" ∧ template.toList.contains '/')) then s.withStatus 1
  else
    let name := freshName s (if inDirectory then base ++ "/" ++ front else front) back marks
    if r.has "u" then sayLines s [name]
    else match s.system.files.placeToMake s.directory name with
      | .error _ => s.withStatus 1
      | .ok place =>
        sayLines (if r.has "d" then withDirectory s place else s.store place []) [name]

def mktemp : Tool where
  letters := "dp:qtuV"
  names := "directory=d quiet=q dry-run=u suffix: tmpdir::=p help version=V"
  run := counted 0 (some 1) 1 temporary

def tempfile : Tool where
  letters := "p:s:d:m:n:"
  names := "prefix:=p suffix:=s directory:=d mode:=m name:=n help=h version=v"
  run s r :=
    let directory := (r.value? "d").getD "/tmp"
    let name := (r.value? "n").getD (freshName s (directory ++ "/" ++
      (r.value? "p").getD "file") ((r.value? "s").getD "") 6)
    match foundLink? s name, s.system.files.placeToMake s.directory name with
    | .error _, .ok place => sayLines (s.store place []) [name]
    | _, _ => s.withStatus 1

def pipes (s : State) (paths : List String) : State :=
  each 1 (fun s path => do
    match foundLink? s path with
    | .ok _ => throw .present
    | .error _ =>
      let place ← s.system.files.placeToMake s.directory path
      return s.withFiles (s.system.files.replace place .fifo)) s paths

def mkfifo : Tool where
  letters := "m:Z"
  names := "context::=Z mode:=m help version"
  run s r :=
    if (r.value? "m").any fun m => (Mode.read? m).isNone then s.withStatus 1
    else counted 1 none 1 (fun s r => pipes s r.operands) s r

def mknod : Tool where
  letters := "m:Z"
  names := "context::=Z mode:=m help version"
  run s r :=
    if (r.value? "m").any fun m => (Mode.read? m).isNone then s.withStatus 1
    else match r.operands with
      | [name, kind] => if kind.startsWith "p" then pipes s [name] else s.withStatus 1
      | _ => s.withStatus 1

end Make

namespace Shred

def tool : Tool where
  letters := "fn:s:uvxz"
  names := "exact=x force=f iterations:=n size:=s random-source: remove::=u verbose=v zero=z " ++
    "help version"
  sound := ruled [("n", fun t => (Quantity.count? "" t).isSome),
    ("s", Quantity.atLeast "cbBkKMGTPEZYRQ0" 0), ("u", isChoice ["unlink", "wipe", "wipesync"])]
  run := counted 1 none 1 fun s r =>
    each 1 (fun s path => do
      match ← found? s path with
      | (place, .file bytes x) =>
        if r.has "u" then return (s.relocate place none).withFiles (s.system.files.remove place)
        else return s.withFiles (s.system.files.replace place
          (.file ⟨(List.replicate bytes.size (0 : UInt8)).toArray⟩ x))
      | _ => throw .invalid) s r.operands

end Shred

namespace Names

def sync : Tool where
  letters := "df"
  names := "data=d file-system=f help version"
  run s r :=
    if (r.has "d" ∧ r.has "f") ∨ (r.has "d" ∧ r.operands = []) then s.withStatus 1
    else each 1 (fun s path => do
      match ← found? s path with
      | (_, .device _) => if r.has "f" then return s else throw .invalid
      | (["proc"], _) => throw .invalid
      | _ => return s) s r.operands

def basename : Tool where
  letters := "+as:z"
  names := "multiple=a suffix:=s zero=z help version"
  run := counted 1 none 1 fun s r =>
    let all := r.hasAny ["a", "s"]
    if !all ∧ r.operands.length > 2 then s.withStatus 1
    else
      let suffix := if all then (r.value? "s").getD "" else (r.operands[1]?).getD ""
      let bare (path : String) : String :=
        let name := baseName path
        if name.endsWith suffix ∧ name ≠ suffix ∧ name ≠ "/" then
          String.ofList (name.toList.take (name.length - suffix.length)) else name
      s.say (String.join ((if all then r.operands else r.operands.take 1).map fun p =>
        bare p ++ String.singleton (lineMark r "z")))

def dirname : Tool where
  letters := "z"
  names := "zero=z help version"
  run := counted 1 none 1 fun s r =>
    s.say (String.join (r.operands.map fun p => parentOf p ++ String.singleton (lineMark r "z")))

/-- Whether a path can be the name of a file. -/
def isPortable (s : State) (r : Reading) (path : String) : Bool :=
  let words := Path.words path.toList
  let portable := r.hasAny ["p", "portability"]
  let strict := r.hasAny ["P", "portability"]
  let isPlain (c : Char) : Bool := (c.isAlphanum && c.toNat < 128) || "._-/".toList.contains c
  let reached := match foundLink? s path with
    | .ok _ | .error .noEntry => true
    | .error _ => false
  !(strict && words.any fun w => w.startsWith "-") &&
    !((strict || portable) && path = "") &&
    (if portable then path.toList.all isPlain && path.length ≤ 255 &&
        words.all fun w => w.length ≤ 14
      else (path ≠ "" && reached))

def pathchk : Tool where
  letters := "+pP"
  names := "portability help version"
  run := counted 1 none 1 fun s r =>
    s.withStatus (if r.operands.all (isPortable s r) then 0 else 1)

end Names

end AgentLaunch.Tools
