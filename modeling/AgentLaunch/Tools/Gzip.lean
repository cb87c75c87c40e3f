import AgentLaunch.Tools.Compare
import AgentLaunch.Tools.Files
import AgentLaunch.Tools.Search

/-!
# Packed files

Tools that pack files, and those that look into packed ones. Nothing here measures how small a
packed text is, so it is the text itself behind a header.
-/

namespace AgentLaunch.Tools.Gzip

open Shell (State)

def header : List Char :=
  ['\x1f', Char.ofNat 139, '\x08', '\x00', '\x00', '\x00', '\x00', '\x00', '\x00', '\x03']

def pack (t : List Char) : List Char :=
  header ++ t

/-- The text that was packed. Bytes that are no text can stand in the header. -/
def unpack? (t : List Char) : Option (List Char) :=
  match t with
  | '\x1f' :: c :: '\x08' :: _ =>
    if c = Char.ofNat 139 ∨ c = Char.ofNat 65533 then some (t.drop header.length) else none
  | _ => none

def endings : List String :=
  [".gz", "-gz", ".z", "-z", "_z", ".Z", ".tgz", ".taz"]

/-- The name of a file that is not packed. -/
def bareName? (ending path : String) : Option String :=
  ((ending :: endings).find? fun e => path.endsWith e ∧ path.length > e.length).map fun e =>
    String.ofList (path.toList.take (path.length - e.length)) ++
      (if e = ".tgz" ∨ e = ".taz" then ".tar" else "")

/-- How the tool is asked to work. -/
structure Job where
  unpacks : Bool
  tests : Bool
  lists : Bool
  toOutput : Bool
  force : Bool
  keep : Bool
  quiet : Bool
  deep : Bool
  ending : String

def warning : Nat := 2

/-- Marks a warning, which counts less than a failure. -/
def warned (s : State) : State :=
  if s.status = 0 then s.withStatus warning else s

/-- Marks a failure, which counts more than a warning. -/
def failed (s : State) : State :=
  s.withStatus 1

/-- The text that comes out of a text. -/
def changed? (j : Job) (t : List Char) : Option (List Char) :=
  if !j.unpacks then some (pack t)
  else match unpack? t with
    | some u => some u
    | none => if j.force ∧ j.toOutput then some t else none

/-- Works on a text that goes to the output, or is only looked at. -/
def pour (j : Job) (s : State) (t : List Char) : State :=
  match changed? j t with
  | none => failed s
  | some u => if j.tests || j.lists then s else s.say (String.ofList u)

def file (j : Job) (s : State) (path : String) : State :=
  let unnamed := j.toOutput || j.tests || j.lists
  match foundLink? s path with
  | .error _ => failed s
  | .ok (_, .directory) => warned s
  | .ok (place, node) =>
    let isPlain := match node with
      | .file .. => true
      | _ => false
    if unnamed then
      match s.textOf? path with
      | some t => pour j s t.toList
      | none => failed s
    else if !isPlain then
      (match node with
      | .link _ => failed s
      | _ => warned s)
    else if !j.unpacks ∧ !j.force ∧ (bareName? j.ending path).isSome then s
    else
      let goal? := if j.unpacks then bareName? j.ending path
        else some (path ++ j.ending)
      match goal? with
      | none => if j.quiet || j.deep then s else warned s
      | some goal =>
        match changed? j ((s.contents? place).getD []) with
        | none => failed s
        | some t =>
          if (foundLink? s goal).toOption.isSome ∧ !j.force then warned s
          else match s.system.files.placeToWrite s.directory goal with
            | .error _ => failed s
            | .ok other =>
              let s := s.store other t
              if j.keep then s
              else (s.withFiles (s.system.files.remove place)).relocate place none

def pathsAt (j : Job) (s : State) (path : String) : List String :=
  match found? s path with
  | .ok (place, .directory) =>
    if !j.deep then [path]
    else (s.system.files.entries.map (·.1)).eraseDups.filterMap fun p =>
      match s.system.files.get? p with
      | some (.file ..) => if place.isPrefixOf p then some (State.pathOf p) else none
      | _ => none
  | .ok _ => [path]
  | .error _ =>
    if !j.unpacks then [path]
    else match (j.ending :: endings).find? fun e => (found? s (path ++ e)).toOption.isSome with
      | some e => [path ++ e]
      | none => [path]

def work (j : Job) (s : State) (operands : List String) : State :=
  (if operands = [] then ["-"] else operands).foldl (fun s path =>
    if path = "-" then
      pour { j with toOutput := true } (s.leaveInput []) s.input
    else (pathsAt j s path).foldl (file j) s) s

/-- The tool, which packs or does the opposite, and can write to the output by itself. -/
def tool (unpacks toOutput : Bool) : Tool where
  letters := "ab:cdfhHklLmMnNqrS:tvVZ123456789"
  names := "ascii=a bits:=b stdout=c to-stdout=c decompress=d uncompress=d force=f help=h " ++
    "keep=k list=l license=L no-name=n name=N quiet=q silent=q recursive=r suffix:=S test=t " ++
    "verbose=v version=V fast=1 best=9 rsyncable synchronous"
  sound := ruled [("b", fun t => t ≠ "" && t.toList.all isDigit),
    ("S", fun t => t ≠ "" && !t.toList.contains '/')]
  run := fun s r =>
    if r.hasAny ["H", "L"] then s
    else if r.has "Z" then failed s
    else work {
      unpacks := unpacks || r.hasAny ["d", "t", "l"]
      tests := r.has "t", lists := r.has "l", toOutput := toOutput || r.has "c", force := r.has "f"
      keep := r.has "k", quiet := r.has "q", deep := r.has "r"
      ending := (r.value? "S").getD ".gz" } s r.operands

/-! ### Looking into packed files -/

/-- The text in a file that can be packed; or whether it is a directory. -/
def textIn (s : State) (path : String) : Except Bool (List Char) × State :=
  if isDirectory s path then (.error true, s)
  else match textAt s path with
    | (some t, s) => (.ok ((unpack? t).getD t), s)
    | (none, s) =>
      match textAt s (path ++ ".gz") with
      | (some t, s) => (.ok ((unpack? t).getD t), s)
      | (none, s) => (.error false, s)

/-- Searches through files that can be packed, one after another. -/
def search (style : Search.Style) : Tool :=
  let plain := Search.tool style false
  { plain with
    run := fun s r =>
      let needsPattern := !r.hasAny ["e", "f"]
      if r.hasAny ["r", "R", "z", "Z"] then s.withStatus 2
      else match needsPattern, r.operands with
        | true, [] => s.withStatus 2
        | _, operands =>
          let (patterns, paths) := if needsPattern then (operands.take 1, operands.drop 1)
            else ([], operands)
          let (codes, s) := (if paths = [] then ["-"] else paths).foldl (fun (codes, s) path =>
            match textIn s path with
            | (.error true, s) => (1 :: codes, s)
            | (.error false, s) => (2 :: codes, s)
            | (.ok t, s) =>
              let (stream, piped) := s.pipe t
              let after := plain.run ((piped.connect 0 stream).withStatus 0)
                { r with operands := patterns }
              (after.status :: codes, { after with streams := s.streams })) (([] : List Nat), s)
          s.withStatus (if codes.any (· > 1) then 2 else if codes.contains 0 then 0 else 1) }

def compare (plain : Tool) : Tool :=
  { plain with
    usage := 2
    run := fun s r =>
      match r.operands with
      | [a] =>
        match bareName? ".gz" a with
        | none => s.withStatus 2
        | some b => both s a b
      | [a, b] =>
        if a.endsWith ".gz" ∨ b.endsWith ".gz" then both s a b
        else plain.run s r
      | _ => s.withStatus 2 }
where
  both (s : State) (a b : String) : State :=
    match textIn s a with
    | (.ok t, s) =>
      match textIn s b with
      | (.ok u, s) => s.withStatus (if t = u then 0 else 1)
      | (_, s) => s.withStatus 2
    | (_, s) => s.withStatus 2

def table : List (String × Tool) :=
  [("gzip", tool false false), ("gunzip", tool true false), ("uncompress", tool true false),
    ("zcat", tool true true), ("zgrep", search .plain), ("zegrep", search .extended),
    ("zfgrep", search .fixed), ("zcmp", compare Cmp.tool), ("zdiff", compare Diff.tool)]

end AgentLaunch.Tools.Gzip
