import AgentLaunch.Shell.Lookup
import AgentLaunch.Tools.Copy
import AgentLaunch.Tools.Gzip
import AgentLaunch.Tools.Pieces

/-!
# Archives

The tool that puts files into an archive, and takes them out of it. In an archive, each file is a
header of fields with a fixed width, and what is in the file, filled up to whole blocks; empty
blocks are at the end.
-/

namespace AgentLaunch.Tools.Archive

open Shell (State)
open FileTree (Node)

/-- What an archive holds of a file. -/
structure Member where
  path : String
  node : Node

def blockLength : Nat := 512

/-- A text in a field that ends with zeros. -/
def field (width : Nat) (t : List UInt8) : List UInt8 :=
  (t ++ List.replicate width 0).take width

/-- A number in a field, with digits of base eight. -/
def number (width n : Nat) : List UInt8 :=
  let digits := (Nat.toDigits 8 n).map fun c => UInt8.ofNat c.toNat
  field width (List.replicate (width - 1 - digits.length) 48 ++ digits)

def bytes (t : String) : List UInt8 :=
  t.toUTF8.toList

/-- The header of a member. Its checksum counts its own field as blanks. -/
def header (m : Member) : List UInt8 :=
  let (kind, mode, size, goal) : UInt8 × Nat × Nat × String := match m.node with
    | .directory => (53, 493, 0, "")
    | .file t x => (48, if x then 493 else 420, t.size, "")
    | .link t => (50, 511, 0, t)
    | .fifo => (54, 420, 0, "")
    | .device _ | .program _ => (51, 438, 0, "")
  let front := field 100 (bytes m.path) ++ number 8 mode ++ number 8 0 ++ number 8 0 ++
    number 12 size ++ number 12 clockSeconds
  let back := [kind] ++ field 100 (bytes goal) ++ field 8 (bytes "ustar  ") ++
    field 32 (bytes "root") ++ field 32 (bytes "root")
  let sum := (front ++ List.replicate 8 32 ++ back).foldl (fun n (b : UInt8) => n + b.toNat) 0
  field blockLength (front ++ number 7 sum ++ [32] ++ back)

def entry (m : Member) : List UInt8 :=
  let t := match m.node with
    | .file t _ => t.toList
    | _ => []
  let rest := (blockLength - t.length % blockLength) % blockLength
  header m ++ t ++ List.replicate rest 0

/-- How many bytes an archive is written in at once. -/
def recordLength : Nat := 10240

def pack (ms : List Member) : List UInt8 :=
  let t := (ms.map entry).flatten ++ List.replicate (2 * blockLength) 0
  t ++ List.replicate ((recordLength - t.length % recordLength) % recordLength) 0

def textIn (t : List UInt8) (start width : Nat) : String :=
  Text.lossy (((t.drop start).take width).takeWhile (· ≠ 0))

def numberIn (t : List UInt8) (start width : Nat) : Nat :=
  ofDigits 8 ((textIn t start width).toList.filter isDigit)

/-- The members of an archive, if it is one. The number bounds how many there are. -/
def members? : Nat → List UInt8 → Option (List Member)
  | 0, _ => none
  | n + 1, t =>
    if t.all (· = 0) then (if t = [] then none else some [])
    else if t.length < blockLength ∨ !(textIn t 257 5 = "ustar") then none
    else
      let size := numberIn t 124 12
      let content := (t.drop blockLength).take size
      let node : Node := match (t.drop 156).headD 0 with
        | 53 => .directory
        | 50 => .link (textIn t 157 100)
        | 54 => .fifo
        | 51 => .device false
        | _ => .file ⟨content.toArray⟩ (numberIn t 100 8 / 64 % 2 = 1)
      let blocks := (size + blockLength - 1) / blockLength
      (members? n (t.drop (blockLength + blocks * blockLength))).map fun ms =>
        ⟨textIn t 0 100, node⟩ :: ms

/-- The members in a text, which can be packed. -/
def read? (t : List Char) : Option (List Member) :=
  let t := (Gzip.unpack? t).getD t
  members? (t.length + 2) (bytes (String.ofList t))

/-! ### The options -/

def ways : List String :=
  ["A", "c", "d", "r", "t", "u", "x", "delete", "test-label"]

def letters : String :=
  "Acdrtuxf:C:T:X:vzjJZaI:OpPkUmohlL:H:b:g:G:nK:N:V:F:M:SWwBiRs?"

def names : String :=
  "catenate=A concatenate=A create=c diff=d compare=d delete append=r list=t test-label " ++
    "update=u extract=x get=x check-device listed-incremental:=g incremental=G hole-detection: " ++
    "ignore-failed-read level: seek=n no-seek occurrence:: sparse-version: sparse=S " ++
    "add-file: directory:=C exclude: exclude-backups exclude-caches exclude-caches-all " ++
    "exclude-caches-under exclude-ignore: exclude-ignore-recursive: exclude-tag: " ++
    "exclude-tag-all: exclude-tag-under: exclude-vcs exclude-vcs-ignores no-null " ++
    "no-recursion no-unquote no-verbatim-files-from null recursion files-from:=T unquote " ++
    "verbatim-files-from exclude-from:=X anchored ignore-case no-anchored no-ignore-case " ++
    "no-wildcards no-wildcards-match-slash wildcards wildcards-match-slash " ++
    "keep-directory-symlink keep-newer-files keep-old-files=k no-overwrite-dir one-top-level:: " ++
    "overwrite overwrite-dir recursive-unlink remove-files skip-old-files unlink-first=U " ++
    "verify=W atime-preserve:: clamp-mtime delay-directory-restore group: group-map: mode: " ++
    "mtime: no-delay-directory-restore no-same-owner=o no-same-permissions numeric-owner owner: " ++
    "owner-map: preserve-permissions=p same-permissions=p same-owner sort: preserve-order=s " ++
    "same-order=s touch=m acls no-acls selinux no-selinux xattrs no-xattrs xattrs-exclude: " ++
    "xattrs-include: force-local file:=f info-script:=F new-volume-script:=F multi-volume=M " ++
    "rmt-command: rsh-command: tape-length:=L volno-file: blocking-factor:=b " ++
    "read-full-records=B ignore-zeros=i record-size: format:=H old-archive=o portability=o " ++
    "pax-option: posix label:=V auto-compress=a use-compress-program:=I bzip2=j gzip=z gunzip=z " ++
    "ungzip=z uncompress=Z compress=Z lzip lzma lzop no-auto-compress xz=J zstd " ++
    "absolute-names=P dereference=h hard-dereference starting-file:=K newer-mtime: newer:=N " ++
    "after-date:=N one-file-system strip-components: transform: xform: backup:: suffix: " ++
    "checkpoint:: checkpoint-action: full-time index-file: block-number=R show-defaults " ++
    "show-omitted-dirs show-snapshot-field-ranges show-stored-names " ++
    "show-transformed-names=show-stored-names totals:: utc verbose=v warning: interactive=w " ++
    "confirmation=w quote-chars: quoting-style: no-quote-chars: help=? usage version " ++
    "restrict to-stdout=O to-command:"

/-- Options that cannot be given: no archive is written in blocks of no length. -/
def lacking : List String :=
  ["-b", "0"]

/-- Options without a dash in the first word, each with its value from the words behind. Where that
is missing, the options are as wrong as some that cannot be given. -/
def rewritten (args : List String) : List String :=
  let takesValue (c : Char) : Bool := "fCTXIbgKNVFLH".toList.contains c
  let rec spread : List Char → List String → List String
    | [], rest => rest
    | c :: cs, rest =>
      let word := String.ofList ['-', c]
      if takesValue c then
        match rest with
        | v :: rest => word :: v :: spread cs rest
        | [] => lacking
      else word :: spread cs rest
  match args with
  | first :: rest =>
    if first.startsWith "-" ∨ first = "" then args else spread first.toList rest
  | [] => []

/-- The code for a word that is no option. -/
def usageCode : Nat := 64

def trouble : Nat := 2

/-! ### The work -/

def memberName (r : Reading) (path : String) : String :=
  if r.has "P" then path else String.ofList (path.toList.dropWhile (· = '/'))

def isLeftOut (r : Reading) (path : String) : Bool :=
  (r.values "exclude").any fun p =>
    let pattern := p.toList.map fun c => (c, false)
    Shell.Glob.fits pattern path.toList || Shell.Glob.fits pattern (baseName path).toList

/-- The members for a path, with those below it. -/
def gathered (s : State) (r : Reading) (path : String) : Option (List Member) :=
  match foundLink? s path with
  | .error _ => none
  | .ok (place, .directory) =>
    let front := memberName r (trimmed path)
    let top : Member := ⟨if front = "" then "./" else front ++ "/", .directory⟩
    if r.has "no-recursion" then some [top]
    else
      let places := (s.system.files.entries.map (·.1)).eraseDups.filter fun p =>
        place.isPrefixOf p && p ≠ place
      some (top :: places.filterMap fun p =>
        (s.system.files.get? p).bind fun node =>
          let name := String.intercalate "/" ((if front = "" then [] else [front]) ++
            p.drop place.length)
          if isLeftOut r name then none
          else some ⟨match node with
            | .directory => name ++ "/"
            | _ => name, node⟩)
  | .ok (_, node) => some [⟨memberName r path, node⟩]

/-- The words that name members: operands, and the lines of files. -/
def named (s : State) (r : Reading) : Option (List String) := do
  let lists ← (r.values "T").mapM fun path => (textAt s path).1
  return r.operands ++ (lists.flatMap lines).map String.ofList

def added (s : State) (r : Reading) (before : List Member) : State :=
  match named s r with
  | none => s.withStatus trouble
  | some paths =>
    let place? := (r.value? "C").map fun d => found? s d
    let inside := match place? with
      | some (.ok (place, .directory)) => { s with directory := State.pathOf place }
      | _ => s
    let lost := match place? with
      | some (.ok (_, .directory)) | none => false
      | some _ => true
    if lost then s.withStatus trouble
    else
      let (ms, missing) := paths.foldl (fun (ms, missing) path =>
        if isLeftOut r path then (ms, missing)
        else match gathered inside r path with
          | some more => (ms ++ more, missing)
          | none => (ms, true)) (before, false)
      let text := (Text.lossy (pack ms)).toList
      let text := if r.has "z" then Gzip.pack text else text
      let name := (r.value? "f").getD "-"
      let result : Except OsError State :=
        if name = "-" then .ok (s.say (String.ofList text)) else written s name false text
      match result with
      | .error _ => s.withStatus trouble
      | .ok after =>
        let after := if r.has "remove-files" then
            paths.foldl (fun s path => match foundLink? s path with
              | .ok (place, .directory) => cleared s place
              | .ok (place, _) => s.withFiles (s.system.files.remove place)
              | .error _ => s) after
          else after
        if missing then after.withStatus trouble else after

def opened (s : State) (r : Reading) : Option (List Member) × State :=
  match textAt s ((r.value? "f").getD "-") with
  | (some t, s) => (read? t, s)
  | (none, s) => (none, s)

/-- Whether a member is one of those that are named, or below one. -/
def isNamed (paths : List String) (m : Member) : Bool :=
  paths = [] || paths.any fun p =>
    trimmed p = trimmed m.path || m.path.startsWith (trimmed p ++ "/")

def extracted (r : Reading) (s : State) (m : Member) : State :=
  if r.has "O" then
    match m.node with
    | .file t _ => s.say (Text.lossy t.toList)
    | _ => s
  else
    let path := memberName r (trimmed m.path)
    match m.node with
    | .directory => if isDirectory s path then s else (match Mkdir.deep s path with
      | .ok s => s
      | .error _ => s.withStatus trouble)
    | node =>
      let ready := match Mkdir.deep s (parentOf path) with
        | .ok s => s
        | .error _ => s
      if (foundLink? ready path).toOption.isSome ∧ r.has "k" then ready.withStatus trouble
      else match ready.system.files.placeToMake ready.directory path with
        | .ok place => ready.withFiles (ready.system.files.replace place node)
        | .error _ =>
          match foundLink? ready path with
          | .ok (_, .directory) => ready.withStatus trouble
          | .ok (place, _) => ready.withFiles (ready.system.files.replace place node)
          | .error _ => ready.withStatus trouble

/-- Whether a member is like the file that it is of. -/
def isSame (s : State) (m : Member) : Bool :=
  match foundLink? s (trimmed m.path), m.node with
  | .ok (_, .file t _), .file u _ => t.toList = u.toList
  | .ok (_, .directory), .directory => true
  | .ok (_, .link t), .link u => t = u
  | _, _ => false

/-- Works on the members of an archive that are named. -/
def looked (s : State) (r : Reading) (paths : List String) (body : State → Member → State) :
    State :=
  match opened s r with
  | (none, s) => s.withStatus trouble
  | (some ms, s) =>
    let place? := (r.value? "C").map fun d => found? s d
    match place? with
    | some (.ok (_, .file ..)) | some (.error _) => s.withStatus trouble
    | _ =>
      let inside := match place? with
        | some (.ok (place, _)) => { s with directory := State.pathOf place }
        | _ => s
      let after := (ms.filter (isNamed paths)).foldl body inside
      let after := { after with directory := s.directory }
      if paths.all fun p => ms.any (isNamed [p]) then after else after.withStatus trouble

def run (s : State) (r : Reading) : State :=
  let way := (r.given.filter fun o => ways.contains o.key).map (·.key)
  if r.has "show-defaults" ∨ r.has "usage" then s
  else match way.eraseDups with
  | ["c"] =>
    if r.operands = [] ∧ !r.has "T" then s.withStatus trouble
    else if r.hasAny ["j", "J", "Z", "lzip", "lzma", "lzop", "zstd"] then s.withStatus trouble
    else if (r.value? "I").any fun t =>
        (Shell.Lookup.reach s ((t.splitOn " ").headD "")).toOption.isNone then
      s.withStatus trouble
    else added s r []
  | ["r"] | ["u"] =>
    match (r.value? "f").map fun p => (s.textOf? p, p) with
    | none => s.withStatus trouble
    | some (none, _) => added s r []
    | some (some t, _) =>
      added s r ((read? t.toList).getD [])
  | ["A"] =>
    if (r.value? "f").isNone then s.withStatus trouble
    else
      let before := ((opened s r).1).getD []
      match r.operands.mapM fun p => ((textAt s p).1).bind read? with
      | some more => added s { r with operands := [] } (before ++ more.flatten)
      | none => s
  | ["t"] =>
    looked s r r.operands fun s m => s.say (m.path ++ "\n")
  | ["x"] => looked s r r.operands (extracted r)
  | ["d"] =>
    looked s r r.operands fun s m => if isSame s m then s else Tools.failed 1 s
  | ["delete"] =>
    match opened s r, r.value? "f" with
    | (some ms, s), some _ =>
      let kept := ms.filter fun m => !(r.operands ≠ [] && isNamed r.operands m)
      let found := r.operands.all fun p => ms.any (isNamed [p])
      let after := added s { r with operands := [] } kept
      if found then after else after.withStatus trouble
    | _, _ => s.withStatus trouble
  | _ => s.withStatus trouble

def tool : Tool where
  letters := letters
  names := names
  usage := usageCode
  rewritten := rewritten
  sound := ruled [("b", fun t => (Quantity.count? "" t).any (· > 0)),
    ("H", isChoice formats), ("mode", fun t => (Mode.read? t).isSome)]
  unsound := fun _ => trouble
  run := run
where
  formats : List String :=
    ["gnu", "oldgnu", "pax", "posix", "ustar", "v7"]

end AgentLaunch.Tools.Archive
