import AgentLaunch.Shell.Test
import AgentLaunch.Tools.Files

/-!
# Listings

Tools that tell what is in directories, and what is known of files.
-/

namespace AgentLaunch.Tools

open Shell (State)
open FileTree (Node)

def isBlockSize (t : String) : Bool :=
  let t := if t.startsWith "'" then (t.drop 1).toString else t
  isChoice ["human-readable", "si"] t ||
    (Quantity.count? "eEgGkKmMpPtTyYzZ0" t).any (· > 0)

def byteSize : Node → Nat
  | .file bytes _ => bytes.size
  | .directory => 4096
  | .link target => target.utf8ByteSize
  | .program _ => 100000
  | _ => 0

/-- The permissions of a file as an octal number. -/
def permissions : Node → String
  | .file _ true | .directory | .program _ => "755"
  | .link _ => "777"
  | .device _ => "666"
  | _ => "644"

/-- The kind of a file and its permissions in letters. -/
def letters : Node → String
  | .directory => "drwxr-xr-x"
  | .link _ => "lrwxrwxrwx"
  | .device _ => "crw-rw-rw-"
  | .fifo => "prw-r--r--"
  | .file _ true | .program _ => "-rwxr-xr-x"
  | .file _ false => "-rw-r--r--"

namespace Ls

def isShown (r : Reading) (name : String) : Bool :=
  (r.hasAny ["a", "A", "f"] || !name.startsWith ".") && !(r.has "B" && name.endsWith "~")

def line (r : Reading) (name : String) (node : Node) : String :=
  let mark := if r.hasAny ["F"] then (match node with
      | .directory => "/"
      | .link _ => "@"
      | .file _ true | .program _ => "*"
      | .fifo => "|"
      | _ => "")
    else if r.has "p" then (match node with
      | .directory => "/"
      | _ => "")
    else ""
  if r.hasAny ["l", "n", "o", "g"] then
    letters node ++ " 1 root root " ++ toString (byteSize node) ++ " Jan  1 00:00 " ++ name ++ mark
  else name ++ mark

def inside (r : Reading) (s : State) (place : List String) : List String :=
  let own := if r.hasAny ["a", "f"] then [".", ".."] else []
  let names := own ++ (s.system.files.names place).filter (isShown r)
  let ordered := if r.has "r" then names.reverse else names
  ordered.map fun n => line r n ((s.system.files.get? (place ++ [n])).getD .directory)

/-- The directories at and below a place that are shown. The number bounds how deep they are. -/
def deep (r : Reading) (s : State) : Nat → String → List String → List (String × List String)
  | 0, path, place => [(path, place)]
  | n + 1, path, place =>
    let names := (s.system.files.names place).filter (isShown r)
    (path, place) :: names.flatMap fun name =>
      match s.system.files.get? (place ++ [name]) with
      | some .directory => deep r s n (path ++ "/" ++ name) (place ++ [name])
      | _ => []

def run (s : State) (r : Reading) : State :=
  let paths := if r.operands = [] then ["."] else r.operands
  let isLong := r.hasAny ["l", "d", "F"]
  let find (path : String) : Except OsError (List String × Node) :=
    if isLong && !r.hasAny ["L", "H"] then foundLink? s path
    else match found? s path with
      | .ok found => .ok found
      | .error _ => foundLink? s path
  let missing := paths.any fun p => match find p with
    | .ok _ => false
    | .error _ => true
  let files := paths.filterMap fun p => match find p with
    | .ok (_, .directory) => if r.has "d" then some (line r p .directory) else none
    | .ok (_, node) => some (line r p node)
    | .error _ => none
  let directories := if r.has "d" then [] else paths.flatMap fun p => match find p with
    | .ok (place, .directory) => if r.has "R" then deep r s 64 p place else [(p, place)]
    | _ => []
  let titled := paths.length > 1 || r.has "R"
  let groups := directories.map fun (p, place) =>
    (if titled then [p ++ ":"] else []) ++ inside r s place
  let whole := (if files = [] then groups else files :: groups)
  let s := sayLines s (["" ].intercalate whole)
  if missing then s.withStatus 2 else s

/-- The words for when colors are used. -/
def times : List String :=
  ["always", "yes", "force", "never", "no", "none", "auto", "tty", "if-tty"]

def isWidth (t : String) : Bool :=
  let digits := t.toList
  if digits.head? = some '0' then digits.all isDigit
  else (Quantity.count? "" t).isSome

def isTimeStyle (t : String) : Bool :=
  t.startsWith "+" || isChoice ["full-iso", "long-iso", "iso", "locale"]
    (if t.startsWith "posix-" then (t.drop 6).toString else t)

def tool : Tool where
  letters := "abcdfghiklmnopqrstuvw:xABCDFGHI:LNQRST:UXZ1"
  names := "all=a escape=b directory=d dired=D full-time group-directories-first " ++
    "human-readable=h inode=i kibibytes=k numeric-uid-gid=n no-group=G hide-control-chars=q " ++
    "reverse=r size=s width:=w almost-all=A ignore-backups=B classify::=F file-type si " ++
    "dereference-command-line=H dereference-command-line-symlink-to-dir hide: ignore:=I " ++
    "indicator-style: dereference=L literal=N quote-name=Q quoting-style: recursive=R format: " ++
    "show-control-chars sort: tabsize:=T time: time-style: zero color:: hyperlink:: block-size: " ++
    "context=Z author help version"
  usage := 2
  unsound o := if ["w", "T", "block-size"].contains o.key then 2 else 1
  sound := ruled [("w", isWidth), ("T", isWidth), ("color", isChoice times),
    ("hyperlink", isChoice times), ("F", isChoice times), ("block-size", isBlockSize),
    ("sort", isChoice ["none", "size", "time", "version", "extension", "name", "width"]),
    ("time", isChoice ["atime", "access", "use", "ctime", "status", "mtime", "modification",
      "birth", "creation"]),
    ("format", isChoice ["verbose", "long", "commas", "horizontal", "across", "vertical",
      "single-column"]),
    ("indicator-style", isChoice ["none", "slash", "file-type", "classify"]),
    ("quoting-style", isChoice ["literal", "shell", "shell-always", "shell-escape",
      "shell-escape-always", "c", "c-maybe", "escape", "locale", "clocale"])]
  run s r :=
    let long := r.hasAny ["l", "n", "o", "g", "full-time"] ||
      (r.value? "format").any fun f => "long".startsWith f || "verbose".startsWith f
    if long ∧ (r.value? "time-style").any (!isTimeStyle ·) then s.withStatus 2 else run s r

end Ls

namespace Stat

def kind : Node → String
  | .directory => "directory"
  | .link _ => "symbolic link"
  | .device _ => "character special file"
  | .fifo => "fifo"
  | .file bytes _ => if bytes.size = 0 then "regular empty file" else "regular file"
  | .program _ => "regular file"

/-- A text with what its directives ask for. -/
def shown (name : String) (node : Node) : List Char → String
  | '%' :: c :: rest =>
    (match c with
      | 'n' => name
      | 's' => toString (byteSize node)
      | 'F' => kind node
      | 'a' => permissions node
      | 'A' => letters node
      | 'u' | 'g' => "0"
      | 'U' | 'G' => "root"
      | 'h' => "1"
      | '%' => "%"
      | c => "?" |>.append (if c.isAlpha then "" else String.singleton c)) ++ shown name node rest
  | c :: rest => String.singleton c ++ shown name node rest
  | [] => ""

def tool : Tool where
  letters := "c:fLt"
  names := "dereference=L file-system=f format:=c printf: terse=t cached: help version"
  sound := ruled [("cached", isChoice ["default", "never", "always"])]
  run := counted 1 none 1 fun s r =>
    r.operands.foldl (fun s path =>
      if path = "-" then (if r.has "f" then failed 1 s else s)
      else match (if r.hasAny ["L", "f"] then found? s path else foundLink? s path) with
        | .error _ => if (Shell.Test.node? s path).isSome then s else failed 1 s
        | .ok (_, node) =>
          match r.value? "c", r.value? "printf" with
          | some format, _ => sayLines s [shown path node format.toList]
          | none, some format => s.say (shown path node format.toList)
          | none, none => sayLines s ["  File: " ++ path,
              "  Size: " ++ toString (byteSize node)]) s

end Stat

namespace Du

def isDepth (t : String) : Bool :=
  (Quantity.count? "" t).isSome

def isThreshold (t : String) : Bool :=
  t ≠ "-0" && (Quantity.signed? "kKmMGTPEZYRQ0" t).isSome

def tool : Tool where
  letters := "0abd:chHklmst:xB:DLPSX:"
  names := "all=a apparent-size block-size:=B bytes=b count-links=l dereference=L " ++
    "dereference-args=D exclude: exclude-from:=X files0-from: human-readable=h inodes si " ++
    "max-depth:=d null=0 no-dereference=P one-file-system=x separate-dirs=S summarize=s total=c " ++
    "threshold:=t time:: time-style: help version"
  sound := ruled [("B", isBlockSize), ("d", isDepth), ("t", isThreshold),
    ("time", isChoice ["atime", "access", "use", "ctime", "status"])]
  run s r :=
    let depth := ((r.value? "d").bind (Quantity.count? "")).getD 0
    if r.has "a" ∧ r.has "s" then s.withStatus 1
    else if r.has "time" ∧ (r.value? "time-style").any (!Ls.isTimeStyle ·) then s.withStatus 1
    else if r.has "s" ∧ r.has "d" ∧ depth ≠ 0 then s.withStatus 1
    else
      let paths := if r.operands = [] then ["."] else r.operands
      paths.foldl (fun s path => match foundLink? s path with
        | .ok (place, _) =>
          let inside := s.system.files.entries.filter fun e => place.isPrefixOf e.1
          let size := inside.foldl (fun n e => n + (byteSize e.2 + 4095) / 4096 * 4) 0
          sayLines s [toString (max size 4) ++ "\t" ++ path]
        | .error _ => failed 1 s) s

def df : Tool where
  letters := "aB:iF:hHklmPTt:vx:"
  names := "all=a block-size:=B inodes=i human-readable=h si=H local=l output:: portability=P " ++
    "print-type=T sync no-sync total type:=t exclude-type:=x help version"
  sound := ruled [("B", isBlockSize), ("output", fun t => (t.splitOn ",").all
    ["source", "fstype", "itotal", "iused", "iavail", "ipcent", "size", "used", "avail", "pcent",
      "file", "target"].contains)]
  run s r :=
    let known := ["tmpfs", "overlay", "proc", "sysfs", "devtmpfs"]
    if (r.values "t").any (r.values "x").contains then s.withStatus 1
    else if r.has "t" ∧ !(r.values "t").any known.contains then s.withStatus 1
    else if r.has "output" ∧ r.hasAny ["i", "P", "T"] then s.withStatus 1
    else r.operands.foldl (fun s path =>
      if (Shell.Test.node? s path).isSome then sayLines s [path] else failed 1 s) s

end Du

end AgentLaunch.Tools
