import AgentLaunch.Tools.Files
import AgentLaunch.Tools.Lines

/-!
# Accounts of the system

What the files of the system tell of users and groups, and the tools that show it.
-/

namespace AgentLaunch.Tools.Accounts

open Shell (State)

/-- The records of a file of the system, as their fields. -/
def records (s : State) (path : String) : List (List String) :=
  match s.textOf? path with
  | some t => (lines t.toList).map fun l => (String.ofList l).splitOn ":"
  | none => []

/-- A number without a sign that the system can have for an account. -/
def number? (t : String) : Option Nat :=
  let digits := if t.startsWith "+" then (t.toList.drop 1) else t.toList
  if digits ≠ [] ∧ digits.all isDigit ∧ ofDigits 10 digits ≤ 4294967295 then
    some (ofDigits 10 digits) else none

/-- The record of a user by the name or by the number. -/
def user? (s : State) (name : String) : Option (List String) :=
  let all := records s "/etc/passwd"
  (all.find? fun u => u.head? = some name) <|>
    ((number? name).bind fun n => all.find? fun u => u[2]? = some (toString n))

/-- The record of a group by the name or by the number. -/
def group? (s : State) (name : String) : Option (List String) :=
  let all := records s "/etc/group"
  (all.find? fun g => g.head? = some name) <|>
    ((number? name).bind fun n => all.find? fun g => g[2]? = some (toString n))

/-- The number of a user that is known, or that is told as a number. -/
def userNumber? (s : State) (name : String) : Option Nat :=
  (if name.startsWith "+" then none
    else (user? s name).bind fun u => (u[2]?).bind String.toNat?) <|> number? name

def groupNumber? (s : State) (name : String) : Option Nat :=
  (if name.startsWith "+" then none
    else (group? s name).bind fun g => (g[2]?).bind String.toNat?) <|> number? name

/-- The name of a number in a file of the system, or the number. -/
def nameOf (s : State) (path : String) (n : Nat) : String :=
  (((records s path).find? fun u => u[2]? = some (toString n)).bind List.head?).getD (toString n)

/-- Whether a text names an owner, a group, or both; and whether they are those of the superuser,
which own all files. -/
def owner? (s : State) (t : String) : Option Bool :=
  let parts := if t.toList.contains ':' then t.splitOn ":"
    else if (user? s t).isNone ∧ t.toList.contains '.' then t.splitOn "." else [t]
  match parts with
  | [user] => (userNumber? s user).map (· = 0)
  | [user, group] => do
    let u ← if user = "" then some 0 else userNumber? s user
    let g ← if group = "" then (if user = "" then some 0 else
        (user? s user).bind fun r => (r[3]?).bind String.toNat?)
      else groupNumber? s group
    return u = 0 && g = 0
  | _ => none

/-- Gives files to an owner. Only the superuser keeps what it has. -/
def give (s : State) (own : Bool) (paths : List String) (linked : Bool) : State :=
  each 1 (fun s path => do
    let _ ← if linked then foundLink? s path else found? s path
    if own then return s else throw .notPermitted) s paths

def ownership (read : State → String → Option Bool) (s : State) (r : Reading) : State :=
  let missing := (r.value? "reference").any fun p => (found? s p).toOption.isNone
  if missing then s.withStatus 1
  else if r.has "R" ∧ r.has "dereference" ∧ !r.hasAny ["H", "L"] then s.withStatus 1
  else if (r.value? "from").any fun f => (owner? s f).isNone then s.withStatus 1
  else match r.value? "reference", r.operands with
    | some _, paths => if paths = [] then s.withStatus 1 else give s true paths (r.has "h")
    | none, t :: path :: paths =>
      match (if t = "" then some true else read s t) with
      | some own => give s own (path :: paths) (r.has "h")
      | none => s.withStatus 1
    | none, _ => s.withStatus 1

def chown : Tool where
  letters := "HLPRcfhv"
  names := "recursive=R changes=c dereference from: no-dereference=h no-preserve-root " ++
    "preserve-root quiet=f reference: silent=f verbose=v help version"
  run := ownership owner?

def chgrp : Tool where
  letters := "HLPRcfhv"
  names := "recursive=R changes=c dereference no-dereference=h no-preserve-root preserve-root " ++
    "quiet=f silent=f reference: verbose=v help version"
  run := ownership fun s t => (groupNumber? s t).map (· = 0)

def groupsOf (s : State) (user : List String) : List Nat :=
  let own := ((user[3]?).bind String.toNat?).toList
  let name := user.headD ""
  let more := (records s "/etc/group").filterMap fun g =>
    if ((g[3]?).getD "").splitOn "," |>.contains name then (g[2]?).bind String.toNat? else none
  (own ++ more).eraseDups

def shownName (s : State) (path : String) (n : Nat) : String :=
  let name := nameOf s path n
  toString n ++ (if name = toString n then "" else "(" ++ name ++ ")")

/-- Shows what is known of one user. -/
def describe (r : Reading) (s : State) (u g : Nat) (gs : List Nat) : State :=
  let mark := if r.has "z" then "\x00" else "\n"
  let userText (n : Nat) : String := if r.has "n" then nameOf s "/etc/passwd" n else toString n
  let groupText (n : Nat) : String := if r.has "n" then nameOf s "/etc/group" n else toString n
  s.say ((if r.has "u" then userText u
    else if r.has "g" then groupText g
    else if r.has "G" then String.intercalate " " (gs.map groupText)
    else "uid=" ++ shownName s "/etc/passwd" u ++ " gid=" ++ shownName s "/etc/group" g ++
      " groups=" ++ String.intercalate "," (gs.map (shownName s "/etc/group"))) ++ mark)

def id : Tool where
  letters := "agnruzGZ"
  names := "context=Z group=g groups=G name=n real=r user=u zero=z help version"
  run s r :=
    let chosen := (["u", "g", "G"].filter r.has).length
    if chosen > 1 ∨ r.has "Z" then s.withStatus 1
    else if chosen = 0 ∧ r.hasAny ["n", "r", "z"] then s.withStatus 1
    else if r.operands = [] then
      describe r s s.identity.uid.toNat s.identity.gid.toNat [s.identity.gid.toNat]
    else r.operands.foldl (fun s name =>
      match user? s name with
      | some u => describe r s (((u[2]?).bind String.toNat?).getD 0)
          (((u[3]?).bind String.toNat?).getD 0) (groupsOf s u)
      | none => failed 1 s) s

def groups : Tool where
  run s r :=
    let shown (gs : List Nat) : String := String.intercalate " " (gs.map (nameOf s "/etc/group"))
    if r.operands = [] then sayLines s [shown [s.identity.gid.toNat]]
    else r.operands.foldl (fun s name =>
      match (records s "/etc/passwd").find? fun u => u.head? = some name with
      | some u => sayLines s [name ++ " : " ++ shown (groupsOf s u)]
      | none => failed 1 s) s

def whoami : Tool where
  run := alone 1 fun s _ => sayLines s [nameOf s "/etc/passwd" s.identity.uid.toNat]

/-- The databases of the system that are kept in files. -/
def databases : List (String × String) :=
  [("passwd", "/etc/passwd"), ("group", "/etc/group"), ("shadow", "/etc/shadow"),
    ("gshadow", "/etc/gshadow"), ("hosts", "/etc/hosts"), ("networks", "/etc/networks"),
    ("protocols", "/etc/protocols"), ("services", "/etc/services"), ("aliases", "/etc/aliases"),
    ("ethers", "/etc/ethers"), ("rpc", "/etc/rpc")]

def getent : Tool where
  letters := "is:V?A"
  names := "no-idn=i service:=s no-addrconfig=A help version=V usage"
  usage := 64
  run s r :=
    match r.operands with
    | [] => s.withStatus 1
    | database :: keys =>
      match (databases.find? fun d => d.1 = database).map (·.2) with
      | none =>
        if ["ahosts", "ahostsv4", "ahostsv6"].contains database then
          s.withStatus (if keys.all (["localhost", "127.0.0.1"].contains ·) then 0 else 2)
        else if ["initgroups", "netgroup"].contains database then
          s.withStatus (if database = "netgroup" ∧ keys ≠ [] then 2 else if keys = [] then 3 else 0)
        else s.withStatus 1
      | some path =>
        let all := records s path
        if keys = [] then
          sayLines s (all.map fun f => String.intercalate ":" f)
        else keys.foldl (fun s key =>
          let found := all.find? fun f =>
            f.head? = some key || (["passwd", "group"].contains database &&
              (number? key).any fun n => f[2]? = some (toString n)) ||
            (database = "hosts" && (f.flatMap fun w => w.splitOn " ").contains key)
          match found with
          | some f => sayLines s [String.intercalate ":" f]
          | none => s.withStatus 2) s

end AgentLaunch.Tools.Accounts
