import AgentLaunch.Image
import AgentLaunch.Launch
import AgentLaunch.Shell.Run
import AgentLaunch.SpawnPlan

/-!
# Hosts

A machine on which agents are launched: its files, its accounts, and the rules by which it starts
programs. A process runs to its end at once, as nobody waits for it.
-/

namespace AgentLaunch

structure Host where
  files : FileTree
  accounts : AccountTable
  environment : Environment
  workingDirectory : String
  /-- The effective user and group of the launcher. -/
  caller : Caller
  /-- Whether the launcher has the privilege to change to another account. -/
  privileged : Bool
  lastPid : UInt32

structure Process where
  pid : UInt32
  ending : Shell.Ending
  /-- Whether its end was waited for, after which it has no number any more. -/
  waited : Bool

namespace Process

def id (p : Process) : Option UInt32 :=
  if p.waited then none else some p.pid

/-- The exit code; there is none after a signal. -/
def code (p : Process) : Option Int32 :=
  match p.ending with
  | .exited code => some (Int32.ofNat code)
  | .killed _ => none

/-- Waits for the end. Waiting again gives the same code. -/
def wait (p : Process) : Option Int32 × Process :=
  (p.code, { p with waited := true })

def waitTimes : Nat → Process → List (Option Int32) × Process
  | 0, p => ([], p)
  | n + 1, p =>
    let (code, p) := p.wait
    let (codes, p) := waitTimes n p
    (code :: codes, p)

def handle (p : Process) : Handle :=
  ⟨p.id, .finished p.code⟩

end Process

namespace Host

/-- The directories in which programs are looked for. -/
def searchPath (h : Host) : List String :=
  ((h.environment.get? "PATH").getD "/bin:/usr/bin").splitOn ":"

/-- What runs for a path when a command is called by a name. -/
def image (h : Host) (path name : String) (args : List String) : Except OsError Image :=
  Image.ofPath h.files h.workingDirectory h.environment.bindings path (name :: args)

/-- Looks for a program in directories. That access was denied is told only if it is found nowhere
else. -/
def search (h : Host) (name : String) (args : List String) (denied : Bool) (last : OsError) :
    List String → Except OsError Image
  | [] => .error (if denied then .noAccess else last)
  | directory :: rest =>
    match h.image (if directory = "" then name else directory ++ "/" ++ name) name args with
    | .ok image => .ok image
    | .error e =>
      if e = .noAccess then search h name args true e rest
      else if e = .noEntry ∨ e = .notDirectory then search h name args denied e rest
      else .error e

/-- What runs for the name of a program. A name with a slash is a path. -/
def find (h : Host) (program : String) (args : List String) : Except OsError Image :=
  if program = "" then .error .noEntry
  else if program.toList.contains '/' then h.image program program args
  else h.search program args false .noEntry h.searchPath

/-- The process of the launcher, below which all others are. -/
def identity (h : Host) (pid : UInt32) : Shell.Identity :=
  ⟨pid, h.caller.uid, h.caller.gid, "", []⟩

/-- The state in which a process begins. Its streams are empty, and what it writes is gone. -/
def begin (h : Host) (pid : UInt32) : Shell.State where
  system := ⟨h.files, [], [], pid, 0, []⟩
  identity := h.identity pid
  shell := h.identity pid
  waiting := []
  streams := [(0, .null), (1, .null), (2, .null)]
  shellStreams := []
  directory := h.workingDirectory
  mask := 18
  name := ""
  arguments := []
  bindings := h.environment.bindings.map fun v => ⟨v.1, some v.2, true, false⟩
  functions := []
  switches := ⟨false, false, false, false⟩
  traps := []
  status := 0
  asked := 0
  children := []
  tested := false
  loops := 0
  saved := none
  leaving := none

/-- The machine as another user and group meet it. -/
def under (h : Host) (credentials : UInt32 × UInt32) : Host :=
  { h with caller := ⟨credentials.1, credentials.2⟩ }

def execute (h : Host) (p : SpawnPlan) : Except OsError (Process × Host) := do
  if p.sawNul then throw SpawnPlan.nulError
  if p.uid.isSome ∧ !h.privileged then throw .notPermitted
  let image ← h.find p.program p.args
  let pid := h.lastPid + 1
  let begun := ((h.under (SpawnPlan.credentials h.caller p)).begin pid).renewed p.program image
  let final := Shell.beginProgram Shell.callDepth image begun
  let after := { h with files := final.system.files, lastPid := final.system.lastPid }
  return (⟨pid, final.ending, false⟩, after)

def spawn (r : Request) (h : Host) : Logged (Except SpawnError Process × Host) := do
  let plan ← (⟨.ofRequest h.caller r, SpawnPlan.events h.caller r⟩ : Logged SpawnPlan)
  match h.execute plan with
  | .error e => return (.error (.ofOs r.command.program e), h)
  | .ok (process, h) =>
    Logged.report (.spawned r.command.program process.id)
    return (.ok process, h)

/-- Looks an account up. No account has a name with a NUL. -/
def resolve (accounts : AccountTable) (name : String) : Logged (Except LookupError Account) :=
  if SpawnPlan.hasNul name then pure (.error (.unknownUser name))
  else match accounts.resolve name with
    | .ok a => do
      Logged.report (.accountResolved a)
      return .ok a
    | .error e => pure (.error e)

/-- The machine as a launcher sees it. A released process keeps running. -/
def platform (accounts : AccountTable) : Platform Host where
  resolve := resolve accounts
  spawn r h := do
    match ← spawn r h with
    | (.ok process, h) => return (.ok process.handle, h)
    | (.error e, h) => return (.error e, h)
  release _ h := h

def systemAccounts : AccountTable :=
  .ofList
    [⟨"root", 0, 0⟩, ⟨"daemon", 1, 1⟩, ⟨"bin", 2, 2⟩, ⟨"sys", 3, 3⟩, ⟨"sync", 4, 65534⟩,
      ⟨"games", 5, 60⟩, ⟨"man", 6, 12⟩, ⟨"lp", 7, 7⟩, ⟨"mail", 8, 8⟩, ⟨"news", 9, 9⟩,
      ⟨"uucp", 10, 10⟩, ⟨"proxy", 13, 13⟩, ⟨"www-data", 33, 33⟩, ⟨"backup", 34, 34⟩,
      ⟨"list", 38, 38⟩, ⟨"irc", 39, 39⟩, ⟨"_apt", 42, 65534⟩, ⟨"nobody", 65534, 65534⟩]

def systemDirectories : List (List String) :=
  let below (front : List String) (names : List String) : List (List String) :=
    names.map fun name => front ++ [name]
  below [] ["boot", "dev", "etc", "home", "media", "mnt", "opt", "proc", "root", "run", "srv",
    "sys", "tmp"] ++
  below ["dev"] ["shm", "pts", "mqueue"] ++
  below ["etc"] ["apt", "cron.d", "cron.daily", "default", "dpkg", "init.d", "kernel",
    "ld.so.conf.d", "logrotate.d", "opt", "pam.d", "profile.d", "rc0.d", "rc1.d", "rc2.d",
    "rc3.d", "rc4.d", "rc5.d", "rc6.d", "rcS.d", "security", "selinux", "skel", "systemd",
    "terminfo", "update-motd.d"] ++
  below ["run"] ["lock"] ++
  below ["usr"] ["games", "include", "lib", "lib64", "libexec", "sbin", "share", "src"] ++
  below ["usr", "local"] ["bin", "etc", "games", "include", "lib", "sbin", "share", "src"] ++
  below ["usr", "share"] ["doc", "man", "zoneinfo"] ++
  below ["var"] ["backups", "cache", "lib", "local", "log", "mail", "opt", "spool", "tmp"] ++
  [["var", "cache", "apt"], ["var", "cache", "debconf"], ["var", "lib", "apt"],
    ["var", "lib", "dpkg"]]

/-- The links of a freshly installed machine, with where they lead. -/
def systemLinks : List (List String × String) :=
  [(["bin"], "usr/bin"), (["sbin"], "usr/sbin"), (["lib"], "usr/lib"), (["lib64"], "usr/lib64"),
    (["usr", "bin", "sh"], "dash"), (["usr", "bin", "rbash"], "bash"),
    (["usr", "bin", "awk"], "/etc/alternatives/awk"),
    (["usr", "bin", "nawk"], "/etc/alternatives/nawk"),
    (["etc", "alternatives", "awk"], "/usr/bin/mawk"),
    (["etc", "alternatives", "nawk"], "/usr/bin/mawk"),
    (["usr", "bin", "which"], "/etc/alternatives/which"),
    (["etc", "alternatives", "which"], "/usr/bin/which.debianutils"),
    (["etc", "os-release"], "../usr/lib/os-release"), (["etc", "mtab"], "../proc/self/mounts"),
    (["var", "spool", "mail"], "../mail"), (["dev", "fd"], "/proc/self/fd"),
    (["dev", "stdin"], "/proc/self/fd/0"), (["dev", "stdout"], "/proc/self/fd/1"),
    (["dev", "stderr"], "/proc/self/fd/2"), (["var", "run"], "/run"),
    (["var", "lock"], "/run/lock")]

/-- The devices of a freshly installed machine, with whether they have no end. -/
def systemDevices : List (String × Bool) :=
  [("null", false), ("zero", true), ("full", true), ("random", true), ("urandom", true)]

/-- What the file of accounts tells of an account: its description, its home and its shell. -/
def detailsOf (a : Account) : String × String × String :=
  let locked := "/usr/sbin/nologin"
  match a.name with
  | "root" => ("root", "/root", "/bin/bash")
  | "daemon" => ("daemon", "/usr/sbin", locked)
  | "bin" | "proxy" => (a.name, "/bin", locked)
  | "sys" => ("sys", "/dev", locked)
  | "sync" => ("sync", "/bin", "/bin/sync")
  | "games" => ("games", "/usr/games", locked)
  | "man" => ("man", "/var/cache/man", locked)
  | "lp" => ("lp", "/var/spool/lpd", locked)
  | "mail" => ("mail", "/var/mail", locked)
  | "news" | "uucp" => (a.name, "/var/spool/" ++ a.name, locked)
  | "www-data" => ("www-data", "/var/www", locked)
  | "backup" => ("backup", "/var/backups", locked)
  | "list" => ("Mailing List Manager", "/var/list", locked)
  | "irc" => ("ircd", "/run/ircd", locked)
  | "_apt" => ("", "/nonexistent", locked)
  | "nobody" => ("nobody", "/nonexistent", locked)
  | name => (name, "/home/" ++ name, "/bin/sh")

def accountLine (a : Account) : String :=
  let (description, home, shell) := detailsOf a
  String.intercalate ":" [a.name, "x", toString a.uid.toNat, toString a.gid.toNat, description,
    home, shell]

def systemGroups : List (String × Nat) :=
  [("root", 0), ("daemon", 1), ("bin", 2), ("sys", 3), ("adm", 4), ("tty", 5), ("disk", 6),
    ("lp", 7), ("mail", 8), ("news", 9), ("uucp", 10), ("man", 12), ("proxy", 13), ("kmem", 15),
    ("dialout", 20), ("fax", 21), ("voice", 22), ("cdrom", 24), ("floppy", 25), ("tape", 26),
    ("sudo", 27), ("audio", 29), ("dip", 30), ("www-data", 33), ("backup", 34), ("operator", 37),
    ("list", 38), ("irc", 39), ("src", 40), ("shadow", 42), ("utmp", 43), ("video", 44),
    ("sasl", 45), ("plugdev", 46), ("staff", 50), ("games", 60), ("users", 100),
    ("nogroup", 65534)]

/-- The texts of files of a freshly installed machine. -/
def systemTexts : List (List String × String) :=
  let unlines (ls : List String) : String := String.join (ls.map (· ++ "\n"))
  [(["etc", "passwd"], unlines (systemAccounts.accounts.map accountLine)),
    (["etc", "group"], unlines (systemGroups.map fun (name, n) =>
      String.intercalate ":" [name, "x", toString n, ""])),
    (["etc", "shadow"], unlines (systemAccounts.accounts.map fun a =>
      a.name ++ ":*:19000:0:99999:7:::")),
    (["etc", "gshadow"], unlines (systemGroups.map fun (name, _) => name ++ ":*::")),
    (["etc", "hosts"], "127.0.0.1\tlocalhost\n"), (["etc", "hostname"], "localhost\n"),
    (["etc", "debian_version"], "12.0\n"), (["etc", "issue"], "Debian GNU/Linux 12 \\n \\l\n"),
    (["usr", "lib", "os-release"], unlines ["PRETTY_NAME=\"Debian GNU/Linux 12 (bookworm)\"",
      "NAME=\"Debian GNU/Linux\"", "VERSION_ID=\"12\"", "VERSION=\"12 (bookworm)\"",
      "VERSION_CODENAME=bookworm", "ID=debian"]),
    (["etc", "resolv.conf"], "nameserver 127.0.0.1\n"), (["etc", "fstab"], "# no file systems\n"),
    (["etc", "profile"], "export PATH\n"), (["etc", "shells"], "/bin/sh\n/bin/bash\n"),
    (["etc", "environment"], ""), (["etc", "nsswitch.conf"], "passwd: files\n"),
    (["etc", "login.defs"], "MAIL_DIR /var/mail\n"), (["etc", "bash.bashrc"], "# settings\n"),
    (["etc", "host.conf"], "multi on\n"), (["etc", "issue.net"], "Debian GNU/Linux 12\n"),
    (["etc", "timezone"], "Etc/UTC\n"), (["etc", "ld.so.conf"], "include ld.so.conf.d/*.conf\n"),
    (["etc", "motd"], "\nWelcome.\n"), (["etc", "subuid"], ""), (["etc", "subgid"], ""),
    (["etc", "skel", ".bashrc"], "# settings\n"), (["etc", "skel", ".profile"], "# settings\n"),
    (["etc", "skel", ".bash_logout"], "# settings\n"), (["root", ".bashrc"], "# settings\n"),
    (["root", ".profile"], "mesg n 2> /dev/null || true\n")]

def systemTree : FileTree :=
  let linked := systemLinks.map (·.1)
  let programs := (Tools.Catalog.names.map fun name => (["usr", "bin", name], .program name)) ++
    Tools.Catalog.systemNames.map fun name => (["usr", "sbin", name], .program name)
  ⟨systemDirectories.map (fun d => (d, .directory)) ++
    systemTexts.map (fun (f, t) => (f, .file t.toUTF8 false)) ++
    systemDevices.map (fun (name, endless) => (["dev", name], .device endless)) ++
    systemLinks.map (fun (place, target) => (place, .link target)) ++
    programs.filter fun p => !linked.contains p.1⟩

/-- A freshly installed machine on which the superuser launches agents, without the privilege to
change to another account. -/
def fresh (environment : Environment) (workingDirectory : String) : Host where
  files := systemTree.add (Path.components workingDirectory) .directory
  accounts := systemAccounts
  environment := environment
  workingDirectory := workingDirectory
  caller := ⟨0, 0⟩
  privileged := false
  lastPid := 1000

def textOf? (h : Host) (path : String) : Option String :=
  (h.begin 0).textOf? path

/-- Launches agents one after another. Each one's record, a file that it may write, is taken away
before the next. -/
def launchAll (now : Int) (record : String) (h : Host) :
    List Spec → List (Except LaunchFailure Receipt × Option String)
  | [] => []
  | spec :: rest =>
    let (result, after) := (launch (platform h.accounts) now spec h).value
    let seen := after.textOf? record
    let cleared := match after.files.lookup after.workingDirectory record with
      | .ok (place, .file ..) => { after with files := after.files.remove place }
      | _ => after
    (result, seen) :: launchAll now record cleared rest

end Host

end AgentLaunch
