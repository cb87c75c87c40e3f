import AgentLaunch.Tools.Archive
import AgentLaunch.Tools.Awk
import AgentLaunch.Tools.Charset
import AgentLaunch.Tools.Columns
import AgentLaunch.Tools.Compare
import AgentLaunch.Tools.Copy
import AgentLaunch.Tools.Dates
import AgentLaunch.Tools.Digest
import AgentLaunch.Tools.Fields
import AgentLaunch.Tools.Find
import AgentLaunch.Tools.Machine
import AgentLaunch.Tools.Merge
import AgentLaunch.Tools.Numbers
import AgentLaunch.Tools.Outline
import AgentLaunch.Tools.Perl
import AgentLaunch.Tools.Search
import AgentLaunch.Tools.Sed
import AgentLaunch.Tools.Starters
import AgentLaunch.Tools.Words

/-!
# Catalog of tools

All programs of the system, by their names.
-/

namespace AgentLaunch.Tools.Catalog

open Shell (State)

/-- Whether a text is the name or the number of a user, or of a group, in any tree. -/
def isOwner (t : String) : Bool :=
  t = "root" || t ≠ "" && t.toList.all isDigit

def tools : List (String × Tool) :=
  [("cat", Cat.tool), ("tac", Tac.tool), ("head", Head.tool), ("tail", Tail.tool), ("wc", Wc.tool),
    ("rev", Rev.tool), ("paste", Paste.tool), ("fold", Fold.tool), ("fmt", Fmt.tool),
    ("expand", Tabs.expand), ("unexpand", Tabs.unexpand), ("nl", Nl.tool), ("od", Od.tool),
    ("pr", Pr.tool), ("ptx", Ptx.tool), ("sort", Sort.tool), ("uniq", Uniq.tool),
    ("comm", Comm.tool), ("join", Join.tool), ("tsort", Tsort.tool), ("shuf", Shuf.tool),
    ("cut", Cut.tool), ("tr", Tr.tool), ("seq", Seq.tool), ("factor", Factor.tool),
    ("numfmt", Numfmt.tool), ("sleep", Sleep.tool), ("mkdir", Mkdir.tool), ("rmdir", Rmdir.tool),
    ("rm", Rm.tool), ("ln", Links.tool), ("link", Links.link), ("unlink", Links.unlink),
    ("readlink", Links.readlink), ("realpath", Links.realpath),
    ("touch", Touch.tool Dates.isText), ("truncate", Truncate.tool), ("chmod", Chmod.tool),
    ("cp", Copy.cp), ("mv", Copy.mv), ("install", Copy.install isOwner isOwner), ("ls", Ls.tool),
    ("dir", Ls.tool), ("vdir", Ls.tool), ("stat", Stat.tool), ("du", Du.tool), ("df", Du.df),
    ("tee", Tee.tool), ("dd", Dd.tool), ("split", Split.tool), ("csplit", Csplit.tool),
    ("mktemp", Make.mktemp), ("tempfile", Make.tempfile), ("mkfifo", Make.mkfifo),
    ("mknod", Make.mknod), ("shred", Shred.tool), ("sync", Names.sync),
    ("basename", Names.basename), ("dirname", Names.dirname), ("pathchk", Names.pathchk),
    ("cmp", Cmp.tool), ("diff", Diff.tool), ("sdiff", Diff.sdiff), ("diff3", Diff.diff3),
    ("b2sum", Digest.b2sum), ("cksum", Digest.cksum), ("sum", Digest.sum),
    ("base64", Encoding.tool Encoding.base64), ("base32", Encoding.tool Encoding.base32),
    ("basenc", Encoding.basenc), ("grep", Search.tool .plain false),
    ("egrep", Search.tool .extended false), ("fgrep", Search.tool .fixed false),
    ("rgrep", Search.tool .plain true), ("chown", Accounts.chown), ("chgrp", Accounts.chgrp),
    ("id", Accounts.id), ("groups", Accounts.groups), ("whoami", Accounts.whoami),
    ("getent", Accounts.getent), ("date", Dates.tool), ("uname", Machine.uname),
    ("arch", Machine.arch), ("nproc", Machine.nproc), ("tty", Machine.tty),
    ("printenv", Machine.printenv), ("pwd", Machine.pwd), ("mountpoint", Machine.mountpoint),
    ("namei", Machine.namei), ("fallocate", Machine.fallocate), ("tar", Archive.tool),
    ("iconv", Charset.tool), ("yes", Yes.tool),
    ("md5sum.textutils", Digest.tool ⟨"MD5", 32, Checksum.sum128⟩)] ++ Gzip.table ++
  Digest.kinds.map fun (name, k) => (name ++ "sum", Digest.tool k)

/-- The tools that take their words as they are. -/
def plain : List (String × (State → List String → State)) :=
  Words.table ++ [("getopt", Machine.getopt)]

/-- The tools that run commands, each with what runs one in a process of its own. -/
def finders : List (String × (Launch → State → List String → State)) :=
  [("find", Find.run), ("mawk", Awk.run), ("sed", Sed.start), ("perl", Perl.run),
    ("perl5.36.0", Perl.run)]

/-- What a tool does with words, if it is none that becomes a command. -/
def find? (launch : Launch) (name : String) : Option (State → List String → State) :=
  ((plain.find? fun t => t.1 = name).map (·.2)) <|>
    ((finders.find? fun t => t.1 = name).map fun t => t.2 launch) <|>
    ((tools.find? fun t => t.1 = name).map fun t => t.2.start) <|>
    (Outline.find? name).map fun o => o.tool.start

def shells : List String :=
  ["sh", "dash", "bash", "rbash"]

/-- The names of the programs that are for everybody. -/
def names : List String :=
  (shells ++ Starters.table.map (·.1) ++ plain.map (·.1) ++ finders.map (·.1) ++ tools.map (·.1) ++
    Outline.all.flatMap (·.tools)).eraseDups

/-- The names of the programs for the keeper of the system. -/
def systemNames : List String :=
  Outline.system.flatMap (·.tools)

end AgentLaunch.Tools.Catalog
