import AgentLaunch.Tools.Tool

/-!
# Outlines of tools

Tools whose work leaves no trace here: what is known of them are their options, and their exit codes
with and without operands.
-/

namespace AgentLaunch.Tools

structure Outline where
  tools : List String
  letters : String
  names : String
  /-- The exit code for a mistake in the options. -/
  usage : Nat
  alone : Nat
  given : Nat

namespace Outline

def all : List Outline :=
  [⟨["clear_console"], "Vhq", "help=h version=V quiet=q", 1, 1, 1⟩,
    ⟨["logger"], "ef:ip:S:st:u:dTn:P:Vh",
      "id:: stderr=s file:=f no-act priority:=p tag:=t socket:=u socket-errors: udp=d " ++
        "tcp=T server:=n port:=P version=V help=h octet-count prio-prefix rfc3164 rfc5424:: " ++
        "size:=S msgid: skip-empty=e sd-id: sd-param: journald::", 1, 0, 0⟩,
    ⟨["renice", "dpkg-maintscript-helper", "znew", "ldd", "tzselect"], "",
      "help version", 1, 1, 1⟩,
    ⟨["scriptlive"], "c:B:I:T:t:d:m:Vh",
      "command:=c timing:=t log-timing:=T log-in:=I log-io:=B divisor:=d maxdelay:=m " ++
        "version=V help=h", 1, 1, 1⟩,
    ⟨["scriptreplay"], "B:c:I:O:T:t:s:d:m:x:Vh",
      "cr-mode:=c timing:=t log-timing:=T log-in:=I log-out:=O log-io:=B typescript:=s " ++
        "divisor:=d maxdelay:=m stream:=x summary version=V help=h", 1, 1, 1⟩,
    ⟨["wall"], "nt:g:Vh", "nobanner=n timeout:=t group:=g version=V help=h", 1, 0, 0⟩,
    ⟨["arch"], "", "help version", 1, 0, 1⟩,
    ⟨["chcon"], "HLPRhvu:r:t:l:",
      "recursive=R dereference no-dereference=h no-preserve-root preserve-root reference: " ++
        "user:=u role:=r type:=t range:=l verbose=v help version", 1, 1, 1⟩,
    ⟨["dircolors"], "bcp",
      "bourne-shell=b sh=b csh=c c-shell=c print-database=p print-ls-colors help version", 1, 1, 1⟩,
    ⟨["hostid"], "", "help=h version=v", 1, 0, 1⟩,
    ⟨["logname"], "", "help=h version=v", 1, 1, 1⟩,
    ⟨["pinky"], "sfwiqbhlp", "help version", 1, 0, 0⟩,
    ⟨["runcon"], "+r:t:u:l:c",
      "role:=r type:=t user:=u range:=l compute=c help version", 125, 125, 125⟩,
    ⟨["stty"], "agF:", "all=a save=g file:=F -debug help version", 1, 1, 1⟩,
    ⟨["users"], "", "help=h version=v", 1, 0, 0⟩,
    ⟨["who"], "abdlmpqrstuwHT",
      "all=a boot=b count=q dead=d heading=H login=l lookup message=T mesg=T process=p " ++
        "runlevel=r short=s time=t users=u writable=T help version", 1, 0, 0⟩,
    ⟨["ischroot"], "fthV", "default-false=f default-true=t help=h version=V", 1, 1, 1⟩,
    ⟨["savelog"], "acd:fhmr:t:",
      "time: no-create=c date:=d reference:=r no-dereference=h", 1, 0, 0⟩,
    ⟨["dpkg", "dpkg-deb", "dpkg-query", "dpkg-split", "dpkg-divert", "dpkg-statoverride",
      "dpkg-trigger", "update-alternatives", "gpgv", "getconf"], "", "help version", 2, 2, 2⟩,
    ⟨["dpkg-realpath", "whereis", "zforce"], "", "help version", 1, 1, 0⟩,
    ⟨["chattr", "sg", "tabs", "apt-key", "debconf-set-selections", "deb-systemd-invoke",
      "debconf-escape"], "", "", 1, 1, 1⟩,
    ⟨["lsattr"], "RVadlvp", "", 1, 0, 0⟩,
    ⟨["zless"], "", "help version", 0, 0, 0⟩,
    ⟨["zmore"], "", "help version", 1, 0, 0⟩,
    ⟨["hostname", "domainname", "nisdomainname", "ypdomainname"], "aAdfbF:h?iIsVy",
      "domain=d boot=b file:=F fqdn=f all-fqdns=A long=f short=s version=V alias=a " ++
        "ip-address=i all-ip-addresses=I nis=y yp=y", 255, 0, 1⟩,
    ⟨["dnsdomainname"], "aAdfbF:h?iIsVy",
      "domain=d boot=b file:=F fqdn=f all-fqdns=A long=f short=s version=V alias=a " ++
        "ip-address=i all-ip-addresses=I nis=y yp=y", 255, 1, 255⟩,
    ⟨["locale"], "", "help version", 64, 0, 1⟩,
    ⟨["localedef"], "", "help version", 4, 4, 4⟩,
    ⟨["pldd"], "", "help version", 64, 1, 1⟩,
    ⟨["zdump"], "c:it:vV", "", 1, 0, 0⟩,
    ⟨["faillog"], "ahl:m:rR:t:u:",
      "all=a help=h lock-secs:=l maximum:=m reset=r root:=R time:=t user:=u", 2, 0, 1⟩,
    ⟨["lastlog"], "b:ChR:St:u:",
      "before:=b clear=C help=h root:=R set=S time:=t user:=u", 1, 0, 1⟩,
    ⟨["login"], "d:fh:pr:", "", 1, 1, 1⟩,
    ⟨["newgrp"], "", "", 1, 0, 1⟩,
    ⟨["findmnt"], "AabCcDd:ehiJfF:o:O:p::PklmM:nN:rst:uvRS:T:Uw:Vxy",
      "all=A ascii=a bytes=b canonicalize=c direction:=d df=D evaluate=e first-only=f " ++
        "fstab=s help=h invert=i json=J kernel=k list=l mountpoint:=M mtab=m noheadings=n " ++
        "notruncate=u options:=O output:=o output-all poll::=p pairs=P raw=r types:=t " ++
        "nocanonicalize=C nofsroot=v submounts=R source:=S tab-file:=F task:=N target:=T " ++
        "timeout:=w uniq=U verify=x version=V shell=y verbose tree real pseudo vfs-all " ++
        "shadowed", 1, 0, 1⟩,
    ⟨["mount"], "aBcfFhilL:m::Mno:O:rRsU:vVwt:T:N:",
      "all=a fake=f fstab:=T fork=F help=h no-mtab=n read-only=r ro=r verbose=v version=V " ++
        "read-write=w rw=w options:=o test-opts:=O types:=t uuid:=U label:=L bind=B move=M " ++
        "rbind=R make-shared make-slave make-private make-unbindable make-rshared " ++
        "make-rslave make-rprivate make-runbindable mkdir::=m no-canonicalize=c " ++
        "internal-only=i show-labels=l target: target-prefix: source: onlyonce " ++
        "options-mode: options-source: options-source-force namespace:=N", 1, 0, 1⟩,
    ⟨["umount"], "aAcdfhilnqRrO:t:vVN:",
      "all=a all-targets=A detach-loop=d fake force=f help=h internal-only=i lazy=l " ++
        "no-canonicalize=c no-mtab=n quiet=q read-only=r recursive=R test-opts:=O types:=t " ++
        "verbose=v version=V namespace:=N", 1, 1, 32⟩,
    ⟨["captoinfo", "infotocap", "tic"], "0123456789CDIKLNQR:TUVWace:fGgo:qrstvwx", "", 1, 1, 0⟩,
    ⟨["clear"], "T:Vx", "", 1, 1, 1⟩,
    ⟨["infocmp"], "01A:aB:CcDdEeFfGgIiKLlnpQ:qR:rs:TtUuVv:Ww:x", "", 1, 1, 1⟩,
    ⟨["reset", "tset"], "a:cd:e:Ii:k:m:p:qQrSsVw", "", 1, 10, 10⟩,
    ⟨["toe"], "0123456789ahsu:vU:V", "", 1, 0, 0⟩,
    ⟨["tput"], "ST:Vvx", "", 2, 2, 2⟩,
    ⟨["chage"], "", "help", 2, 2, 1⟩,
    ⟨["chfn"], "f:h:o:r:R:uw:",
      "full-name:=f home-phone:=h other:=o room:=r root:=R help=u work-phone:=w " ++
        "extrausers", 2, 0, 1⟩,
    ⟨["chsh"], "hR:s:", "help=h root:=R shell:=s", 2, 0, 1⟩,
    ⟨["expiry"], "", "help", 2, 2, 2⟩,
    ⟨["gpasswd"], "a:A:d:ghM:Q:rR",
      "add:=a administrators:=A delete:=d help=h members:=M root:=Q remove-password=r " ++
        "restrict=R extrausers", 2, 2, 3⟩,
    ⟨["passwd"], "adehi:kln:qr:R:Suw:x:",
      "all=a delete=d expire=e help=h inactive:=i keep-tokens=k lock=l mindays:=n quiet=q " ++
        "repository:=r root:=R status=S unlock=u warndays:=w maxdays:=x", 6, 10, 1⟩,
    ⟨["pidof"], "qhco:d:sxzn", "", 1, 1, 1⟩,
    ⟨["addpart", "delpart", "resizepart"], "Vh", "help=h version=V", 1, 1, 1⟩,
    ⟨["choom"], "hn:p:V", "adjust:=n pid:=p help=h version=V", 1, 1, 1⟩,
    ⟨["dmesg"], "CcDdEeF:f:HhJkL::l:n:iPprSs:TtuVWwx",
      "buffer-size:=s clear=C color::=L console-level:=n console-off=D console-on=E " ++
        "decode=x file:=F facility:=f follow=w follow-new=W human=H help=h json=J kernel=k " ++
        "level:=l since: syslog=S raw=r read-clear=c reltime=e show-delta=d ctime=T " ++
        "noescape notime=t nopager=P until: userspace=u version=V time-format: " ++
        "force-prefix=p", 1, 0, 1⟩,
    ⟨["hardlink"], "VhvndfpotXcmMOx:y:i:r:S:s:b:q",
      "version=V help=h verbose=v dry-run=n respect-name=f respect-dir=d ignore-mode=p " ++
        "ignore-owner=o ignore-time=t respect-xattrs=X maximize=m minimize=M keep-oldest=O " ++
        "exclude:=x include:=i method:=y minimum-size:=s maximum-size:=S reflink:: " ++
        "skip-reflinks io-size:=b content=c quiet=q cache-size:=r", 1, 1, 0⟩,
    ⟨["ipcmk"], "hM:QS:p:Vh", "shmem:=M semaphore:=S queue=Q mode:=p version=V help=h", 1, 1, 1⟩,
    ⟨["ipcrm"], "q:m:s:Q:M:S:a::vhV",
      "shmem-id:=m shmem-key:=M queue-id:=q queue-key:=Q semaphore-id:=s semaphore-key:=S " ++
        "all::=a verbose=v version=V help=h", 1, 0, 1⟩,
    ⟨["ipcs"], "i:qmsatpclubVh",
      "id:=i queues=q shmems=m semaphores=s all=a time=t pid=p creator=c limits=l " ++
        "summary=u human bytes=b version=V help=h", 1, 0, 0⟩,
    ⟨["last", "lastb"], "hVf:n:RxadFit:p:s:0123456789w",
      "limit:=n help=h file:=f nohostname=R version=V hostlast=a since:=s until:=t " ++
        "present:=p system=x dns=d ip=i fulltimes=F fullnames=w time-format:", 1, 0, 0⟩,
    ⟨["lsblk"], "AabdDzE:e:fhJlNnMmo:OpPiI:rstVvST::w:x:y",
      "all=a bytes=b nodeps=d noempty=A discard=D dedup:=E zoned=z help=h json=J " ++
        "output:=o output-all=O merge=M perms=m noheadings=n list=l ascii=i raw=r inverse=s " ++
        "fs=f exclude:=e include:=I topology=t paths=p pairs=P scsi=S nvme=N virtio=v " ++
        "sort:=x sysroot: shell=y tree::=T version=V width:=w", 1, 0, 32⟩,
    ⟨["lscpu"], "aBbC::ce::hJp::s:xyV",
      "all=a online=b bytes=B caches::=C offline=c help=h extended::=e json=J parse::=p " ++
        "sysroot:=s physical=y hex=x version=V output-all hierarchic::", 1, 0, 1⟩,
    ⟨["lsipc"], "bceghi:Jlmno:PqrstVy",
      "bytes=b creator=c export=e global=g help=h id:=i json=J list=l newline=n " ++
        "noheadings notruncate numeric-perms=P output:=o queues=q raw=r semaphores=s " ++
        "shmems=m time=t time-format: version=V shell=y", 1, 0, 0⟩,
    ⟨["lslocks"], "biJp:o:nruhV",
      "bytes=b json=J pid:=p help=h output:=o output-all notruncate=u version=V " ++
        "noheadings=n raw=r noinaccessible=i", 1, 0, 0⟩,
    ⟨["lslogins"], "acefGg:hLl:no:prsuVyzZ",
      "acc-expiration=a colon-separate=c export=e shell=y failed=f groups:=g help=h " ++
        "logins:=l supp-groups=G newline=n notruncate noheadings output:=o output-all " ++
        "last=L raw=r system-accs=s time-format: user-accs=u version=V pwd=p print0=z " ++
        "wtmp-file: btmp-file: lastlog-file: context=Z", 1, 0, 1⟩,
    ⟨["lsmem"], "abhJno:PrS:s:V",
      "all=a bytes=b help=h json=J noheadings=n output:=o output-all pairs=P raw=r " ++
        "sysroot:=s split:=S version=V summary::", 1, 0, 1⟩,
    ⟨["lsns"], "JlPp:o:nruhVt:T::W",
      "json=J task:=p help=h output:=o output-all persistent=P notruncate=u version=V " ++
        "noheadings=n nowrap=W list=l raw=r type:=t tree::=T", 1, 0, 1⟩,
    ⟨["mcookie"], "f:m:vVh", "file:=f max-size:=m verbose=v version=V help=h", 1, 0, 0⟩,
    ⟨["mesg"], "vVh", "verbose=v version=V help=h", 1, 2, 2⟩,
    ⟨["more"], "dflcpsun:eVh",
      "silent=d logical=f no-pause=l print-over=c clean-print=p exit-on-eof=e squeeze=s " ++
        "plain=u lines:=n version=V help=h", 1, 0, 0⟩,
    ⟨["partx"], "abdglrsuvn:t:o:PS:hV",
      "bytes=b noheadings=g raw=r list=l show=s add=a delete=d update=u type:=t " ++
        "list-types nr:=n output:=o output-all pairs=P sector-size:=S help=h version=V " ++
        "verbose=v", 1, 1, 1⟩,
    ⟨["rename.ul"], "vsVhnaloi",
      "verbose=v version=V help=h all=a last=l no-act=n no-overwrite=o interactive=i " ++
        "symlink=s", 1, 1, 1⟩,
    ⟨["setterm"], "",
      "term: reset resize initialize cursor: repeat: appcursorkeys: linewrap: default " ++
        "foreground: background: ulcolor: hbcolor: inversescreen: bold: half-bright: blink: " ++
        "reverse: underline: store clear:: tabs:: clrtabs:: regtabs:: blank:: dump:: " ++
        "append: file: msg: msglevel: powersave: powerdown:: blength:: bfreq:: version help",
      1, 1, 1⟩,
    ⟨["uclampset"], "+asRp:hm:M:vV",
      "all-tasks=a pid:=p system=s reset-on-fork=R help=h verbose=v version=V", 1, 0, 0⟩,
    ⟨["utmpdump"], "fro:hV", "follow=f reverse=r output:=o help=h version=V", 1, 0, 0⟩,
    ⟨["wdctl"], "d:f:g:hFnITp:o:s:OrVx",
      "flags:=f flags-only=x help=h noflags=F noheadings=n noident=I notimeouts=T " ++
        "settimeout:=s setpretimeout:=p setpregovernor:=g output:=o oneline=O raw=r " ++
        "version=V", 1, 1, 0⟩,
    ⟨["apt", "apt-get", "apt-cache", "apt-config", "apt-mark"], "", "help version", 100, 1, 100⟩,
    ⟨["debconf"], "", "", 1, 255, 2⟩,
    ⟨["debconf-show"], "", "", 1, 1, 0⟩,
    ⟨["debconf-communicate"], "", "", 1, 127, 127⟩,
    ⟨["deb-systemd-helper"], "", "help version", 0, 0, 1⟩,
    ⟨["bashbug"], "pm:vZ", "context::=Z mode:=m parents=p verbose=v help version", 2, 1, 1⟩,
    ⟨["gzexe"], "", "help version", 0, 1, 0⟩]

/-- Tools for the keeper of the system, which are in a directory of their own. -/
def system : List Outline :=
  [⟨["chroot", "runuser"], "", "help version", 125, 125, 125⟩,
    ⟨["nologin", "installkernel", "update-rc.d", "badblocks", "e2freefrag", "e2image", "e2label",
      "e2mmpstatus", "e2undo", "e4defrag", "mke2fs", "mkfs.ext2", "mkfs.ext3", "mkfs.ext4",
      "resize2fs", "tune2fs", "logsave", "dpkg-reconfigure", "dumpe2fs", "filefrag"],
      "", "", 1, 1, 1⟩,
    ⟨["groupadd", "groupdel", "useradd", "userdel"], "", "help", 2, 2, 1⟩,
    ⟨["groupmod", "usermod"], "", "help", 2, 2, 6⟩,
    ⟨["groupmems"], "", "help", 1, 1, 1⟩,
    ⟨["grpck", "pwck"], "", "help", 1, 0, 2⟩,
    ⟨["chpasswd", "chgpasswd"], "", "help", 2, 0, 0⟩,
    ⟨["grpconv", "grpunconv", "pwconv", "pwunconv", "e4crypt", "shadowconfig"],
      "", "help", 2, 0, 0⟩,
    ⟨["add-shell", "remove-shell"], "", "help version", 1, 1, 0⟩,
    ⟨["ldconfig", "iconvconfig"], "", "help version", 64, 0, 1⟩,
    ⟨["zic", "losetup", "zramctl", "ctrlaltdel"], "", "help version", 1, 0, 1⟩,
    ⟨["service", "blkdiscard", "blkzone", "blockdev", "chcpu", "chmem", "fsfreeze", "fstrim",
      "ldattach", "mkfs", "mkfs.bfs", "mkswap", "pivot_root", "readprofile", "rtcwake", "swaplabel",
      "switch_root", "wipefs", "getty", "agetty", "sulogin"], "", "help version", 1, 1, 1⟩,
    ⟨["isosize"], "", "help version", 1, 1, 32⟩,
    ⟨["findfs"], "", "help version", 2, 2, 0⟩,
    ⟨["blkid"], "", "help version", 1, 0, 2⟩,
    ⟨["fsck"], "", "help version", 0, 0, 0⟩,
    ⟨["fsck.cramfs", "fsck.minix", "mkfs.cramfs", "mkfs.minix"], "", "help version", 16, 16, 8⟩,
    ⟨["e2fsck", "fsck.ext2", "fsck.ext3", "fsck.ext4"], "", "", 16, 16, 8⟩,
    ⟨["swapon"], "", "help version", 1, 0, 255⟩,
    ⟨["swapoff"], "", "help version", 16, 16, 4⟩,
    ⟨["rmt", "rmt-tar"], "", "help version", 64, 0, 1⟩,
    ⟨["tarcat"], "", "", 0, 2, 0⟩,
    ⟨["invoke-rc.d"], "", "help", 103, 103, 103⟩,
    ⟨["adduser", "addgroup", "deluser", "delgroup"], "", "help version", 51, 51, 51⟩,
    ⟨["fstab-decode"], "", "", 127, 1, 127⟩]

def tool (o : Outline) : Tool where
  letters := o.letters
  names := o.names
  usage := o.usage
  run s r := s.withStatus (if r.operands = [] then o.alone else o.given)

def find? (name : String) : Option Outline :=
  (all ++ system).find? fun o => o.tools.contains name

end Outline

end AgentLaunch.Tools
