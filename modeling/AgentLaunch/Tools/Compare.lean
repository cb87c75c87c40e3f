import AgentLaunch.Shell.Regex
import AgentLaunch.Tools.Files
import AgentLaunch.Tools.Columns
import AgentLaunch.Tools.Lines

/-!
# Comparison of files

Tools that tell whether files are equal, byte by byte or line by line, and where they differ. An
exit code of two tells of trouble.
-/

namespace AgentLaunch.Tools

open Shell (State Regex)

namespace Cmp

def letters : String := "kKMGTPEZY0"

def skips? (t : String) : Option (Nat × Nat) :=
  match t.splitOn ":" with
  | [a] => (Od.count? a).map fun n => (n, n)
  | [a, b] => do return (← Od.count? a, ← Od.count? b)
  | _ => none

def run (s : State) (r : Reading) : State :=
  let a := r.operands.headD "-"
  let b := (r.operands[1]?).getD "-"
  let number (k : Nat) : Nat := ((r.operands[k]?).bind Od.count?).getD 0
  let skips := ((r.value? "i").bind skips?).getD (number 2, number 3)
  if (r.has "l" ∧ r.has "s") ∨ (r.operands.drop 2).any (fun w => (Od.count? w).isNone) then
    s.withStatus 2
  else if a = b ∧ skips.1 = skips.2 ∧ a = "-" then s
  else match textAt s a with
    | (none, s) => s.withStatus 2
    | (some t, s) =>
      match textAt s b with
      | (none, s) => s.withStatus 2
      | (some u, s) =>
        let (t, u) := (t.drop skips.1, u.drop skips.2)
        let (t, u) := match (r.value? "n").bind Od.count? with
          | some n => (t.take n, u.take n)
          | none => (t, u)
        if t = u then s
        else
          let s := s.withStatus 1
          let at_ := ((t.zip u).takeWhile fun (c, d) => c = d).length
          if r.has "s" ∨ at_ = t.length ∨ at_ = u.length then s
          else sayLines s [a ++ " " ++ b ++ " differ: char " ++ toString (at_ + 1) ++ ", line " ++
            toString ((t.take at_).count '\n' + 1)]

def tool : Tool where
  letters := "bci:ln:sv"
  names := "print-bytes=b print-chars=c ignore-initial:=i verbose=l bytes:=n silent=s quiet=s " ++
    "version=v help"
  usage := 2
  sound := ruled [("i", fun t => (skips? t).isSome), ("n", Od.isCount)]
  run := counted 1 (some 4) 2 run

end Cmp

namespace Diff

def key (r : Reading) (l : List Char) : List Char :=
  let rec squeezed : List Char → List Char
    | [] => []
    | c :: rest =>
      if isBlank c then
        match squeezed rest with
        | [] => []
        | ' ' :: more => ' ' :: more
        | more => ' ' :: more
      else c :: squeezed rest
  let l := if r.has "w" then l.filter (!isBlank ·) else if r.has "b" then squeezed l
    else if r.has "Z" then (l.reverse.dropWhile isBlank).reverse else l
  let l := if r.has "strip-trailing-cr" ∧ l.getLast? = some '\r' then l.dropLast else l
  if r.has "i" then l.map Char.toLower else l

/-- Whether a line does not count when it is added or missing. -/
def isIgnored (r : Reading) (l : List Char) : Bool :=
  (r.has "B" && l.all isBlank) ||
    (r.values "I").any fun e => ((Regex.read? .plain e.toList).map
      (Regex.isIn false false false · l)).getD false

/-- The lines of a text, the last one with a mark if its end is missing. -/
def lined (t : List Char) : List (List Char) :=
  let ls := lines t
  if t = [] ∨ t.getLast? = some '\n' then ls
  else ls.dropLast ++ (ls.getLast?.map fun l => l ++ ['\n']).toList

/-- The lines of two texts between what they share in front and at the end, and how many they share
in front. -/
def changes (r : Reading) (a b : List (List Char)) : List (List Char) × List (List Char) × Nat :=
  let same (x : List Char × List Char) : Bool := key r x.1 = key r x.2
  let front := ((a.zip b).takeWhile same).length
  let (a, b) := (a.drop front, b.drop front)
  let back := ((a.reverse.zip b.reverse).takeWhile same).length
  (a.take (a.length - back), b.take (b.length - back), front)

def texts (r : Reading) (s : State) (title : String) (t u : List Char) : State :=
  let (gone, come, front) := changes r (lined t) (lined u)
  if gone.all (isIgnored r) && come.all (isIgnored r) then
    if r.has "s" then sayLines s ["Files " ++ title ++ " are identical"] else s
  else
    let s := failed 1 s
    if r.has "q" then sayLines s ["Files " ++ title ++ " differ"]
    else
      let range (n : Nat) : String :=
        toString (if n = 0 then front else front + 1) ++
          (if n > 1 then "," ++ toString (front + n) else "")
      let kind := if gone = [] then "a" else if come = [] then "d" else "c"
      let shown (mark : String) (ls : List (List Char)) : List String :=
        ls.map fun l => mark ++ String.ofList (l.filter (· ≠ '\n'))
      sayLines s ([range gone.length ++ kind ++ range come.length] ++ shown "< " gone ++
        (if gone ≠ [] ∧ come ≠ [] then ["---"] else []) ++ shown "> " come)

/-- Compares files, or directories with what is in them. The number bounds how deep they are. -/
def paths (r : Reading) : Nat → State → String → String → Bool → State
  | 0, s, _, _, _ => failed 2 s
  | n + 1, s, a, b, top =>
    let kind (path : String) : Option Bool :=
      if path = "-" then some false
      else match found? s path with
        | .ok (_, .directory) => some true
        | .ok _ => some false
        | .error _ => if (s.textOf? path).isSome then some false else none
    let empty := r.hasAny ["N"] || (r.has "P" && (kind a).isNone)
    match kind a, kind b with
    | some true, some true =>
      let names (path : String) : List String := match found? s path with
        | .ok (place, _) => s.system.files.names place
        | .error _ => []
      let all := ((names a ++ names b).mergeSort fun x y => x ≤ y).eraseDups
      let all := all.filter fun w => !(r.values "x").any fun p =>
        Shell.Glob.fits (p.toList.map (·, false)) w.toList
      all.foldl (fun s w =>
        let (x, y) := (a ++ "/" ++ w, b ++ "/" ++ w)
        let both := (names a).contains w && (names b).contains w
        if !both && !r.has "N" then
          sayLines (failed 1 s) ["Only in " ++ (if (names a).contains w then a else b) ++ ": " ++ w]
        else if both && !r.has "r" && isDirectory s x && isDirectory s y then
          sayLines s ["Common subdirectories: " ++ x ++ " and " ++ y]
        else paths r n s x y false) s
    | some true, some false =>
      if !top then sayLines (failed 1 s) ["File " ++ a ++ " is a directory while file " ++ b ++
        " is a regular file"]
      else if b = "-" then failed 2 s
      else paths r n s (a ++ "/" ++ baseName b) b false
    | some false, some true =>
      if !top then sayLines (failed 1 s) ["File " ++ a ++ " is a regular file while file " ++ b ++
        " is a directory"]
      else if a = "-" then failed 2 s
      else paths r n s a (b ++ "/" ++ baseName a) false
    | none, none => failed 2 s
    | _, _ =>
      let (t, s) := textAt s a
      let (u, s) := if a = b then (t, s) else textAt s b
      match t, u with
      | some t, some u => texts r s (a ++ " and " ++ b) t u
      | some t, none => if empty then texts r s (a ++ " and " ++ b) t [] else failed 2 s
      | none, some u => if empty then texts r s (a ++ " and " ++ b) [] u else failed 2 s
      | none, none => failed 2 s

def isNumber (t : String) : Bool :=
  t ≠ "" && t.toList.all isDigit

/-- The forms of the output; only one of them can be chosen. -/
def forms (r : Reading) : List String :=
  (r.given.filterMap fun g =>
    match g.key with
    | "c" | "C" => some "c"
    | "u" | "U" => some "u"
    | "e" | "f" | "n" | "normal" | "y" | "D" => some g.key
    | _ => none).eraseDups

def tool : Tool where
  letters := "0123456789abBcC:dD:eEfF:hHiI:lL:nNpPqrsS:tTuU:vwW:x:X:yZ"
  names := "binary brief=q changed-group-format: color:: context::=C ed=e exclude:=x " ++
    "exclude-from:=X expand-tabs=t forward-ed=f from-file: help horizon-lines: ifdef:=D " ++
    "ignore-all-space=w ignore-blank-lines=B ignore-case=i ignore-file-name-case " ++
    "ignore-matching-lines:=I ignore-space-change=b ignore-tab-expansion=E " ++
    "ignore-trailing-space=Z inhibit-hunk-merge initial-tab=T label:=L left-column line-format: " ++
    "minimal=d new-file=N new-group-format: new-line-format: no-dereference " ++
    "no-ignore-file-name-case normal old-group-format: old-line-format: paginate=l palette: " ++
    "rcs=n recursive=r report-identical-files=s sdiff-merge-assist show-c-function=p " ++
    "show-function-line:=F side-by-side=y speed-large-files=H starting-file:=S " ++
    "strip-trailing-cr suppress-blank-empty suppress-common-lines tabsize: text=a to-file: " ++
    "unchanged-group-format: unchanged-line-format: unidirectional-new-file=P unified::=U " ++
    "version=v width:=W"
  usage := 2
  sound := ruled [("C", isNumber), ("U", isNumber), ("W", Quantity.atLeast "" 1),
    ("tabsize", Quantity.atLeast "" 1), ("horizon-lines", isNumber),
    ("color", fun t => ["never", "auto", "always"].contains t),
    ("I", fun e => (Regex.read? .plain e.toList).isSome),
    ("F", fun e => (Regex.read? .plain e.toList).isSome)]
  run s r :=
    if (forms r).length > 1 ∨ (r.values "L").length > 2 then s.withStatus 2
    else match r.value? "from-file", r.value? "to-file" with
      | some _, some _ => s.withStatus 2
      | some a, none => r.operands.foldl (fun s b => paths r 40 s a b true) s
      | none, some b => r.operands.foldl (fun s a => paths r 40 s a b true) s
      | none, none =>
        match r.operands with
        | [a, b] => paths r 40 s a b true
        | _ => s.withStatus 2

/-- Compares two files line by line, side by side. -/
def sdiff : Tool where
  letters := "abBdEHiI:lo:stvw:WZ"
  names := "diff-program: expand-tabs=t help ignore-all-space=W ignore-blank-lines=B " ++
    "ignore-case=i ignore-matching-lines:=I ignore-space-change=b ignore-tab-expansion=E " ++
    "ignore-trailing-space=Z left-column=l minimal=d output:=o speed-large-files=H " ++
    "strip-trailing-cr suppress-common-lines=s tabsize: text=a version=v width:=w"
  usage := 2
  sound := ruled [("w", Quantity.atLeast "" 1), ("tabsize", Quantity.atLeast "" 1)]
  run := counted 2 (some 2) 2 fun s r =>
    match r.operands with
    | [a, b] => if r.has "o" ∧ (isDirectory s a ∨ isDirectory s b) then s.withStatus 2
      else paths r 40 s a b true
    | _ => s.withStatus 2

def diff3 : Tool where
  letters := "aeimvx3AEL:TX"
  names := "diff-program: easy-only=3 ed=e help initial-tab=T label:=L merge=m overlap-only=x " ++
    "show-all=A show-overlap=E strip-trailing-cr text=a version=v"
  usage := 2
  run := counted 3 (some 3) 2 fun s r =>
    let known := r.operands.all fun p => p = "-" || (s.textOf? p).isSome
    if !known ∨ (r.operands.filter (· = "-")).length > 1 ∨
        (r.given.filter fun g => ["e", "x", "3", "A", "E", "X"].contains g.key).length > 1 then
      s.withStatus 2
    else
      let (ts, s) := r.operands.foldl (fun (ts, s) p =>
        let (t, s) := textAt s p
        (ts ++ [t.getD []], s)) (([] : List (List Char)), s)
      match ts with
      | [a, b, c] =>
        let conflict := a ≠ b ∧ b ≠ c ∧ a ≠ c
        if r.has "m" ∧ conflict then s.withStatus 1 else s
      | _ => s

end Diff

end AgentLaunch.Tools
