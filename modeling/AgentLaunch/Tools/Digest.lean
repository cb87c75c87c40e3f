import AgentLaunch.Text.Lossy
import AgentLaunch.Tools.Checksum
import AgentLaunch.Tools.Lines

/-!
# Digests

Tools that show checksums of files or compare them with a list, and those that write bytes with a
few letters.
-/

namespace AgentLaunch.Tools

open Shell (State)

namespace Digest

/-- A way to make checksums: its name, how many digits they have, and the sum itself. -/
structure Kind where
  name : String
  digits : Nat
  sum : List Nat → List Nat

def kinds : List (String × Kind) :=
  [("md5", ⟨"MD5", 32, Checksum.sum128⟩), ("sha1", ⟨"SHA1", 40, Checksum.sum160⟩),
    ("sha224", ⟨"SHA224", 56, Checksum.sum224⟩), ("sha256", ⟨"SHA256", 64, Checksum.sum256⟩),
    ("sha384", ⟨"SHA384", 96, Checksum.sum384⟩), ("sha512", ⟨"SHA512", 128, Checksum.sum512⟩)]

def kind? (name : String) : Option Kind :=
  (kinds.find? fun k => k.1 = name).map (·.2)

/-- The bytes of a file, or of the input. -/
def bytesAt (s : State) (path : String) : Option (List Nat) × State :=
  if path = "-" then
    (some ((String.ofList s.input).toUTF8.toList.map UInt8.toNat), s.leaveInput [])
  else match s.system.files.lookup s.directory path with
    | .ok (_, .file bytes _) => (some (bytes.toList.map UInt8.toNat), s)
    | _ => ((s.textOf? path).map fun t => t.toUTF8.toList.map UInt8.toNat, s)

def isHex (t : List Char) : Bool :=
  t.all fun c => isDigit c || ('a' ≤ c.toLower && c.toLower ≤ 'f')

/-- The checksum and the path of a line of a list. -/
def listed? (k : Kind) (l : List Char) : Option (String × String) :=
  let l := unindented l
  let l := if l.head? = some '\\' then l.drop 1 else l
  let tag := (k.name ++ " (").toList
  if tag.isPrefixOf l then
    let behind := (l.drop tag.length).reverse
    let sum := (behind.takeWhile (· ≠ '=')).reverse
    let front := behind.drop (sum.length + 1)
    let sum := unindented sum
    match front with
    | ' ' :: ')' :: path =>
      if sum.length = k.digits ∧ isHex sum then
        some (String.ofList (sum.map Char.toLower), String.ofList path.reverse)
      else none
    | _ => none
  else
    let sum := l.take k.digits
    if sum.length < k.digits ∨ !isHex sum then none
    else match l.drop k.digits with
      | ' ' :: mark :: path =>
        if path = [] then (if mark = ' ' ∨ mark = '*' then none
          else some (String.ofList (sum.map Char.toLower), String.singleton mark))
        else if mark = ' ' ∨ mark = '*' then
          some (String.ofList (sum.map Char.toLower), String.ofList path)
        else some (String.ofList (sum.map Char.toLower), String.ofList (mark :: path))
      | _ => none

def check (k : Kind) (r : Reading) (s : State) (t : List Char) : State :=
  let ls := (lines t).filter fun l => l.head? ≠ some '#'
  let entries := ls.filterMap (listed? k)
  let (results, s) : List (Option Bool) × State := entries.foldl (fun (found, s) (sum, path) =>
    let quiet := r.hasAny ["quiet", "status"]
    match bytesAt s path with
    | (none, s) =>
      if r.has "ignore-missing" then (found, s)
      else (found ++ [none], if r.has "status" then s
        else sayLines s [path ++ ": FAILED open or read"])
    | (some bytes, s) =>
      let fits : Bool := Checksum.digits (k.sum bytes) = sum
      (found ++ [some fits], if fits then (if quiet then s else sayLines s [path ++ ": OK"])
        else if r.has "status" then s else sayLines s [path ++ ": FAILED"])) ([], s)
  let sound := entries ≠ [] && results.all (· = some true) &&
    (entries.length = ls.length || !r.has "strict") &&
    (results ≠ [] || !r.has "ignore-missing")
  if sound then s else failed 1 s

def run (k : Kind) (s : State) (r : Reading) : State :=
  let checks := r.has "c"
  let onlyThen := r.hasAny ["ignore-missing", "quiet", "status", "w", "strict"]
  let notThen := r.hasAny ["tag", "z", "b", "t"]
  if (checks ∧ notThen) ∨ (!checks ∧ onlyThen) ∨
      (r.has "tag" ∧ r.last? ["b", "t", "tag"] = some "t") then
    s.withStatus 1
  else
    (if r.operands = [] then ["-"] else r.operands).foldl (fun s path =>
      if checks then
        match textAt s path with
        | (some t, s) => check k r s t
        | (none, s) => failed 1 s
      else match bytesAt s path with
        | (some bytes, s) =>
          let sum := Checksum.digits (k.sum bytes)
          s.say ((if r.has "tag" then k.name ++ " (" ++ path ++ ") = " ++ sum
            else sum ++ (if r.has "b" then " *" else "  ") ++ path) ++
            String.singleton (lineMark r "z"))
        | (none, s) => failed 1 s) s

def tool (k : Kind) : Tool where
  letters := "bctwz"
  names := "check=c ignore-missing quiet status warn=w strict tag zero=z binary=b text=t " ++
    "help version"
  run := run k

/-- A longer sum, whose length can be told in bits. -/
def b2sum : Tool where
  letters := "l:bctwz"
  names := "length:=l check=c ignore-missing quiet status warn=w strict tag zero=z binary=b " ++
    "text=t help version"
  sound := ruled [("l", fun t => (Quantity.count? "" t).any fun n => n % 8 = 0 && n ≤ 512)]
  run s r :=
    let bits := ((r.value? "l").bind (Quantity.count? "")).getD 512
    let bytes := if bits = 0 then 64 else bits / 8
    run ⟨"BLAKE2b", 2 * bytes, fun t => (Checksum.sum512 t).take bytes⟩ s r

def algorithms : List String :=
  ["bsd", "sysv", "crc", "md5", "sha1", "sha224", "sha256", "sha384", "sha512", "blake2b", "sm3"]

/-- Shows a number for each file, or for the input. -/
def numbers (value : List Nat → Nat) (s : State) (r : Reading) : State :=
  (if r.operands = [] then ["-"] else r.operands).foldl (fun s path =>
    match bytesAt s path with
    | (some bytes, s) => sayLines s [toString (value bytes) ++ " " ++ toString bytes.length ++
        (if r.operands = [] then "" else " " ++ path)]
    | (none, s) => failed 1 s) s

def cksum : Tool where
  letters := "a:l:bctwz"
  names := "length:=l check=c ignore-missing quiet status warn=w strict tag zero=z algorithm:=a " ++
    "base64 debug raw untagged binary=b text=t help version"
  sound := ruled [("a", isChoice algorithms),
    ("l", fun t => (Quantity.count? "" t).any fun n => n % 8 = 0)]
  run s r :=
    let name := (r.value? "a").getD "crc"
    match kind? name with
    | some k => run k s { r with given := r.given.filter fun g => g.key ≠ "tag" }
    | none =>
      let onlyThen := r.hasAny ["ignore-missing", "quiet", "status", "w", "strict"]
      if r.has "l" ∧ name ≠ "blake2b" then s.withStatus 1
      else if r.has "c" then
        if (r.value? "a").isSome ∧ name ≠ "blake2b" ∧ name ≠ "sm3" then s.withStatus 1
        else (if r.operands = [] then ["-"] else r.operands).foldl (fun s path =>
          match textAt s path with
          | (some t, s) =>
            let found := kinds.find? fun k => (lines t).any fun l =>
              (k.2.name ++ " (").toList.isPrefixOf l
            match found with
            | some k => check k.2 r s t
            | none => failed 1 s
          | (none, s) => failed 1 s) s
      else if onlyThen then s.withStatus 1
      else numbers Checksum.remainder s r

def sum : Tool where
  letters := "rs"
  names := "sysv=s help version"
  run s r := numbers (if r.last? ["r", "s"] = some "s" then fun bytes =>
    let total := bytes.foldl (· + ·) 0
    (total % 65536 + total / 65536) % 65535 else Checksum.turnedSum) s r

end Digest

namespace Encoding

/-- The letters of a way to write bytes, how many bits each one stands for, and how many letters
make up a group. -/
structure Alphabet where
  letters : List Char
  bits : Nat
  group : Nat

def base64 : Alphabet :=
  ⟨"ABCDEFGHIJKLMNOPQRSTUVWXYZabcdefghijklmnopqrstuvwxyz0123456789+/".toList, 6, 4⟩

def base64url : Alphabet :=
  ⟨"ABCDEFGHIJKLMNOPQRSTUVWXYZabcdefghijklmnopqrstuvwxyz0123456789-_".toList, 6, 4⟩

def base32 : Alphabet :=
  ⟨"ABCDEFGHIJKLMNOPQRSTUVWXYZ234567".toList, 5, 8⟩

def base32hex : Alphabet :=
  ⟨"0123456789ABCDEFGHIJKLMNOPQRSTUV".toList, 5, 8⟩

def base16 : Alphabet :=
  ⟨"0123456789ABCDEF".toList, 4, 2⟩

def base2 : Alphabet :=
  ⟨"01".toList, 1, 8⟩

def bitsOf : Nat → Nat → List Nat
  | 0, _ => []
  | n + 1, k => bitsOf n (k / 2) ++ [k % 2]

def ofBits (bits : List Nat) : Nat :=
  bits.foldl (fun n b => 2 * n + b) 0

def encode (a : Alphabet) (bytes : List Nat) : List Char :=
  let bits := bytes.flatMap (bitsOf 8)
  let parts := Checksum.blocks a.bits bits.length bits
  let filled := parts.map fun p => p ++ List.replicate (a.bits - p.length) 0
  let letters := filled.map fun p => (a.letters[ofBits p]?).getD '='
  letters ++ List.replicate ((a.group - letters.length % a.group) % a.group) '='

/-- The bytes of a text of whole groups; only the last one may be filled up. -/
def decode? (a : Alphabet) (t : List Char) : Option (List Nat) :=
  let marks := (t.reverse.takeWhile (· = '=')).length
  let body := t.take (t.length - marks)
  let bits := body.flatMap fun c => bitsOf a.bits (a.letters.idxOf c)
  let left := bits.length % 8
  let fits := t.length % a.group = 0 && marks < a.group && left < a.bits &&
    (marks = 0 || marks = (a.group - body.length % a.group) % a.group)
  if fits ∧ body.all a.letters.contains then
    some ((Checksum.blocks 8 bits.length (bits.take (bits.length - left))).map ofBits)
  else none

def wrapped (width : Nat) (t : List Char) : String :=
  if width = 0 then String.ofList t else unlines (Checksum.blocks width t.length t)

def run (a : Alphabet) (s : State) (r : Reading) : State :=
  match Digest.bytesAt s (r.operands.headD "-") with
  | (none, s) => s.withStatus 1
  | (some bytes, s) =>
    if r.has "d" then
      let t := (bytes.map Char.ofNat).filter (· ≠ '\n')
      let t := if r.has "i" then t.filter fun c => a.letters.contains c || c = '=' else t
      match decode? a t with
      | some found =>
        s.say (Text.lossy (found.map UInt8.ofNat))
      | none => s.withStatus 1
    else
      let width := ((r.value? "w").bind (Quantity.count? "")).getD 76
      s.say (wrapped width (encode a bytes))

def tool (a : Alphabet) : Tool where
  letters := "diw:"
  names := "decode=d wrap:=w ignore-garbage=i help version"
  sound := ruled [("w", fun t => (Quantity.count? "" t).isSome)]
  run := counted 0 (some 1) 1 (run a)

def alphabets : List (String × Alphabet) :=
  [("base64", base64), ("base64url", base64url), ("base32", base32), ("base32hex", base32hex),
    ("base16", base16), ("base2msbf", base2), ("base2lsbf", base2), ("z85", base64)]

def basenc : Tool where
  letters := "diw:"
  names := "decode=d wrap:=w ignore-garbage=i base64 base64url base32 base32hex base16 " ++
    "base2msbf base2lsbf z85 help version"
  sound := ruled [("w", fun t => (Quantity.count? "" t).isSome)]
  run s r :=
    match (r.last? (alphabets.map (·.1))).bind fun n =>
        (alphabets.find? fun a => a.1 = n).map (·.2) with
    | some a => counted 0 (some 1) 1 (run a) s r
    | none => s.withStatus 1

end Encoding

end AgentLaunch.Tools
