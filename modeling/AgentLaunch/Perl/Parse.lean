import AgentLaunch.Perl.Syntax
import AgentLaunch.Shell.Format
import AgentLaunch.Shell.Signal

/-!
# Reading scripts

A script is read from its characters, as what a character means depends on whether an operand or an
operator is awaited. The number that the functions take bounds how often they call each other.
-/

namespace AgentLaunch.Perl.Parse

/-- What is left to be read, with what was found so far. -/
structure Source where
  rest : List Char
  functions : List (String × List Statement)
  blocks : List (List Statement)
  initial : List (List Statement)
  final : List (List Statement)
  strict : Bool
  modern : Bool
  declared : List String
  loaded : List String

abbrev Reader (α : Type) := Source → Option (α × Source)

def isWordChar (c : Char) : Bool :=
  (c.isAlphanum && c.toNat < 128) || c = '_'

def isNameStart (c : Char) : Bool :=
  isWordChar c && !c.isDigit

/-- A text without blanks and remarks in front. The number bounds how many there are. -/
def skip : Nat → List Char → List Char
  | 0, t => t
  | n + 1, t =>
    match t with
    | '#' :: rest => skip n (rest.dropWhile (· ≠ '\n'))
    | '\n' :: '=' :: c :: rest =>
      if isNameStart c then skip n (behindManual n rest) else t.drop 1
    | c :: rest => if Tools.isBlank c then skip n rest else t
    | [] => []
where
  /-- The text behind the lines that belong to a manual. -/
  behindManual : Nat → List Char → List Char
    | 0, t => t
    | _, [] => []
    | n + 1, c :: rest =>
      if "\n=cut".toList.isPrefixOf (c :: rest) then (rest.drop 4).dropWhile (· ≠ '\n')
      else behindManual n rest

def Source.skipped (s : Source) : Source :=
  { s with rest := skip (s.rest.length + 1) s.rest }

def Source.drop (s : Source) (n : Nat) : Source :=
  { s with rest := s.rest.drop n }

/-- The word in front of a text; parts of it stand between pairs of colons. -/
def word (t : List Char) : List Char :=
  let rec go : Nat → List Char → List Char
    | 0, _ => []
    | n + 1, ':' :: ':' :: c :: rest =>
      if isNameStart c then ':' :: ':' :: go n (c :: rest) else []
    | n + 1, c :: rest => if isWordChar c then c :: go n rest else []
    | _, [] => []
  match t with
  | c :: _ => if isNameStart c then go t.length t else []
  | [] => []

def symbol? (w : String) (s : Source) : Option Source :=
  let s := s.skipped
  if w.toList.isPrefixOf s.rest then some (s.drop w.length) else none

def word? (w : String) (s : Source) : Option Source :=
  let s := s.skipped
  if word s.rest = w.toList then some (s.drop w.length) else none

/-- The other one of a pair of brackets. -/
def closing (c : Char) : Char :=
  match c with
  | '(' => ')'
  | '[' => ']'
  | '\x7b' => '\x7d'
  | '<' => '>'
  | c => c

/-- The text up to a closing delimiter; brackets can be in each other. A backslash in front of a
delimiter goes. The first number bounds how many characters there are. -/
def delimited (opening : Char) : Nat → Nat → List Char → Option (List Char × List Char)
  | 0, _, _ | _, _, [] => none
  | n + 1, depth, '\\' :: c :: rest => do
    let (t, rest) ← delimited opening n depth rest
    let isMark := (c = opening || c = closing opening) && closing opening = opening
    return (if isMark then (c :: t, rest) else ('\\' :: c :: t, rest))
  | n + 1, depth, c :: rest =>
    if c = closing opening then
      if depth = 0 then some ([], rest)
      else (delimited opening n (depth - 1) rest).map fun (t, rest) => (c :: t, rest)
    else
      let depth := if c = opening then depth + 1 else depth
      (delimited opening n depth rest).map fun (t, rest) => (c :: t, rest)

/-- A text between delimiters, behind a word. -/
def quoted (s : Source) : Option (Char × List Char × Source) :=
  let s := match s.rest with
    | '#' :: _ => s
    | _ => s.skipped
  match s.rest with
  | c :: rest =>
    if isWordChar c ∨ c = ',' ∨ c = ';' ∨ c = ')' then none
    else (delimited c (rest.length + 1) 0 rest).map fun (t, rest) => (c, t, { s with rest := rest })
  | [] => none

/-- The second text between delimiters, behind the first one. -/
def quotedAgain (opening : Char) (s : Source) : Option (List Char × Source) :=
  if closing opening = opening then
    (delimited opening (s.rest.length + 1) 0 s.rest).map fun (t, rest) =>
      (t, { s with rest := rest })
  else (quoted s).map fun (_, t, s) => (t, s)

def flagsOf (s : Source) : List Char × Source :=
  let fs := s.rest.takeWhile Char.isAlpha
  (fs, s.drop fs.length)

/-- A text whose only escapes are those of backslashes and quotes. -/
def plain : List Char → List Char
  | '\\' :: '\\' :: rest => '\\' :: plain rest
  | '\\' :: '\'' :: rest => '\'' :: plain rest
  | c :: rest => c :: plain rest
  | [] => []

/-- The character that an escape in a text with values stands for. -/
def escape (t : List Char) : List Char × List Char :=
  match t with
  | 'n' :: rest => (['\n'], rest)
  | 't' :: rest => (['\t'], rest)
  | 'r' :: rest => (['\r'], rest)
  | 'a' :: rest => (['\x07'], rest)
  | 'e' :: rest => (['\x1b'], rest)
  | 'f' :: rest => (['\x0c'], rest)
  | 'x' :: '\x7b' :: rest =>
    let digits := rest.takeWhile (· ≠ '\x7d')
    ([Char.ofNat (Tools.ofDigits 16 digits)], rest.drop (digits.length + 1))
  | 'x' :: rest =>
    let digits := (rest.take 2).takeWhile fun c => Tools.digitValue c < 16
    ([Char.ofNat (Tools.ofDigits 16 digits)], rest.drop digits.length)
  | c :: rest =>
    if Tools.digitValue c < 8 then
      let digits := (t.take 3).takeWhile fun c => Tools.digitValue c < 8
      ([Char.ofNat (Tools.ofDigits 8 digits)], t.drop digits.length)
    else ([c], rest)
  | [] => ([], [])

def number (t : List Char) : Value × List Char :=
  let based (base : Nat) (t : List Char) : Value × List Char :=
    let digits := t.takeWhile fun c => Tools.digitValue c < base || c = '_'
    (Value.ofInteger (Int.ofNat (Tools.ofDigits base (digits.filter (· ≠ '_')))),
      t.drop digits.length)
  match t with
  | '0' :: 'x' :: rest | '0' :: 'X' :: rest => based 16 rest
  | '0' :: 'b' :: rest | '0' :: 'B' :: rest => based 2 rest
  | '0' :: c :: rest =>
    if c.isDigit then based 8 (c :: rest) else decimal t
  | t => decimal t
where
  decimal (t : List Char) : Value × List Char :=
    let whole := t.takeWhile fun c => c.isDigit || c = '_'
    let rest := t.drop whole.length
    let (places, rest) := match rest with
      | '.' :: '.' :: _ => ([], rest)
      | '.' :: more =>
        let ds := more.takeWhile fun c => c.isDigit || c = '_'
        (ds.filter (· ≠ '_'), more.drop ds.length)
      | _ => ([], rest)
    let (e, behind) := Tools.Numeral.exponent 'e' rest
    let digits := whole.filter (· ≠ '_') ++ places
    if places = [] ∧ behind.length = rest.length then
      (Value.ofInteger (Int.ofNat (Tools.ofDigits 10 digits)), rest)
    else
      (Value.normalized (.ofDecimal false (Tools.ofDigits 10 digits)
        (e - Int.ofNat places.length)), behind)

/-- The signs of operators between operands, longer ones first, each with how tightly it binds. -/
def operators : List (String × Nat) :=
  [("**=", 5), ("||=", 5), ("&&=", 5), ("//=", 5), ("<<=", 5), (">>=", 5), ("...", 7), ("<=>", 12),
    ("**", 20), ("=~", 18), ("!~", 18), ("==", 12), ("!=", 12), ("<=", 13), (">=", 13), ("&&", 9),
    ("||", 8), ("//", 8), ("..", 7), ("<<", 15), (">>", 15), ("+=", 5), ("-=", 5), ("*=", 5),
    ("/=", 5), (".=", 5), ("%=", 5), ("&=", 5), ("|=", 5), ("^=", 5), ("<", 13), (">", 13),
    ("+", 16), ("-", 16), (".", 16), ("*", 17), ("/", 17), ("%", 17), ("&", 11), ("|", 10),
    ("^", 10), ("?", 6)]

def wordOperators : List (String × Nat) :=
  [("x", 17), ("lt", 13), ("gt", 13), ("le", 13), ("ge", 13), ("eq", 12), ("ne", 12), ("cmp", 12)]

def operator? (s : Source) : Option (String × Nat × Source) :=
  let s := s.skipped
  match s.rest with
  | '=' :: '>' :: _ => none
  | '=' :: '=' :: _ => some ("==", 12, s.drop 2)
  | '=' :: '~' :: _ => some ("=~", 18, s.drop 2)
  | '=' :: _ => some ("=", 5, s.drop 1)
  | '-' :: '>' :: _ => none
  | 'x' :: '=' :: c :: _ => if c = '=' ∨ c = '>' ∨ c = '~' then none else some ("x=", 5, s.drop 2)
  | 'x' :: c :: _ =>
    if c.isDigit ∨ !isWordChar c then some ("x", 17, s.drop 1) else wordOperator s
  | t =>
    match operators.find? fun o => o.1.toList.isPrefixOf t with
    | some (w, p) => some (w, p, s.drop w.length)
    | none => wordOperator s
where
  wordOperator (s : Source) : Option (String × Nat × Source) :=
    let w := String.ofList (word s.rest)
    (wordOperators.find? fun o => o.1 = w).map fun o => (w, o.2, s.drop w.length)

/-- The functions that take at most one value, and bind it tightly. -/
def unaries : List String :=
  ["defined", "ref", "scalar", "lc", "uc", "lcfirst", "ucfirst", "length", "chr", "ord", "int",
    "abs", "sqrt", "sin", "cos", "exp", "log", "hex", "oct", "rand", "srand", "exit", "sleep",
    "alarm", "shift", "pop", "chdir", "rmdir", "readlink", "umask", "localtime", "gmtime",
    "require", "undef", "close", "exists", "delete", "each", "keys", "values", "quotemeta", "chomp",
    "chop", "eof", "closedir", "readdir", "lstat", "stat", "caller", "fileno", "chroot", "getpgrp",
    "_exit"]

def listFunctions : List String :=
  ["die", "warn", "kill", "system", "exec", "push", "unshift", "splice", "join", "split", "reverse",
    "open", "unlink", "mkdir", "rename", "chmod", "utime", "sprintf", "return", "index", "rindex",
    "substr", "waitpid", "atan2", "binmode", "opendir", "link", "symlink", "chown", "select",
    "syswrite", "sysread", "read", "seek", "syscall", "setpgrp", "pos", "glob", "pack", "unpack",
    "truncate", "pipe", "lock", "local_time"]

def bares : List String :=
  ["time", "times", "wait", "getppid", "fork", "wantarray", "last", "next", "redo"]

/-- The words that a statement can end with. -/
def modifiers : List String :=
  ["if", "unless", "while", "until", "for", "foreach", "or", "and", "xor", "not", "x", "eq", "ne",
    "lt", "gt", "le", "ge", "cmp"]

def beginsExpression (s : Source) : Bool :=
  let t := s.skipped.rest
  match t with
  | [] => false
  | '=' :: _ | '?' :: _ | ',' :: _ | ';' :: _ | ')' :: _ | ']' :: _ | '\x7d' :: _ | ':' :: _
  | '*' :: _ | '.' :: _ | '|' :: _ | '>' :: _ | '^' :: _ => false
  | t =>
    let w := String.ofList (word t)
    w = "not" || !modifiers.contains w

def isGiven (n : String) : Bool :=
  ["_", "a", "b", "ENV", "ARGV", "INC", "SIG", "STDIN", "STDOUT", "STDERR"].contains n ||
    n.toList.any (fun c => !isWordChar c) || n.toList.all Char.isDigit

def Source.allows (s : Source) (n : String) : Bool :=
  !s.strict || isGiven n || s.declared.contains n

/-- The name of a variable behind its sign, and whether it stands in braces. -/
def name? (t : List Char) : Option (List Char × List Char) :=
  match t with
  | '\x7b' :: rest =>
    match rest with
    | '^' :: _ => none
    | rest =>
      let w := word rest
      let w := if w = [] then rest.takeWhile Char.isDigit else w
      match rest.drop w.length with
      | '\x7d' :: behind => if w = [] then none else some (w, behind)
      | _ => none
  | '^' :: c :: rest => some (['^', c], rest)
  | c :: rest =>
    let w := word t
    if w ≠ [] then some (w, t.drop w.length)
    else if c.isDigit then
      let ds := t.takeWhile Char.isDigit
      some (ds, t.drop ds.length)
    else if "_!@?0,/\\;&.$\"<>()[]\x60'+:|-".toList.contains c then some ([c], rest)
    else none
  | [] => none

def elements : Expr → List Expr
  | .list es => es
  | e => [e]

def Source.withBlock (s : Source) (body : List Statement) : Nat × Source :=
  (s.blocks.length, { s with blocks := s.blocks ++ [body] })

def namesOf : List Expr → List String
  | .scalar n :: rest | .array n :: rest | .table n :: rest => n :: namesOf rest
  | _ :: rest => namesOf rest
  | [] => []

def comma? (s : Source) : Option Source :=
  symbol? "," s <|> symbol? "=>" s

/-- An expression that is matched with another one. -/
def bound (a b : Expr) : Option Expr :=
  match b with
  | .fits none p fs => some (.fits (some a) p fs)
  | .substitute none p r fs => some (.substitute (some a) p r fs)
  | .translate none x y fs => some (.translate (some a) x y fs)
  | e => some (.fits (some a) [e] [])

/-- Whether a word is a version of the language. -/
def isVersion (w : List Char) : Bool :=
  match w with
  | 'v' :: c :: _ => c.isDigit
  | c :: _ => c.isDigit
  | [] => false

def versionOf (w : String) : Nat × Nat :=
  let number (t : String) : Nat := Tools.ofDigits 10 (t.toList.filter Char.isDigit)
  match w.splitOn "." with
  | [a] => (number a, 0)
  | a :: b :: rest =>
    let isShort := rest = [] && !w.startsWith "v"
    (number a, number (if isShort then String.ofList (b.toList.take 3) else b))
  | [] => (0, 0)

/-- Whether a version is newer than the language. -/
def tooNew (w : String) : Bool :=
  let (a, b) := versionOf w
  a > 5 || (a = 5 && b > 36)

/-- Whether variables have to be declared in a version. -/
def isStrict (w : String) : Bool :=
  let (a, b) := versionOf w
  a = 5 && b ≥ 12

/-- Whether an operand stands where an operator has to be. -/
def startsTerm (s : Source) : Bool :=
  match s.skipped.rest with
  | c :: _ =>
    (isWordChar c || c = '$' || c = '@' || c = '"' || c = '\'') &&
      !modifiers.contains (String.ofList (word s.skipped.rest))
  | [] => false

/-- The end of a statement. A closing brace stays. -/
def end_ (s : Source) : Option Source :=
  let s := s.skipped
  match s.rest with
  | [] => some s
  | ';' :: _ => some (s.drop 1)
  | '\x7d' :: _ => some s
  | _ => none

def modules : List String :=
  ["AutoLoader", "Carp", "Config", "Cwd", "DynaLoader", "Errno", "Exporter", "Fcntl",
    "File::Basename", "File::Glob", "File::Path", "File::Spec", "File::Spec::Unix", "File::Temp",
    "FileHandle", "Getopt::Long", "Hash::Util", "IO", "IO::File", "IO::Handle", "IO::Pipe",
    "IO::Seekable", "IO::Select", "IO::Socket", "IO::Socket::INET", "IO::Socket::IP",
    "IO::Socket::UNIX", "IPC::Open2", "IPC::Open3", "List::Util", "POSIX", "Scalar::Util",
    "SelectSaver", "Socket", "Symbol", "Text::ParseWords", "Text::Tabs", "Text::Wrap", "Tie::Hash",
    "XSLoader", "attributes", "base", "builtin", "bytes", "constant", "fields", "integer", "lib",
    "locale", "overload", "overloading", "parent", "re", "utf8", "vars", "warnings",
    "warnings::register"]

def moduleConstant? (f : String) : Option Nat :=
  let signal := String.ofList (f.toList.drop 3)
  let errors : List (String × Nat) :=
    [("EPERM", 1), ("ENOENT", 2), ("ESRCH", 3), ("EINTR", 4), ("EIO", 5), ("ECHILD", 10),
      ("EAGAIN", 11), ("EACCES", 13), ("EEXIST", 17), ("ENOTDIR", 20), ("EISDIR", 21),
      ("EINVAL", 22), ("WNOHANG", 1), ("WUNTRACED", 2), ("EXIT_SUCCESS", 0), ("EXIT_FAILURE", 1)]
  if f.startsWith "SIG" ∧ Shell.Signal.names.contains signal then
    some (Shell.Signal.names.idxOf signal)
  else (errors.find? fun e => e.1 = f).map (·.2)

/-- The function that a word means because of a module that is used. -/
def moduleFunction? (loaded : List String) (w : String) : Option String :=
  let ofSystem : List String :=
    ["_exit", "abort", "raise", "floor", "ceil", "fmod", "pow", "strtol", "getpid", "WIFEXITED",
      "WEXITSTATUS", "WIFSIGNALED", "WTERMSIG"]
  let bare (front : String) : Option String :=
    if w.startsWith front then some (String.ofList (w.toList.drop front.length)) else none
  let known (module_ front : String) (has : String → Bool) (imports : Bool) : Option String :=
    if !loaded.contains module_ then none
    else match bare front with
      | some f => if has f then some f else none
      | none => if imports && has w then some w else none
  let isSystem (f : String) : Bool := ofSystem.contains f || (moduleConstant? f).isSome
  known "POSIX" "POSIX::" isSystem true <|>
    known "Errno" "Errno::" (fun f => (moduleConstant? f).isSome) true <|>
    known "List::Util" "List::Util::" (["sum", "sum0", "max", "min", "product"].contains ·) true <|>
    known "Carp" "Carp::" (["croak", "confess", "carp", "cluck"].contains ·) true <|>
    known "Cwd" "Cwd::" (["getcwd", "cwd"].contains ·) true <|>
    known "File::Basename" "File::Basename::" (["basename", "dirname"].contains ·) true

/-- A loop around an expression. A block comes before the first look at the condition. -/
def looping (e c : Expr) : Statement :=
  match e with
  | .withBlock "do" _ _ => .doWhile e c
  | e => .whileDo c [.evaluate e]

/-- Takes constants as functions that have no arguments: pairs of names and values, or one name with
its values. -/
def withConstants (arePairs : Bool) (args : List Expr) (s : Source) : Source :=
  let rec go : List Expr → List (String × List Statement)
    | .value (.text name) :: e :: rest => (String.ofList name, [.evaluate e]) :: go rest
    | _ => []
  match arePairs, args with
  | true, pairs => { s with functions := go pairs ++ s.functions }
  | false, .value (.text name) :: values =>
    { s with functions := (String.ofList name, [.evaluate (.list values)]) :: s.functions }
  | false, _ => s

/-- Whether something can be assigned to an expression. -/
def isPlace : Expr → Bool
  | .value _ | .joined _ | .lambda _ | .call .. | .callValue .. | .print .. | .readLine _
  | .command _ | .infix_ .. => false
  | .builtin f _ => ["substr", "slice", "entries", "undef", "keys", "local_time", "pos"].contains f
  | _ => true

mutual

/-- An expression with all its commas and words. -/
def whole : Nat → Reader Expr
  | 0, _ => none
  | n + 1, s => do
    let (a, s) ← conjunction n s
    disjunctions n a s

def disjunctions : Nat → Expr → Reader Expr
  | 0, _, _ => none
  | n + 1, a, s =>
    match word? "or" s, word? "xor" s with
    | some s, _ => do
      let (b, s) ← conjunction n s
      disjunctions n (.logical "||" a b) s
    | _, some s => do
      let (b, s) ← conjunction n s
      disjunctions n (.logical "xor" a b) s
    | none, none => some (a, s)

def conjunction : Nat → Reader Expr
  | 0, _ => none
  | n + 1, s => do
    let (a, s) ← negation n s
    conjunctions n a s

def conjunctions : Nat → Expr → Reader Expr
  | 0, _, _ => none
  | n + 1, a, s =>
    match word? "and" s with
    | some s => do
      let (b, s) ← negation n s
      conjunctions n (.logical "&&" a b) s
    | none => some (a, s)

def negation : Nat → Reader Expr
  | 0, _ => none
  | n + 1, s =>
    match word? "not" s with
    | some s => do
      let (a, s) ← negation n s
      return (.not a, s)
    | none => commas n s

def commas : Nat → Reader Expr
  | 0, _ => none
  | n + 1, s => do
    let (a, s) ← binary n 5 s
    match comma? s with
    | none => return (a, s)
    | some s =>
      let (es, s) ← more n s
      return (.list (a :: es), s)

def more : Nat → Reader (List Expr)
  | 0, _ => none
  | n + 1, s =>
    match comma? s with
    | some s => more n s
    | none =>
      if beginsExpression s then do
        let (a, s) ← binary n 5 s
        match comma? s with
        | none => return ([a], s)
        | some s =>
          let (es, s) ← more n s
          return (a :: es, s)
      else some ([], s)

/-- Operands and operators that bind so tightly at least. -/
def binary : Nat → Nat → Reader Expr
  | 0, _, _ => none
  | n + 1, least, s => do
    let (a, s) ← unary n s
    operations n least a s

def operations : Nat → Nat → Expr → Reader Expr
  | 0, _, _, _ => none
  | n + 1, least, a, s =>
    match operator? s with
    | none => some (a, s)
    | some (w, p, behind) =>
      if p < least then some (a, s)
      else if w = "?" then do
        let (yes, s) ← binary n 5 behind
        let s ← symbol? ":" s
        let (no, s) ← binary n 6 s
        operations n least (.conditional a yes no) s
      else if p = 5 then do
        if !isPlace a then none
        let (b, s) ← binary n 5 behind
        operations n least (.assign (String.ofList (w.toList.dropLast)) a b) s
      else if p = 20 then do
        let (b, s) ← binary n 19 behind
        operations n least (.infix_ w a b) s
      else if p = 18 then do
        let (b, s) ← unary n behind
        let e ← bound a b
        operations n least (if w = "!~" then .not e else e) s
      else do
        let (b, s) ← binary n (p + 1) behind
        let e := if ["&&", "||", "//"].contains w then Expr.logical w a b else .infix_ w a b
        operations n least e s

def unary : Nat → Reader Expr
  | 0, _ => none
  | n + 1, s =>
    let s := s.skipped
    match s.rest with
    | '!' :: _ => do
      let (a, s) ← unary n (s.drop 1)
      return (.not a, s)
    | '+' :: '+' :: _ => do
      let (a, s) ← unary n (s.drop 2)
      return (.step true true a, s)
    | '-' :: '-' :: _ => do
      let (a, s) ← unary n (s.drop 2)
      return (.step true false a, s)
    | '\\' :: _ => do
      let (a, s) ← unary n (s.drop 1)
      match a with
      | .call f [] => return (.builtin "code" [.value (.ofString f)], s)
      | a => return (.builtin "reference" [a], s)
    | '+' :: _ => unary n (s.drop 1)
    | '-' :: c :: d :: _ =>
      if c.isAlpha ∧ !isWordChar d ∧ "edfrwxszlpSbctugkMAC".toList.contains c then do
        let behind := s.drop 2
        let (e, s) ← if beginsExpression behind then binary n 16 behind
          else some (.scalar "_", behind)
        return (.fileTest c e, s)
      else do
        let (a, s) ← binary n 20 (s.drop 1)
        return (.negative a, s)
    | '-' :: _ => do
      let (a, s) ← binary n 20 (s.drop 1)
      return (.negative a, s)
    | _ => postfix_ n s

/-- An operand with what stands right behind it. -/
def postfix_ : Nat → Reader Expr
  | 0, _ => none
  | n + 1, s => do
    let (a, s) ← term n s
    let (a, s) ← selected true n a s
    match s.skipped.rest with
    | '+' :: '+' :: _ => return (.step false true a, s.skipped.drop 2)
    | '-' :: '-' :: _ => return (.step false false a, s.skipped.drop 2)
    | _ => return (a, s)

/-- An operand with the parts of it that are selected. In a text there are no calls. -/
def selected (isCode : Bool) : Nat → Expr → Reader Expr
  | 0, _, _ => none
  | n + 1, a, s =>
    let isPart := match a with
      | .item .. | .entry .. | .itemBehind .. | .entryBehind .. => true
      | .callValue .. => true
      | _ => false
    let t := if isCode then s.skipped else s
    match t.rest with
    | '-' :: '>' :: '[' :: _ => do
      let (i, s) ← whole n (t.drop 3)
      let s ← symbol? "]" s
      selected isCode n (.itemBehind a i) s
    | '-' :: '>' :: '\x7b' :: _ => do
      let (k, s) ← key n (t.drop 3)
      selected isCode n (.entryBehind a k) s
    | '-' :: '>' :: '@' :: '*' :: _ => some (.behind '@' a, t.drop 4)
    | '-' :: '>' :: '%' :: '*' :: _ => some (.behind '%' a, t.drop 4)
    | '-' :: '>' :: c :: _ =>
      if !isCode then some (a, s)
      else if c = '(' then do
        let (es, s) ← parenthesized n (t.drop 2)
        selected isCode n (.callValue a es) s
      else if isNameStart c then do
        let w := word (t.rest.drop 2)
        let t := t.drop (w.length + 2)
        let (es, s) ← if t.rest.head? = some '(' then parenthesized n t else some ([], t)
        selected isCode n (.call (String.ofList w) (a :: es)) s
      else some (a, s)
    | '[' :: _ =>
      if !isPart then some (a, s)
      else do
        let (i, s) ← whole n (t.drop 1)
        let s ← symbol? "]" s
        selected isCode n (.itemBehind a i) s
    | '\x7b' :: _ =>
      if !isPart then some (a, s)
      else do
        let (k, s) ← key n (t.drop 1)
        selected isCode n (.entryBehind a k) s
    | '(' :: _ =>
      if !isPart || !isCode then some (a, s)
      else do
        let (es, s) ← parenthesized n t
        selected isCode n (.callValue a es) s
    | _ => some (a, s)

/-- What a sign stands in front of, which leads to a variable: a block or another variable. -/
def leading : Nat → Reader Expr
  | 0, _ => none
  | n + 1, s =>
    match s.rest with
    | '\x7b' :: _ => do
      let (e, s) ← whole n (s.drop 1)
      let s ← symbol? "\x7d" s
      return (e, s)
    | '$' :: '$' :: c :: _ =>
      if isNameStart c then do
        let (e, s) ← leading n (s.drop 1)
        return (.behind '$' e, s)
      else none
    | '$' :: rest =>
      let w := word rest
      if w = [] ∨ !s.allows (String.ofList w) then none
      else some (.scalar (String.ofList w), s.drop (w.length + 1))
    | _ => none

def parenthesized : Nat → Reader (List Expr)
  | 0, _ => none
  | n + 1, s => do
    let s ← symbol? "(" s
    match symbol? ")" s with
    | some s => return ([], s)
    | none =>
      let (e, s) ← whole n s
      let s ← symbol? ")" s
      return (elements e, s)

/-- A text in which variables stand for their values. In a pattern, escapes stay. -/
def interpolated (isPattern : Bool) : Nat → List Char → Source → Option (List Expr × Source)
  | 0, _, _ => none
  | n + 1, t, s =>
    match t with
    | [] => some ([], s)
    | '\\' :: rest =>
      if isPattern then do
        let (es, s) ← interpolated isPattern n (rest.drop 1) s
        return (.value (.text ('\\' :: rest.take 1)) :: es, s)
      else do
        let (t, rest) := escape rest
        let (es, s) ← interpolated isPattern n rest s
        return (.value (.text t) :: es, s)
    | '$' :: c :: rest =>
      if isPattern ∧ (c = ')' ∨ c = '|') then do
        let (es, s) ← interpolated isPattern n (c :: rest) s
        return (.value (.text ['$']) :: es, s)
      else do
        let outer := s.rest
        let (e, s) ← chosen n { s with rest := c :: rest }
        let (e, s) ← selected false n e s
        let (es, s) ← interpolated isPattern n s.rest { s with rest := outer }
        return (e :: es, s)
    | '@' :: c :: rest =>
      if isNameStart c ∨ c = '$' ∨ c = '\x7b' then do
        let outer := s.rest
        let (e, s) ← term n { s with rest := '@' :: c :: rest }
        let (es, s) ← interpolated isPattern n s.rest { s with rest := outer }
        return (.builtin "join" [.value (.text [' ']), e] :: es, s)
      else do
        let (es, s) ← interpolated isPattern n (c :: rest) s
        return (.value (.text ['@']) :: es, s)
    | c :: rest => do
      let (es, s) ← interpolated isPattern n rest s
      return (.value (.text [c]) :: es, s)

/-- A variable behind its dollar sign, with what selects a part of it. -/
def chosen : Nat → Reader Expr
  | 0, _ => none
  | n + 1, s =>
    match s.rest with
    | '#' :: rest =>
      match name? rest with
      | some (w, behind) =>
        if w = ['$'] then lastBehind n { s with rest := rest }
        else some (.lastIndex (String.ofList w), { s with rest := behind })
      | none => lastBehind n { s with rest := rest }
    | '$' :: c :: rest =>
      if isNameStart c ∨ c = '\x7b' ∨ c = '$' then do
        let (e, t) ← leading n s
        dereferenced n e t
      else some (.scalar "$", { s with rest := c :: rest })
    | t =>
      match name? t with
      | none =>
        if t.head? = some '\x7b' then do
          let (e, t) ← leading n s
          dereferenced n e t
        else none
      | some (w, behind) => do
      let v := String.ofList w
      if !s.allows v then none
      let s := { s with rest := behind }
      match behind with
      | '[' :: _ =>
        let (i, s) ← whole n (s.drop 1)
        let s ← symbol? "]" s
        return (.item v i, s)
      | '\x7b' :: _ =>
        let (k, s) ← key n (s.drop 1)
        return (.entry v k, s)
      | _ => return (.scalar v, s)

/-- The last index of the array that a reference leads to. -/
def lastBehind : Nat → Reader Expr
  | 0, _ => none
  | n + 1, s => do
    let (e, s) ← leading n s
    return (.infix_ "-" (.builtin "scalar" [.behind '@' e]) (.value (.integer 1)), s)

/-- What is behind a reference, or a part of it. -/
def dereferenced : Nat → Expr → Reader Expr
  | 0, _, _ => none
  | n + 1, e, s =>
    match s.rest with
    | '[' :: _ => do
      let (i, s) ← whole n (s.drop 1)
      let s ← symbol? "]" s
      return (.itemBehind e i, s)
    | '\x7b' :: _ => do
      let (k, s) ← key n (s.drop 1)
      return (.entryBehind e k, s)
    | _ => some (.behind '$' e, s)

/-- The key of an entry up to its closing brace. -/
def key : Nat → Reader Expr
  | 0, _ => none
  | n + 1, s => do
    let t := s.skipped
    let w := word t.rest
    match symbol? "\x7d" (t.drop w.length) with
    | some behind =>
      if w = [] then none else return (.value (.text w), behind)
    | none =>
      let (e, s) ← whole n s
      let s ← symbol? "\x7d" s
      return (e, s)

def term : Nat → Reader Expr
  | 0, _ => none
  | n + 1, s =>
    let s := s.skipped
    match s.rest with
    | [] => none
    | '"' :: rest => do
      let (t, rest) ← delimited '"' (rest.length + 1) 0 rest
      let (es, s) ← interpolated false n t { s with rest := rest }
      return (.joined es, s)
    | '\'' :: rest => do
      let (t, rest) ← delimited '\'' (rest.length + 1) 0 rest
      return (.value (.text (plain t)), { s with rest := rest })
    | '\x60' :: rest => do
      let (t, rest) ← delimited '\x60' (rest.length + 1) 0 rest
      let (es, s) ← interpolated false n t { s with rest := rest }
      return (.command es, s)
    | '$' :: _ => chosen n (s.drop 1)
    | '@' :: '$' :: _ => do
      let (e, s) ← leading n (s.drop 1)
      return (.behind '@' e, s)
    | '@' :: '\x7b' :: _ => do
      let (e, s) ← leading n (s.drop 1)
      return (.behind '@' e, s)
    | '%' :: '$' :: _ => do
      let (e, s) ← leading n (s.drop 1)
      return (.behind '%' e, s)
    | '%' :: '\x7b' :: _ => do
      let (e, s) ← leading n (s.drop 1)
      return (.behind '%' e, s)
    | '[' :: _ => do
      match symbol? "]" (s.drop 1) with
      | some s => return (.builtin "newArray" [], s)
      | none =>
        let (e, s) ← whole n (s.drop 1)
        let s ← symbol? "]" s
        return (.builtin "newArray" (elements e), s)
    | '\x7b' :: _ => do
      match symbol? "\x7d" (s.drop 1) with
      | some s => return (.builtin "newTable" [], s)
      | none =>
        let (e, s) ← whole n (s.drop 1)
        let s ← symbol? "\x7d" s
        return (.builtin "newTable" (elements e), s)
    | '@' :: rest => do
      let w := match rest with
        | '_' :: c :: _ => if isWordChar c then word rest else ['_']
        | ['_'] => ['_']
        | rest => word rest
      let v := String.ofList w
      if w = [] ∨ !s.allows v then none
      let s := s.drop (w.length + 1)
      match s.rest with
      | '[' :: _ =>
        let (e, s) ← whole n (s.drop 1)
        let s ← symbol? "]" s
        return (.builtin "slice" (.array v :: elements e), s)
      | '\x7b' :: _ =>
        let (e, s) ← whole n (s.drop 1)
        let s ← symbol? "\x7d" s
        return (.builtin "entries" (.table v :: elements e), s)
      | _ => return (.array v, s)
    | '%' :: rest => do
      let w := word rest
      let v := String.ofList w
      if w = [] ∨ !s.allows v then none
      return (.table v, s.drop (w.length + 1))
    | '&' :: '\x7b' :: _ => do
      let (e, s) ← leading n (s.drop 1)
      let (es, s) ← if s.rest.head? = some '(' then parenthesized n s else some ([.array "_"], s)
      return (.callValue e es, s)
    | '&' :: '$' :: _ => do
      let (e, s) ← leading n (s.drop 1)
      let (es, s) ← if s.rest.head? = some '(' then parenthesized n s else some ([.array "_"], s)
      return (.callValue e es, s)
    | '&' :: rest => do
      let w := word rest
      if w = [] then none
      let s := s.drop (w.length + 1)
      let (es, s) ← if s.rest.head? = some '(' then parenthesized n s else some ([], s)
      return (.call (String.ofList w) es, s)
    | '(' :: _ => do
      let (es, s) ← parenthesized n s
      match s.rest with
      | '[' :: _ =>
        let (i, s) ← whole n (s.drop 1)
        let s ← symbol? "]" s
        return (.builtin "pick" [.list es, .list (elements i)], s)
      | _ => return (.list es, s)
    | '<' :: rest => do
      let inside := rest.takeWhile (· ≠ '>')
      let s := s.drop (inside.length + 2)
      if inside.length = rest.length then none
      match inside with
      | [] => return (.readLine none, s)
      | '$' :: v => return (.readLine (some (.scalar (String.ofList v))), s)
      | w =>
        if w.all isWordChar then return (.readLine (some (.value (.text w))), s)
        else return (.builtin "glob" [.value (.text w)], s)
    | '/' :: rest => do
      let (t, rest) ← delimited '/' (rest.length + 1) 0 rest
      let (fs, s) := flagsOf { s with rest := rest }
      let (es, s) ← interpolated true n t s
      return (.fits none es fs, s)
    | c :: rest =>
      if c.isDigit ∨ (c = '.' ∧ rest.head?.any Char.isDigit) then
        let (v, rest) := number s.rest
        if rest.head?.any isNameStart && rest.head? ≠ some 'x' then
          (if modifiers.contains (String.ofList (word rest)) then
            some (.value v, { s with rest := rest }) else none)
        else some (.value v, { s with rest := rest })
      else
        let w := word s.rest
        if w = [] then none else worded n (String.ofList w) (s.drop w.length)

def worded : Nat → String → Reader Expr
  | 0, _, _ => none
  | n + 1, w, s =>
    if (symbol? "=>" s).isSome then some (.value (.ofString w), s)
    else if w.startsWith "CORE::" then worded n (String.ofList (w.toList.drop 6)) s
    else match moduleFunction? s.loaded w with
    | some f =>
      if (symbol? "(" s).isSome then do
        let (es, s) ← parenthesized n s
        return (.builtin f es, s)
      else if (moduleConstant? f).isNone && beginsExpression s then do
        let (e, s) ← commas n s
        return (.builtin f (elements e), s)
      else some (.builtin f [], s)
    | none =>
    match w with
      | "q" => do
        let (_, t, s) ← quoted s
        return (.value (.text (plain t)), s)
      | "qq" => do
        let (_, t, s) ← quoted s
        let (es, s) ← interpolated false n t s
        return (.joined es, s)
      | "qx" => do
        let (_, t, s) ← quoted s
        let (es, s) ← interpolated false n t s
        return (.command es, s)
      | "qw" => do
        let (_, t, s) ← quoted s
        let ws := (t.splitBy fun a b => Tools.isBlank a == Tools.isBlank b).filter fun w =>
          !(w.head?.any Tools.isBlank)
        return (.list (ws.map fun w => .value (.text w)), s)
      | "m" | "qr" => do
        let (_, t, s) ← quoted s
        let (fs, s) := flagsOf s
        let (es, s) ← interpolated true n t s
        return (if w = "qr" then .joined es else .fits none es fs, s)
      | "s" => do
        let (c, t, s) ← quoted s
        let (by_, s) ← quotedAgain c s
        let (fs, s) := flagsOf s
        let (es, s) ← interpolated true n t s
        if fs.contains 'e' then
          let outer := s.rest
          let (e, s) ← whole n { s with rest := by_ }
          return (.substitute none es [e] fs, { s with rest := outer })
        else
          let (rs, s) ← interpolated false n by_ s
          return (.substitute none es rs fs, s)
      | "tr" | "y" => do
        let (c, t, s) ← quoted s
        let (by_, s) ← quotedAgain c s
        let (fs, s) := flagsOf s
        return (.translate none t by_ fs, s)
      | "my" | "our" | "local" | "state" => do
        let declares := w ≠ "local"
        let free := if declares then { s with strict := false } else s
        let (e, t) ← match symbol? "(" s with
          | some _ => (parenthesized n free).map fun (es, t) => (Expr.my es true, t)
          | none => (term n free).map fun (e, t) => (Expr.my [e] false, t)
        let vs := match e with
          | .my vs _ => vs
          | _ => []
        let known := if declares then namesOf vs ++ t.declared else t.declared
        return (e, { t with strict := s.strict, declared := known })
      | "do" => do
        match symbol? "\x7b" s with
        | some _ =>
          let (body, s) ← block n s
          let (k, s) := s.withBlock body
          return (.withBlock "do" k [], s)
        | none =>
          let (e, s) ← binary n 16 s
          return (.builtin "dofile" [e], s)
      | "eval" => do
        match symbol? "\x7b" s with
        | some _ =>
          let (body, s) ← block n s
          let (k, s) := s.withBlock body
          return (.withBlock "eval" k [], s)
        | none =>
          if beginsExpression s then
            let (e, s) ← binary n 14 s
            return (.builtin "eval" [e], s)
          else return (.builtin "eval" [.scalar "_"], s)
      | "sub" => do
        let (body, s) ← block n s
        let (k, s) := s.withBlock body
        return (.lambda k, s)
      | "map" | "grep" | "sort" => do
        let (inside, s) := match symbol? "(" s with
          | some s => (true, s)
          | none => (false, s)
        let (e, s) ← mapped n w s
        let s ← if inside then symbol? ")" s else some s
        return (e, s)
      | "print" | "printf" | "say" => do
        if w = "say" ∧ !s.modern then none
        match symbol? "(" s with
        | some inside =>
          let (sink, s) ← target n inside
          match symbol? ")" s with
          | some s => return (.print w sink [], s)
          | none =>
            let (e, s) ← whole n s
            let s ← symbol? ")" s
            return (.print w sink (elements e), s)
        | none =>
          let (sink, s) ← target n s
          if beginsExpression s then
            let (e, s) ← commas n s
            return (.print w sink (elements e), s)
          else return (.print w sink [], s)
      | "not" => do
        let (e, s) ← binary n 5 s
        return (.not e, s)
      | "exec" | "system" => do
        let (inside, t) := match symbol? "(" s with
          | some t => (true, t)
          | none => (false, s)
        let t ← match symbol? "\x7b" t with
          | some _ => (block n t).map (·.2)
          | none => some t
        if !beginsExpression t then none
        let (e, t) ← if inside then whole n t else commas n t
        let t ← if inside then symbol? ")" t else some t
        return (.builtin w (elements e), t)
      | "__FILE__" => some (.value (.ofString "-e"), s)
      | "__LINE__" => some (.value (.integer 1), s)
      | "__PACKAGE__" => some (.value (.ofString "main"), s)
      | "dump" => some (.builtin "die" [], s)
      | w =>
        let module_ := String.ofList (word s.skipped.rest)
        if w = "require" ∧ modules.contains module_ then
          some (.value (.integer 1),
            { s.skipped.drop module_.length with loaded := module_ :: s.loaded })
        else if unaries.contains w then
          match symbol? "(" s with
          | some _ => do
            let (es, s) ← parenthesized n s
            return (.builtin w es, s)
          | none =>
            let isOperator := match s.skipped.rest with
              | '<' :: c :: _ => !(isWordChar c || c = '$' || c = '>')
              | '/' :: _ => ["shift", "pop", "undef"].contains w
              | '-' :: c :: _ => ["shift", "pop"].contains w && !c.isAlpha
              | _ => false
            if beginsExpression s && !isOperator then do
              let (e, s) ← binary n 14 s
              return (.builtin w [e], s)
            else some (.builtin w [], s)
        else if listFunctions.contains w then
          match symbol? "(" s with
          | some _ => do
            let (es, s) ← parenthesized n s
            return (.builtin w es, s)
          | none =>
            if beginsExpression s then do
              let (e, s) ← commas n s
              return (.builtin w (elements e), s)
            else some (.builtin w [], s)
        else if w = "bless" then do
          let (es, s) ← if (symbol? "(" s).isSome then parenthesized n s
            else (commas n s).map fun (e, s) => (elements e, s)
          return (es.headD (.value .undefined), s)
        else if bares.contains w then
          let s := ((symbol? "(" s).bind (symbol? ")")).getD s
          let label := word s.skipped.rest
          let hasLabel := ["last", "next", "redo"].contains w && label ≠ [] &&
            !modifiers.contains (String.ofList label)
          some (if hasLabel then
              (.builtin w [.value (.text label)], s.skipped.drop label.length)
            else (.builtin w [], s))
        else if (symbol? "(" s).isSome then do
          let (es, s) ← parenthesized n s
          return (.call w es, s)
        else if (symbol? "::" s).isSome then none
        else if s.functions.any fun f => f.1 = w then
          (if beginsExpression s then do
            let (e, s) ← commas n s
            return (.call w (elements e), s)
          else some (.call w [], s))
        else if ["STDIN", "STDOUT", "STDERR"].contains w then some (.value (.ofString w), s)
        else
          let class_ := word s.skipped.rest
          let isKnown := modifiers.contains (String.ofList class_) ||
            unaries.contains (String.ofList class_) || listFunctions.contains (String.ofList class_)
          if class_ ≠ [] ∧ !isKnown then do
            let t := s.skipped.drop class_.length
            let (es, t) ← if (symbol? "(" t).isSome then parenthesized n t else some ([], t)
            return (.call w (.value (.text class_) :: es), t)
          else if s.strict ∨ startsTerm s then none
          else some (.value (.ofString w), s)

/-- The file that a word prints to. -/
def target : Nat → Reader (Option Expr)
  | 0, _ => none
  | n + 1, s =>
    let s := s.skipped
    match s.rest with
    | '\x7b' :: _ => do
      let (e, s) ← whole n (s.drop 1)
      let s ← symbol? "\x7d" s
      return (some e, s)
    | '$' :: rest =>
      let w := word rest
      let behind := rest.drop w.length
      match behind with
      | ' ' :: c :: _ =>
        if w ≠ [] ∧ (c = '"' ∨ c = '\'' ∨ c = '$' ∨ c = '@') then
          some (some (.scalar (String.ofList w)), { s with rest := behind })
        else some (none, s)
      | _ => some (none, s)
    | t =>
      let w := word t
      let behind := skip t.length (t.drop w.length)
      let isHandle := w ≠ [] && w.all (fun c => c.isUpper || c.isDigit || c = '_') &&
        !(behind.head?.any fun c => ",(.=-+[".toList.contains c)
      if isHandle then some (some (.value (.text w)), { s with rest := t.drop w.length })
      else some (none, s)

/-- What a word does with each element of a list. -/
def mapped : Nat → String → Reader Expr
  | 0, _, _ => none
  | n + 1, w, s =>
    match symbol? "\x7b" s with
    | some _ => do
      let (body, s) ← block n s
      let (k, s) := s.withBlock body
      let s := (symbol? "," s).getD s
      let (es, s) ← if beginsExpression s then
          (commas n s).map fun (e, s) => (elements e, s)
        else some ([], s)
      return (.withBlock w k es, s)
    | none => do
      let (e, s) ← if beginsExpression s then commas n s else some (.list [], s)
      if w = "sort" then return (.builtin "sort" (elements e), s)
      else match elements e with
        | f :: es =>
          let (k, s) := s.withBlock [.evaluate f]
          return (.withBlock w k es, s)
        | [] => none

def block : Nat → Reader (List Statement)
  | 0, _ => none
  | n + 1, s => do
    let s ← symbol? "\x7b" s
    statements n s

def statements : Nat → Reader (List Statement)
  | 0, _ => none
  | n + 1, s =>
    match symbol? "\x7d" s with
    | some s => some ([], s)
    | none => do
      let (c, s) ← statement n s
      let (cs, s) ← statements n s
      return (c :: cs, s)

def condition : Nat → Reader Expr
  | 0, _ => none
  | n + 1, s => do
    let s ← symbol? "(" s
    match symbol? ")" s with
    | some s => return (.value (.integer 1), s)
    | none =>
      let (e, s) ← whole n s
      let s ← symbol? ")" s
      return (e, s)

def branches : Nat → Reader (List (Expr × List Statement) × List Statement)
  | 0, _ => none
  | n + 1, s =>
    match word? "elsif" s, word? "else" s with
    | some s, _ => do
      let (c, s) ← condition n s
      let (body, s) ← block n s
      let ((more, otherwise), s) ← branches n s
      return (((c, body) :: more, otherwise), s)
    | _, some s => do
      let (body, s) ← block n s
      return (([], body), s)
    | none, none => some (([], []), s)

def used : Nat → Reader Statement
  | 0, _ => none
  | n + 1, s => do
    let s := s.skipped
    let w := String.ofList (s.rest.takeWhile fun c => isWordChar c || c = ':' || c = '.')
    let s := s.drop w.length
    let braced := w = "constant" && (symbol? "\x7b" s).isSome
    let s ← if braced then symbol? "\x7b" s else some s
    let (args, s) ← if beginsExpression s then
        (whole n s).map fun (e, s) => (elements e, s)
      else some ([], s)
    let s ← if braced then symbol? "\x7d" s else some s
    let s ← end_ s
    if isVersion w.toList then
      if tooNew w then none
      return (.nothing, { s with modern := true, strict := s.strict || isStrict w })
    else match w with
      | "strict" => return (.nothing, { s with strict := true })
      | "feature" => return (.nothing, { s with modern := true })
      | w =>
        if w = "constant" then return (.nothing, withConstants braced args s)
        else if modules.contains w then return (.nothing, { s with loaded := w :: s.loaded })
        else
          let body : List Statement := [.evaluate (.builtin "missing" args)]
          return (.nothing, { s with initial := s.initial ++ [body] })

def statement : Nat → Reader Statement
  | 0, _ => none
  | n + 1, s =>
    let s := s.skipped
    let w := String.ofList (word s.rest)
    let behind := s.drop w.length
    match s.rest with
    | ';' :: _ => some (.nothing, s.drop 1)
    | '\x7b' :: _ => do
      let (body, s) ← block n s
      return (.block body, s)
    | _ =>
      match w with
      | "if" => do
        let (c, s) ← condition n behind
        let (body, s) ← block n s
        let ((more, otherwise), s) ← branches n s
        return (.choose ((c, body) :: more) otherwise, s)
      | "unless" => do
        let (c, s) ← condition n behind
        let (body, s) ← block n s
        let ((more, otherwise), s) ← branches n s
        return (.choose ((.not c, body) :: more) otherwise, s)
      | "while" => do
        let (c, s) ← condition n behind
        let (body, s) ← block n s
        return (.whileDo c body, s)
      | "until" => do
        let (c, s) ← condition n behind
        let (body, s) ← block n s
        return (.whileDo (.not c) body, s)
      | "for" | "foreach" => loop n behind
      | "sub" =>
        let name := word behind.skipped.rest
        if name = [] then simple n s
        else do
          let t := (behind.skipped.drop name.length).skipped
          let t := match t.rest with
            | '(' :: rest =>
              let inside := rest.takeWhile (· ≠ ')')
              if inside.any isNameStart then t else t.drop (inside.length + 2)
            | _ => t
          match symbol? ";" t with
          | some t =>
            return (.nothing, { t with functions := t.functions ++ [(String.ofList name, [])] })
          | none =>
            let (body, t) ← block n t
            return (.nothing, { t with functions := (String.ofList name, body) :: t.functions })
      | "BEGIN" => do
        let (body, s) ← block n behind
        return (.nothing, { s with initial := s.initial ++ [body] })
      | "END" => do
        let (body, s) ← block n behind
        return (.nothing, { s with final := body :: s.final })
      | "use" => used n behind
      | "no" => do
        let (_, s) ← used n behind
        return (.nothing, { s with strict := false })
      | "package" => do
        let s := behind.skipped
        let s ← end_ (s.drop (word s.rest).length)
        return (.nothing, s)
      | "__END__" | "__DATA__" => some (.nothing, { s with rest := [] })
      | _ =>
        match symbol? ":" behind with
        | some t =>
          if w ≠ "" ∧ t.rest.head? ≠ some ':' ∧ w ≠ "default" then do
            let (c, t) ← statement n t
            return (.named w c, t)
          else simple n s
        | none => simple n s

/-- A loop over a list, or one with a head of three parts. -/
def loop : Nat → Reader Statement
  | 0, _ => none
  | n + 1, s => do
    let (isMy, t) := match word? "my" s with
      | some t => (true, t)
      | none => (false, s)
    match symbol? "$" t with
    | some t =>
      let v := word t.rest
      if v = [] then none
      let t := { t.drop v.length with declared := String.ofList v :: t.declared }
      let (es, s) ← parenthesized n t
      let (body, s) ← block n s
      return (.each (String.ofList v) isMy (.list es) body, s)
    | none =>
      let inside ← symbol? "(" s
      let part (s : Source) : Option (Option Expr × Source) :=
        if beginsExpression s then (whole n s).map fun (e, s) => (some e, s) else some (none, s)
      let (first, s) ← part inside
      match symbol? ";" s with
      | some s =>
        let (c, s) ← part s
        let s ← symbol? ";" s
        let (next, s) ← part s
        let s ← symbol? ")" s
        let (body, s) ← block n s
        return (.loop first c next body, s)
      | none =>
        let s ← symbol? ")" s
        let (body, s) ← block n s
        return (.each "_" false (first.getD (.list [])) body, s)

/-- A statement that is an expression, with a word that tells when it is run. -/
def simple : Nat → Reader Statement
  | 0, _ => none
  | n + 1, s => do
    let (e, s) ← whole n s
    let s := s.skipped
    let w := String.ofList (word s.rest)
    let behind := s.drop w.length
    match w with
    | "if" =>
      let (c, s) ← whole n behind
      return (.choose [(c, [.evaluate e])] [], ← end_ s)
    | "unless" =>
      let (c, s) ← whole n behind
      return (.choose [(.not c, [.evaluate e])] [], ← end_ s)
    | "while" =>
      let (c, s) ← whole n behind
      return (looping e c, ← end_ s)
    | "until" =>
      let (c, s) ← whole n behind
      return (looping e (.not c), ← end_ s)
    | "for" | "foreach" =>
      let (c, s) ← whole n behind
      return (.each "_" false c [.evaluate e], ← end_ s)
    | _ => return (.evaluate e, ← end_ s)

end

/-- All statements of a script. The number bounds how many there are. -/
def all (depth : Nat) : Nat → Reader (List Statement)
  | 0, _ => none
  | n + 1, s =>
    if s.skipped.rest = [] then some ([], s)
    else do
      let (c, s) ← statement depth s
      let (cs, s) ← all depth n s
      return (c :: cs, s)

/-- Reads a script that can use what was read before. What the options say comes before it. -/
def program? (strict modern : Bool) (loaded : List String) (before : Program) (t : List Char) :
    Option Program := do
  let s : Source :=
    ⟨'\n' :: t, before.functions, before.blocks, [], before.final, strict, modern, [], loaded⟩
  let (body, s) ← all (40 * t.length + 200) (t.length + 2) s
  return ⟨s.initial, body, s.functions, s.blocks, s.final⟩

end AgentLaunch.Perl.Parse
