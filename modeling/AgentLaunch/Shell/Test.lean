import AgentLaunch.Shell.State

/-!
# Tests

Questions that scripts ask about files, texts and numbers.
-/

namespace AgentLaunch.Shell.Test

def node? (s : State) (path : String) : Option FileTree.Node :=
  match s.system.files.lookup s.directory path with
  | .ok (_, node) => some node
  | .error _ =>
    match State.descriptor? path, path.splitOn "/" with
    | some n, _ =>
      (s.stream n).map fun
        | .null => .device false
        | .pipe _ => .fifo
        | .file _ => .file .empty false
    | none, ["", "proc", word] | none, ["", "proc", word, "fd"]
    | none, ["", "proc", word, "cwd"] | none, ["", "proc", word, "root"] =>
      (s.process? word).map fun _ => .directory
    | none, ["", "proc", word, "exe"] => (s.process? word).map fun (i, _) => .program i.title
    | none, _ => if (s.processFile? path).isSome then some (.file .empty false) else none

def unaryOperators : List String :=
  ["-b", "-c", "-d", "-e", "-f", "-g", "-G", "-h", "-k", "-L", "-n", "-O", "-p", "-r", "-s", "-S",
    "-t", "-u", "-w", "-x", "-z"]

def binaryOperators : List String :=
  ["=", "!=", "<", ">", "-eq", "-ne", "-gt", "-ge", "-lt", "-le", "-nt", "-ot", "-ef"]

def unary (s : State) (op t : String) : Bool :=
  match op with
  | "-n" => t ≠ ""
  | "-z" => t = ""
  | "-e" | "-r" | "-w" | "-O" | "-G" => (node? s t).isSome
  | "-f" =>
    match node? s t with
    | some (.file ..) | some (.program _) => true
    | _ => false
  | "-d" =>
    match node? s t with
    | some .directory => true
    | _ => false
  | "-c" =>
    match node? s t with
    | some (.device _) => true
    | _ => false
  | "-x" =>
    match node? s t with
    | some (.file _ x) => x
    | some (.device _) | some .fifo | none => false
    | _ => true
  | "-s" =>
    match node? s t with
    | some (.file contents _) => contents.size ≠ 0
    | some (.device _) | some .fifo | none => false
    | _ => true
  | "-h" | "-L" =>
    (s.link? t).isSome || (match s.system.files.lookupLink s.directory t with
      | .ok (_, .link _) => true
      | _ => false)
  | "-p" =>
    match node? s t with
    | some .fifo => true
    | _ => false
  | _ => false

def number? (t : String) : Option Int :=
  let digits? (s : List Char) : Option Nat :=
    if s ≠ [] ∧ s.all Char.isDigit then
      some (s.foldl (fun n c => n * 10 + (c.toNat - 48)) 0)
    else none
  let front := t.toList.dropWhile Char.isWhitespace
  match (front.reverse.dropWhile Char.isWhitespace).reverse with
  | '-' :: rest => (digits? rest).map fun n => -Int.ofNat n
  | '+' :: rest => (digits? rest).map Int.ofNat
  | rest => (digits? rest).map Int.ofNat

def compare (op : Int → Int → Bool) (a b : String) : Option Bool := do
  return op (← number? a) (← number? b)

def binary (s : State) (a op b : String) : Option Bool :=
  let place? (t : String) : Option (List String) :=
    match s.system.files.lookup s.directory t with
    | .ok (place, _) => some place
    | .error _ => none
  match op with
  | "=" => some (a = b)
  | "!=" => some (a ≠ b)
  | "<" => some (a < b)
  | ">" => some (b < a)
  | "-eq" => compare (· = ·) a b
  | "-ne" => compare (· ≠ ·) a b
  | "-lt" => compare (· < ·) a b
  | "-le" => compare (· ≤ ·) a b
  | "-gt" => compare (· > ·) a b
  | "-ge" => compare (· ≥ ·) a b
  | "-nt" | "-ot" => some false
  | "-ef" => some ((place? a).isSome && place? a = place? b)
  | _ => none

/-- Whether an operator in front of words is an operand all the same. -/
def isOperand : List String → Bool
  | [] | [_] => true
  | [_, _] => false
  | _ :: op :: _ => binaryOperators.contains op

mutual

/-- Alternatives in front of words. The number bounds how often the functions call each other. -/
def alternatives (s : State) : Nat → List String → Option (Bool × List String)
  | 0, _ => none
  | n + 1, words => do
    match ← conditions s n words with
    | (a, "-o" :: rest) =>
      let (b, rest) ← alternatives s n rest
      return (a || b, rest)
    | found => return found

def conditions (s : State) : Nat → List String → Option (Bool × List String)
  | 0, _ => none
  | n + 1, words => do
    match ← condition s n words with
    | (a, "-a" :: rest) =>
      let (b, rest) ← conditions s n rest
      return (a && b, rest)
    | found => return found

def condition (s : State) : Nat → List String → Option (Bool × List String)
  | 0, _ => none
  | n + 1, words =>
    match words with
    | [] => some (false, [])
    | "!" :: w :: rest => (condition s n (w :: rest)).map fun (a, rest) => (!a, rest)
    | "(" :: w :: rest => do
      match ← alternatives s n (w :: rest) with
      | (a, ")" :: rest) => return (a, rest)
      | _ => none
    | a :: rest =>
      if unaryOperators.contains a && !isOperand words then
        some (unary s a (rest.headD ""), rest.tail)
      else match rest with
        | op :: b :: rest =>
          if binaryOperators.contains op then (binary s a op b).map (·, rest)
          else some (a ≠ "", op :: b :: rest)
        | _ => some (a ≠ "", rest)

end

/-- The answer of a test, or nothing if it is not understood. -/
def answer? (s : State) (words : List String) : Option Bool :=
  let complete (words : List String) : Option Bool :=
    match alternatives s (4 * words.length + 4) words with
    | some (a, []) => some a
    | _ => none
  match words with
  | [] => some false
  | [a, op, b] =>
    if binaryOperators.contains op then binary s a op b
    else if a = "(" ∧ b = ")" then some (op ≠ "")
    else complete words
  | _ => complete words

def status (s : State) (words : List String) : Nat :=
  match answer? s words with
  | some true => 0
  | some false => 1
  | none => 2

def bracketStatus (s : State) (words : List String) : Nat :=
  if words.getLast? = some "]" then status s words.dropLast else 2

end AgentLaunch.Shell.Test
