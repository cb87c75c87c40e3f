import AgentLaunch.Perl.Process

/-!
# The tool for scripts with scalars, lists and tables

The options that it reads, and what they put around a script.
-/

namespace AgentLaunch.Tools.Perl

open AgentLaunch.Perl
open Shell (State)

structure ScriptOptions where
  text : Option (List Char)
  modern : Bool
  strict : Bool
  /-- Whether the script runs for each line, and whether the line is printed after that. -/
  perLine : Bool
  prints : Bool
  takesApart : Bool
  separator : Option (List Char)
  ends : Bool
  mark : Value
  /-- Whether the words behind the script can set variables. -/
  sets : Bool
  /-- Whether the script is looked for as a command. -/
  searches : Bool
  loaded : List String
  checks : Bool
  inPlace : Option (List Char)
  extracts : Bool
  /-- Whether there is a module that is missing. -/
  lacks : Bool

inductive Choice where
  | settings (s : ScriptOptions) (operands : List String)
  | informs
  | mistaken

/-- The code for a mistake in the options, which is the number of the last error: the input is no
terminal. -/
def mistake : Nat := Machine.noTerminal

def withModule (s : ScriptOptions) (t : List Char) : ScriptOptions :=
  let isAgainst := t.head? = some '-'
  let t := if isAgainst then t.drop 1 else t
  let name := String.ofList (t.takeWhile fun c => Parse.isWordChar c || c = ':' || c = '.')
  if name = "strict" then { s with strict := !isAgainst }
  else if name = "feature" then { s with modern := true }
  else if name.toList.head?.any Char.isDigit then { s with modern := true }
  else if Parse.modules.contains name then { s with loaded := name :: s.loaded }
  else { s with lacks := true }

def octalLength (t : List Char) : Nat :=
  match t with
  | 'x' :: rest => 1 + (rest.takeWhile fun c => Tools.digitValue c < 16).length
  | t => (t.takeWhile fun c => Tools.digitValue c < 8).length

/-- The record separator with a number; zero alone means paragraphs if it is written. -/
def markOf (code : Nat) (isBare : Bool) : Value :=
  if code ≥ 256 then .undefined
  else if code = 0 ∧ !isBare then .text []
  else .text [Char.ofNat code]

/-- Sets the variables that words in front of the operands tell. -/
def settingVariables (m : Machine) : List String → Machine × List String
  | [] => (m, [])
  | w :: rest =>
    match w.toList with
    | ['-', '-'] => (m, rest)
    | '-' :: c :: t =>
      let name := (c :: t).takeWhile (· ≠ '=')
      let value : Value := match (c :: t).drop name.length with
        | _ :: v => .text v
        | [] => .integer 1
      settingVariables (m.set (String.ofList name) value) rest
    | _ => (m, w :: rest)

/-- Reads the letters of a word, and the words behind it. The number bounds how many there are. -/
def read : Nat → ScriptOptions → List Char → List String → Choice
  | 0, _, _, _ => .mistaken
  | n + 1, s, [], words =>
    match words with
    | [] => .settings s []
    | w :: rest =>
      match w.toList with
      | '-' :: c :: letters =>
        if c = '-' then
          if letters = [] then .settings s rest
          else if letters = "version".toList ∨ letters = "help".toList then .informs
          else .mistaken
        else read n s (c :: letters) rest
      | _ => .settings s (w :: rest)
  | n + 1, s, c :: t, words =>
    /- The value of a letter: the rest of its word, or the next word. -/
    let value? : Option (List Char × List String) :=
      match t, words with
      | [], w :: rest => some (w.toList, rest)
      | [], [] => none
      | t, rest => some (t, rest)
    match c with
    | 'e' | 'E' =>
      match value? with
      | none => .mistaken
      | some (v, rest) =>
        read n { s with
          text := some ((s.text.getD []) ++ v ++ ['\n'])
          modern := s.modern || c = 'E' } [] rest
    | 'n' => read n { s with perLine := true } t words
    | 'p' => read n { s with perLine := true, prints := true } t words
    | 'a' => read n { s with perLine := true, takesApart := true } t words
    | 'F' => read n { s with perLine := true, takesApart := true, separator := some t } [] words
    | 'l' => read n { s with ends := true } (t.drop (octalLength t)) words
    | '0' =>
      let digits := octalLength t
      read n { s with mark := markOf (Tools.ofDigits 8 (t.take digits)) (digits = 0) }
        (t.drop digits) words
    | 'g' => read n { s with mark := .undefined } t words
    | 'i' =>
      let mark := t.takeWhile (· ≠ ' ')
      read n { s with inPlace := some mark } (t.drop mark.length) words
    | 'c' => read n { s with checks := true } t words
    | 's' => read n { s with sets := true } t words
    | 'S' => read n { s with searches := true } t words
    | 'w' | 'W' | 'X' | 'U' | 't' | 'T' | 'f' | 'u' => read n s t words
    | 'C' => read n s (t.dropWhile Char.isDigit) words
    | 'd' => read n { s with lacks := true } [] words
    | 'D' => read n s [] words
    | 'v' | 'V' | 'h' => .informs
    | 'x' => read n { s with extracts := true } [] words
    | 'I' =>
      match value? with
      | none => .mistaken
      | some (_, rest) => read n s [] rest
    | 'M' | 'm' =>
      if t = [] ∨ t = ['-'] ∨ t.head? = some ' ' then .mistaken
      else read n (withModule s t) [] words
    | '-' | '\r' | '\n' => read n s [] words
    | ' ' => read n s (if t.head? = some '-' then t.drop 1 else t) words
    | _ => .mistaken

/-- The statements around a script that runs for each line. -/
def perLine (g : ScriptOptions) (body : List Statement) : List Statement :=
  if !g.perLine then body
  else
    let chomp : List Statement := if g.ends then [.evaluate (.builtin "chomp" [])] else []
    let separator : Expr := match g.separator with
      | some t =>
        let t := match t with
          | '/' :: rest => if rest.getLast? = some '/' then rest.dropLast else t
          | t => t
        .fits none [.value (.text t)] []
      | none => .value (.text [' '])
    let parts : List Statement := if g.takesApart then
        [.evaluate (.assign "" (.array "F") (.builtin "split" [separator, .scalar "_"]))]
      else []
    let next : Option Expr := if g.prints then some (.print "print" none []) else none
    [.loop none (some (.readLine none)) next (chomp ++ parts ++ body)]

/-- Runs a script in the place of each of some files: what it prints is what they become. -/
def runInPlace (launch : Launch) (m : Machine) (mark : List Char) (paths : List String) : State :=
  let body := m.program.body
  let (m, goesOn) := paths.foldl (fun (m, goesOn) path =>
    if !goesOn then (m, false)
    else match found? m.shell path with
      | .ok (place, .file ..) =>
        let old := (m.shell.contents? place).getD []
        let outer := m.shell.streams
        let (stream, piped) := m.shell.pipe []
        let (_, after) := execBlock launch Machine.callDepth false body
          ({ m with shell := piped.connect 1 stream }.setArray "ARGV" [.ofString path])
        let after := { after with readers := after.readers.filter fun r => r.1 ≠ "ARGV" }
        match stream with
        | .pipe k =>
          let (t, shell) := after.shell.drain k
          let kept := if mark = [] then shell
            else match written shell (path ++ String.ofList mark) false old with
              | .ok shell => shell
              | .error _ => shell
          let shell := { kept.store place t with streams := outer }
          ({ after with shell := shell }, after.leaving.isNone)
        | _ => (after, false)
      | _ => (m, true)) (m, true)
  (if goesOn then m.ended launch else m.ended launch).shell

def runText (launch : Launch) (s : State) (g : ScriptOptions) (name : String) (text : List Char)
    (words : List String) : State :=
  match Parse.program? g.strict g.modern g.loaded ⟨[], [], [], [], []⟩ text with
  | none => s.withStatus 255
  | some p =>
    let initial : List (List Statement) :=
      (if g.lacks then [[Statement.evaluate (.builtin "missing" [])]] else []) ++ p.initial
    let body := if g.checks then [] else perLine g p.body
    let final := if g.checks then [] else p.final
    let p := { p with initial := initial, body := body, final := final }
    let m := Machine.begin_ s p name words
    let m := m.set "/" g.mark
    let m := if g.sets then
        let (m, words) := settingVariables m words
        m.setArray "ARGV" (words.map .ofString)
      else m
    let m := if g.ends then m.set "\\" (.ofString "\n") else m
    match g.inPlace, g.perLine && words ≠ [] && !g.checks with
    | some mark, true => runInPlace launch m mark words
    | _, _ => m.run launch

/-- The program that the first line of a script asks for, unless it is this one. -/
def interpreter? (t : List Char) : Option (List String) :=
  match t with
  | '#' :: '!' :: rest =>
    let line := rest.takeWhile (· ≠ '\n')
    let asksForThis := (List.range line.length).any fun k => "perl".toList.isPrefixOf (line.drop k)
    let words := ((line.splitBy fun a b => isBlank a == isBlank b).filter fun w =>
      !(w.head?.any isBlank)).map String.ofList
    if asksForThis ∨ words = [] then none else some words
  | _ => none

def run (launch : Launch) (s : State) (args : List String) : State :=
  let size := args.foldl (fun n w => n + w.length + 2) 2
  let plain : ScriptOptions := {
    text := none, modern := false, strict := false, perLine := false, prints := false
    takesApart := false, separator := none, ends := false, mark := .ofString "\n", sets := false
    searches := false, loaded := [], checks := false, inPlace := none, extracts := false
    lacks := false }
  match read size plain [] args with
  | .informs => s.withStatus 0
  | .mistaken => s.withStatus mistake
  | .settings g operands =>
    match g.text, operands with
    | some t, words => if g.extracts then s.withStatus 255 else runText launch s g "-e" t words
    | none, [] => runText launch (s.leaveInput []) g "-" s.input []
    | none, path :: words =>
      if path = "-" then runText launch (s.leaveInput []) g "-" s.input words
      else if path = "" then s.withStatus 0
      else if g.searches ∧ !path.toList.contains '/' then s.withStatus mistake
      else if isDirectory s path then s.withStatus mistake
      else match (textAt s path).1 with
        | none =>
          s.withStatus (match found? s path with
            | .error e => Machine.numberOf e
            | .ok _ => 2)
        | some t =>
          if g.extracts then s.withStatus 255
          else match interpreter? t with
            | some words' =>
              let (ending, after) := launch (words' ++ path :: words) s
              after.endedLike ending
            | none => runText launch s g path t words

end AgentLaunch.Tools.Perl
