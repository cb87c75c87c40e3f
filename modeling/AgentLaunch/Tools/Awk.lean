import AgentLaunch.Awk.Run

/-!
# The tool for programs over records

The options that it reads, and the variables that a program begins with.
-/

namespace AgentLaunch.Tools.Awk

open AgentLaunch.Awk
open Shell (State)

/-- What is told in front of the operands. -/
structure Settings where
  separator : Option String
  assignments : List (String × List Char)
  /-- The files that the program is in. -/
  sources : List String

inductive Choice where
  | settings (s : Settings) (operands : List String)
  | informs
  | mistaken

/-- The long options that change nothing here. -/
def ignored : List String :=
  ["--posix", "--lint", "--traditional", "--compat", "--dump", "--interactive"]

/-- Whether the option behind a W, by its beginning, only asks for a text. -/
def informs (t : String) : Bool :=
  ["help", "version", "usage"].any fun w => t ≠ "" && w.startsWith t

/-- Reads options. Each one takes its value from its own word or from the next one. -/
def read : Nat → Settings → List String → Choice
  | 0, _, _ => .mistaken
  | _, s, [] => .settings s []
  | n + 1, s, w :: rest =>
    match w.toList with
    | ['-'] => .settings s (w :: rest)
    | ['-', '-'] => .settings s rest
    | '-' :: '-' :: name =>
      if informs (String.ofList name) then .informs
      else if ignored.contains w then read n s rest
      else .mistaken
    | '-' :: letter :: value =>
      if !"FvfW".toList.contains letter then .mistaken
      else match (if value = [] then rest else String.ofList value :: rest) with
        | [] => .mistaken
        | v :: rest =>
          match letter with
          | 'F' => read n { s with separator := some v } rest
          | 'f' => read n { s with sources := s.sources ++ [v] } rest
          | 'v' =>
            match Machine.assignment? v.toList with
            | some a => read n { s with assignments := s.assignments ++ [a] } rest
            | none => .mistaken
          | _ =>
            if informs v then .informs
            else if v.startsWith "e" then
              match rest with
              | path :: rest => .settings { s with sources := s.sources ++ [path] } rest
              | [] => .settings s []
            else read n s rest
    | _ => .settings s (w :: rest)

def separatorOf (t : String) : List Char :=
  if t = "t" then ['\t'] else Machine.unescaped t.toList

def begun (s : State) (p : Program) (g : Settings) (words : List String) : Machine :=
  let numbered := (List.range words.length).map fun k =>
    ((toString k).toList, Value.outer ((words[k]?).getD "").toList)
  let environment := s.environment.map fun v => (v.1.toList, Value.outer v.2.toList)
  let m : Machine := {
    shell := s, functions := p.functions, globals := [], locals := [], cells := [], record := []
    fields := [], current := none, nextWord := 1, sawFile := false, exhausted := false
    readers := [], writers := [], open_ := [], seed := .ofNat Tools.clockSeconds, code := 0
    leaving := none }
  let m := (m.changeTable "ARGV" fun _ => numbered).changeTable "ENVIRON" fun _ => environment
  let m := [("FS", " "), ("OFS", " "), ("ORS", "\n"), ("RS", "\n"), ("SUBSEP", "\x1c"),
    ("CONVFMT", "%.6g"), ("OFMT", "%.6g")].foldl (fun m (name, t) =>
      m.store name (.ofString t)) m
  let m := [("NR", 0), ("FNR", 0), ("RSTART", 0), ("ARGC", words.length)].foldl
    (fun m (name, k) => m.store name (.ofNat k)) m
  let m := m.store "RLENGTH" (.ofInt (-1))
  let m := match g.separator with
    | some t => m.store "FS" (.text (separatorOf t))
    | none => m
  g.assignments.foldl (fun m (name, value) => m.assignWord name value) m

/-- Runs a program that is told as a text. -/
def runText (launch : Launch) (s : State) (g : Settings) (text : List Char)
    (operands : List String) : State :=
  match Parse.program? text with
  | none => s.withStatus 2
  | some p =>
    if !p.isSound then s.withStatus 2
    else
      let words := "awk" :: operands
      let m := p.run launch (begun (s.withStatus 0) p g words)
      if m.shell.leaving.isSome then m.shell else m.shell.withStatus m.code

def run (launch : Launch) (s : State) (args : List String) : State :=
  match read (2 * args.length + 2) ⟨none, [], []⟩ args with
  | .informs => s.withStatus 0
  | .mistaken => s.withStatus 2
  | .settings g operands =>
    match g.sources, operands with
    | [], [] => s.withStatus 0
    | [], text :: operands =>
      if text = "-" then s.withStatus 0 else runText launch s g text.toList operands
    | sources, operands =>
      match sources.mapM fun path => (textAt s path).1 with
      | some ts => runText launch s g (ts.map (· ++ ['\n'])).flatten operands
      | none => s.withStatus 2

end AgentLaunch.Tools.Awk
