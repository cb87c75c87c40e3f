import AgentLaunch.Sed.Run

/-!
# The tool for scripts over lines

The options that it reads, and where its script is from.
-/

namespace AgentLaunch.Tools.Sed

open Shell (State)
open AgentLaunch.Sed

/-- The texts of a script: those of options, and of files that options name. -/
def scripts (s : State) : List Given → Except Nat (List (List Char))
  | [] => .ok []
  | o :: rest => do
    let more ← scripts s rest
    match o.key, o.value with
    | "e", some t => return t.toList :: more
    | "f", some path =>
      match (textAt s path).1 with
      | some t => return (if t.getLast? = some '\n' then t.dropLast else t) :: more
      | none => throw 4
    | _, _ => return more

def run (launch : Launch) (s : State) (r : Reading) : State :=
  let given := r.hasAny ["e", "f"]
  match scripts s r.given, given, r.operands with
  | .error code, _, _ => s.withStatus code
  | .ok _, false, [] => s.withStatus 1
  | .ok ts, given, operands =>
    let (ts, files) := if given then (ts, operands)
      else (operands.take 1 |>.map String.toList, operands.drop 1)
    let text := ['\n'].intercalate ts
    match Parse.script? ⟨r.hasAny ["E", "r"], r.has "sandbox", r.has "p"⟩ text with
    | none => s.withStatus 1
    | some script =>
      let inPlace := (r.given.filter fun o => o.key = "i").getLast?.map fun o => o.value.getD ""
      let g : EditOptions := {
        silent := r.has "n" || (text.take 2 = ['#', 'n'] && (text[2]?).all (· = '\n'))
        separate := r.has "s" || inPlace.isSome
        inPlace := inPlace
        mark := lineMark r "z"
        posix := r.has "p" }
      if g.inPlace.isSome ∧ files = [] then s.withStatus 4 else
      let files := if files = [] then ["-"] else files
      let e := Editor.edit launch g script files s
      if e.shell.leaving.isSome then e.shell else e.shell.withStatus e.code

def start (launch : Launch) (s : State) (args : List String) : State :=
  Tool.start {
    letters := "bsnrzuEe:f:l:i::"
    names := "binary=b regexp-extended=r debug expression:=e file:=f in-place::=i " ++
      "line-length:=l null-data=z zero-terminated=z quiet=n posix=p silent=n sandbox " ++
      "separate=s unbuffered=u version help follow-symlinks"
    run := run launch } s args

end AgentLaunch.Tools.Sed
