import AgentLaunch.Shell.Connect
import AgentLaunch.Shell.Loop
import AgentLaunch.Shell.Parameter
import AgentLaunch.Shell.Start
import AgentLaunch.Tools.Catalog

/-!
# Running shell scripts

Processes run one after another, each to its end. The number that every function takes bounds how
deep they call each other; a script that goes deeper ends as one that has used up its stack.
-/

namespace AgentLaunch.Shell

/-- The bound for scripts that are started. -/
def callDepth : Nat := 3000

def maxTurns : Nat := 20000

namespace State

/-- Ends the process as one that has used up its stack. -/
def overflow (s : State) : State :=
  { s with leaving := some (.ended (.killed 11)) }

/-- The signals that the process has not received yet. -/
def takeSignals (s : State) : List Nat × State :=
  let own (p : UInt32 × Nat) : Bool := p.1 = s.identity.pid
  ((s.system.signals.filter own).map (·.2),
    { s with system := { s.system with signals := s.system.signals.filter fun p => !own p } })

end State

mutual

def runScript : Nat → Script → State → State
  | 0, _, s => s.overflow
  | n + 1, steps, s => steps.foldl (fun s c => if s.leaving.isSome then s else run n c s) s

/-- Runs the text of a script, line by line. -/
def runText : Nat → List Char → State → State
  | 0, _, s => s.overflow
  | n + 1, text, s =>
    let (lines, complete) := Script.read text
    let s := if lines = [] then s.withStatus 0 else s
    let s := lines.foldl (fun s steps => if s.leaving.isSome then s else runScript n steps s) s
    if complete || s.leaving.isSome then s else s.fail

/-- Receives signals: each one runs what is set for it, or ends the process. -/
def receive : Nat → State → State
  | 0, s => s.overflow
  | n + 1, s =>
    let (signals, s) := s.takeSignals
    signals.foldl (fun s signal =>
      match s.leaving, s.traps.find? (fun t => t.1 = signal ∧ signal ≠ 9) with
      | some (.ended _), _ => s
      | _, some (_, action) =>
        if action = "" then s
        else
          let after := runText n action.toList { s with tested := false }
          if after.leaving.isSome then after
          else { after with status := s.status, tested := s.tested }
      | _, none =>
        if signal ∈ State.harmless then s
        else { s with leaving := some (.ended (.killed signal)) }) s

/-- Ends a process of the shell. It runs what is set for its end. -/
def finish : Nat → State → State
  | 0, s => s.overflow
  | n + 1, s =>
    let s := receive n s
    match s.leaving, s.traps.find? fun t => t.1 = 0 with
    | some (.ended (.killed _)), _ => s
    | _, none => s.stop s.ending.status
    | _, some (_, action) =>
      let code := s.ending.status
      let begun := { s with
        traps := s.traps.filter fun t => t.1 ≠ 0
        leaving := none
        status := code
        tested := false
        loops := 0 }
      let after := receive n (runText n action.toList begun)
      match after.leaving with
      | some (.ended _) => after
      | _ => after.stop code

/-- Runs commands in a process of their own, and goes on after its end. -/
def inChild : Nat → (State → State) → State → State
  | 0, _, s => s.overflow
  | n + 1, body, s => receive n (s.joined (finish n (body s.split)))

/-- The output of a script that runs in a process of its own. -/
def outputOf : Nat → List Char → State → List Char × State
  | 0, _, s => ([], s.overflow)
  | n + 1, text, s =>
    if !(Script.read text).2 then ([], s.fail)
    else
      let (stream, piped) := s.pipe []
      let after := inChild n (fun child =>
        runText n text { child.connect 1 stream with tested := false }) piped
      match stream with
      | .pipe k =>
        let (t, after) := after.drain k
        (dropFinalBreaks t, { after with asked := after.status })
      | _ => ([], after)

/-- The pieces of a part of a word. Of literal text only that in the word of a change is split. -/
def piece : Nat → Bool → Bool → Part → State → List Piece × State
  | 0, _, _, _, s => ([], s.overflow)
  | n + 1, splits, inner, part, s =>
    match part with
    | .literal t quoted =>
      (if inner then s.valuePieces splits quoted t else Piece.whole quoted t, s)
    | .home user =>
      match s.homeOf? user with
      | some "" => ([], s)
      | some home => (Piece.whole true home.toList, s)
      | none => (Piece.whole false ('~' :: user.toList), s)
    | .invalid => ([], s.fail)
    | .parameter name quoted =>
      match s.parameter? name with
      | some value => (s.parameterPieces splits quoted name value, s)
      | none =>
        if s.switches.strict && !State.mayMiss name then ([], s.fail)
        else (if quoted && name ≠ "@" then [.present] else [], s)
    | .length name quoted =>
      let value := (s.parameter? name).getD ""
      let count := if name = "@" ∨ name = "*" then s.arguments.length else value.utf8ByteSize
      if s.switches.strict && (s.parameter? name).isNone && !State.mayMiss name then ([], s.fail)
      else (s.valuePieces splits quoted (toString count).toList, s)
    | .changed name change evenIfEmpty word quoted =>
      let value := s.parameter? name
      let kept := s.parameterPieces splits quoted name (value.getD "")
      let isMissing := value.isNone || (evenIfEmpty && value = some "")
      let mark : List Piece := if quoted then [.present] else []
      match change with
      | .orElse =>
        if isMissing then
          let (ps, s) := pieces n splits true word s
          (mark ++ ps, s)
        else (kept, s)
      | .instead =>
        if isMissing then (mark, s)
        else
          let (ps, s) := pieces n splits true word s
          (mark ++ ps, s)
      | .orAssign =>
        if isMissing then
          let (ps, s) := pieces n false false word s
          let t := Piece.text ps
          if s.leaving.isSome then ([], s)
          else if Token.isName name.toList then
            (s.valuePieces splits quoted t.toList, s.assign name t)
          else ([], s.fail)
        else (kept, s)
      | .orFail => if isMissing then ([], s.fail) else (kept, s)
      | .dropFront longest =>
        let (ps, s) := pieces n false false word s
        (s.valuePieces splits quoted
          (Glob.dropFront (Piece.marked ps) longest (value.getD "").toList), s)
      | .dropEnd longest =>
        let (ps, s) := pieces n false false word s
        (s.valuePieces splits quoted
          (Glob.dropEnd (Piece.marked ps) longest (value.getD "").toList), s)
    | .substitution text quoted =>
      let (t, s) := outputOf n text s
      (s.valuePieces splits quoted t, s)
    | .arithmetic expression quoted =>
      let (ps, s) := pieces n false false expression s
      if s.leaving.isSome then ([], s)
      else match (Expression.read? ((Piece.marked ps).map (·.1))).bind
          (·.value? s.number? []) with
        | some (value, found) =>
          let s := s.assignNumbers found
          (s.valuePieces splits quoted (toString value).toList, s)
        | none => ([], s.fail)

def pieces : Nat → Bool → Bool → Word → State → List Piece × State
  | 0, _, _, _, s => ([], s.overflow)
  | n + 1, splits, inner, word, s =>
    word.foldl (fun (front, s) part =>
      if s.leaving.isSome then (front, s)
      else
        let (back, s) := piece n splits inner part s
        (front ++ back, s)) ([], s)

def fields : Nat → List Word → State → List String × State
  | 0, _, s => ([], s.overflow)
  | n + 1, words, s =>
    words.foldl (fun (front, s) word =>
      if s.leaving.isSome then (front, s)
      else
        let (ps, s) := pieces n true false word s
        (front ++ (Piece.fields ps).flatMap s.paths, s)) ([], s)

def textOf : Nat → Word → State → String × State
  | 0, _, s => ("", s.overflow)
  | n + 1, word, s =>
    let (ps, s) := pieces n false false word s
    (Piece.text ps, s)

/-- The arguments of a command that takes assignments, which are not split. -/
def declarations : Nat → List Word → State → List String × State
  | 0, _, s => ([], s.overflow)
  | n + 1, words, s =>
    words.foldl (fun (front, s) word =>
      if s.leaving.isSome then (front, s)
      else match Script.assignment? word with
        | some (name, value) =>
          let (t, s) := textOf n value s
          (front ++ [name ++ "=" ++ t], s)
        | none =>
          let (ws, s) := fields n [word] s
          (front ++ ws, s)) ([], s)

/-- Assigns to variables, which the programs of a command get to see. -/
def assignAll : Nat → Bool → List (String × Word) → State → State
  | 0, _, _, s => s.overflow
  | n + 1, exported, assignments, s =>
    assignments.foldl (fun s (name, word) =>
      if s.leaving.isSome then s
      else
        let (t, s) := textOf n word s
        if s.leaving.isSome then s
        else
          let s := s.assign name t
          if exported && s.leaving.isNone then
            Builtins.mark (fun b => { b with exported := true }) s name
          else s) s

/-- Connects descriptors. The first one that cannot be connected ends it with a failure. -/
def redirect : Nat → List Redirection → State → State × Bool
  | 0, _, s => (s.overflow, false)
  | n + 1, redirections, s =>
    redirections.foldl (fun (s, sound) r =>
      if !sound || s.leaving.isSome then (s, false)
      else
        let (target, s) := textOf n r.target s
        if s.leaving.isSome then (s, false)
        else if r.mode = .duplicate ∧ target ≠ "-" ∧ (Builtins.count? target).isNone then
          (s.fail, false)
        else match s.redirect? r.descriptor r.mode target with
          | some s => (s, true)
          | none => (s.withStatus State.shellError, false)) (s, true)

/-- Runs the program that a path leads to, in the process as it is. -/
def start : Nat → String → String → List String → State → State
  | 0, _, _, _, s => s.overflow
  | n + 1, path, name, args, s =>
    let bindings := s.environment
    match Image.ofPath s.system.files s.directory bindings path (name :: args) with
    | .ok image => beginProgram n image (s.renewed path image)
    | .error .noExec =>
      let image : Image := ⟨"sh", "/bin/sh", path :: args⟩
      beginProgram n image (s.renewed "/bin/sh" image)
    | .error e =>
      s.stop (if e = .noEntry ∨ e = .notDirectory ∨ e = .nameTooLong ∨ e = .tooManyLevels then
        Lookup.notFound else Lookup.cannotExecute)

/-- Runs a program that is found by its name, in the process as it is. -/
def become : Nat → String → List String → State → State
  | 0, _, _, s => s.overflow
  | n + 1, name, args, s =>
    match Lookup.find s name with
    | .ok path => start n path name args s
    | .error code => s.stop code

/-- Runs the command of a tool, in the process as it is. -/
def becomeFor : Nat → List String → State → State
  | 0, _, s => s.overflow
  | _, [], s => s
  | n + 1, name :: args, s =>
    match Lookup.reach s name with
    | .ok path => start n path name args s
    | .error code => s.stop code

/-- Runs a command in a process of its own: how it ends, and the state afterwards. -/
def launch : Nat → List String → State → Ending × State
  | 0, _, s => (.killed 11, s.overflow)
  | n + 1, command, s =>
    let ended := finish n (becomeFor n command { s.split with traps := [] })
    (ended.ending, receive n (s.joined ended))

def beginProgram : Nat → Image → State → State
  | 0, _, s => s.overflow
  | n + 1, ⟨program, _, args⟩, s =>
    let conclude (after : State) : State :=
      let (signals, after) := after.takeSignals
      if after.leaving.isSome then after
      else match signals.find? fun k => k ∉ State.harmless with
        | some k => { after with leaving := some (.ended (.killed k)) }
        | none => after.stop after.status
    if Tools.Catalog.shells.contains program then
      runShell n (program = "bash" ∨ program = "rbash") args s.asShell
    else match Tools.Starters.find? program with
      | some starter =>
        match starter.start (launch n) s args with
        | .done after => conclude after
        | .becomes after [] => conclude after
        | .becomes after command => becomeFor n command after
      | none =>
        match Tools.Catalog.find? (launch n) program with
        | some body => conclude (body s args)
        | none => s.stop Lookup.notFound

/-- Runs a shell with arguments: a script given as text, in a file, or as input. -/
def runShell : Nat → Bool → List String → State → State
  | 0, _, _, s => s.overflow
  | n + 1, wide, args, s =>
    if wide ∧ (args.head? = some "--help" ∨ args.head? = some "--version") then s.stop 0
    else match (if wide then State.withoutLong args else some args).bind
        (State.shellArguments? ⟨s.switches, false, false, []⟩) with
    | none =>
      let isFast := (args.headD "").startsWith "-" && (args.headD "").toList.contains 'e'
      s.stop (if wide ∧ isFast ∧ !args.contains "-o" then 1 else State.shellError)
    | some given =>
      let s := { s with switches := given.switches }
      match given.isText, given.isInput, given.rest with
      | true, _, [] => s.stop (if wide ∧ s.switches.failFast then 1 else State.shellError)
      | true, _, text :: rest =>
        let named := { s with name := rest.headD s.name, arguments := rest.tail }
        finish n (runText n text.toList named)
      | false, false, path :: rest =>
        let found := if wide then Lookup.script s path else path
        let unread (code : Nat) : State := s.stop (if s.switches.failFast then 1 else code)
        match s.textOf? found, s.system.files.lookup s.directory found with
        | some text, _ =>
          finish n (runText n text.toList { s with name := path, arguments := rest })
        | none, .ok (_, .directory) => if wide then unread Lookup.cannotExecute else s.stop 0
        | none, .ok _ => s.stop (if wide then Lookup.cannotExecute else State.shellError)
        | none, .error e =>
          if wide then unread (if e = .noEntry then Lookup.notFound else Lookup.cannotExecute)
          else s.stop State.shellError
      | false, _, rest => finish n (runText n s.input { s.leaveInput [] with arguments := rest })

/-- Runs a function. The variables that are local to it are brought back at its end. -/
def runFunction : Nat → Statement → List String → State → State
  | 0, _, _, s => s.overflow
  | n + 1, body, args, s =>
    let after := run n body { s with arguments := args, loops := 0, saved := some [] }
    let restored := (after.saved.getD []).foldl (fun s (name, old) => s.restore name old) after
    { restored with
      arguments := s.arguments
      loops := s.loops
      saved := s.saved
      leaving := if after.leaving = some .returned then none else after.leaving }

/-- Runs a file in the shell itself. -/
def source : Nat → List String → State → State
  | 0, _, s => s.overflow
  | n + 1, args, s =>
    match args with
    | [] => s.withStatus 0
    | name :: _ =>
      let candidates := if name.toList.contains '/' then [name]
        else (((s.value? "PATH").getD "").splitOn ":").map fun d =>
          if d = "" then name else d ++ "/" ++ name
      match candidates.findSome? s.textOf? with
      | some text =>
        let after := runText n text.toList s
        { after with leaving := if after.leaving = some .returned then none else after.leaving }
      | none => s.fail

def runNamed : Nat → String → List String → State → State
  | 0, _, _, s => s.overflow
  | n + 1, name, args, s =>
    match Builtins.find? Builtins.special name, Builtins.find? Builtins.regular name with
    | some body, _ | none, some body => body s args
    | none, none =>
      match name, args with
      | ".", args => source n args s
      | "eval", args => runText n (String.intercalate " " args).toList s
      | "exec", [] => s.withStatus 0
      | "exec", "--" :: command :: args | "exec", command :: args =>
        let after := become n command args s
        { after with traps := [] }
      | "type", names => names.foldl Builtins.describe (s.withStatus 0)
      | "command", "-V" :: names => (names.take 1).foldl Builtins.describe (s.withStatus 0)
      | "command", "-v" :: names =>
        match names.head?.bind (Builtins.nameOf? s) with
        | some t => (s.withStatus 0).say (t ++ "\n")
        | none => s.withStatus Lookup.notFound
      | "command", args =>
        match args.filter fun a => a ≠ "-p" ∧ a ≠ "--" with
        | name :: args => runNamed n name args s
        | [] => s.withStatus 0
      | name, args => inChild n (become n name args) s

/-- Runs a simple command: its words, its redirections and its assignments in this order. -/
def runSimple : Nat → List (String × Word) → List Word → List Redirection → State → State
  | 0, _, _, _, s => s.overflow
  | n + 1, assignments, words, redirections, s =>
    let before := { s with asked := 0 }
    let declares := match words with
      | first :: _ =>
        (Word.bare? first).any fun t => ["export", "readonly", "local"].contains (String.ofList t)
      | [] => false
    let (args, s) := if declares then declarations n words before else fields n words before
    if s.leaving.isSome then s
    else
      let name := args.headD ""
      let function? := (s.functions.find? fun f => f.1 = name).map (·.2)
      let isSpecial := args ≠ [] && Builtins.isSpecial name
      let (opened, sound) := redirect n redirections s
      let back (after : State) : State :=
        if redirections = [] ∨ (name = "exec" ∧ args.length = 1) then after
        else { after with streams := s.streams }
      if opened.leaving.isSome then back opened
      else if !sound then
        if isSpecial then back (opened.stop State.shellError)
        else back (opened.withStatus State.shellError)
      else if args = [] then
        let after := assignAll n false assignments opened
        back (if after.leaving.isSome then after else after.withStatus after.asked)
      else
        let ready := assignAll n (!isSpecial) assignments opened
        let restore (after : State) : State :=
          if isSpecial then after
          else assignments.foldl (fun t (name, _) => t.restore name (s.binding? name)) after
        if ready.leaving.isSome then back ready
        else match isSpecial, function? with
          | false, some body => back (restore (runFunction n body args.tail ready))
          | _, _ => back (restore (runNamed n name args.tail ready))

/-- Runs the commands of a pipeline, each with the output of the one before it as its input. -/
def runPipeline : Nat → List Statement → State → State
  | 0, _, s => s.overflow
  | _, [], s => s
  | n + 1, [c], s => inChild n (run n c) s
  | n + 1, c :: rest, s =>
    let (stream, piped) := s.pipe []
    let after := inChild n (fun child => run n c (child.connect 1 stream)) piped
    let whole := runPipeline n rest (after.connect 0 stream)
    { whole with streams := s.streams }

def runBranches : Nat → List (Script × Script) → Script → State → State
  | 0, _, _, s => s.overflow
  | n + 1, [], otherwise, s =>
    if otherwise.isEmpty then s.withStatus 0 else runScript n otherwise s
  | n + 1, (condition, body) :: rest, otherwise, s =>
    let asked := runScript n condition { s with tested := true }
    let after := { asked with tested := s.tested }
    if after.leaving.isSome then after
    else if after.status = 0 then runScript n body after
    else runBranches n rest otherwise after

/-- Runs what belongs to the first pattern that a text fits. -/
def runChoice : Nat → List Char → List (List Word × Script) → State → State
  | 0, _, _, s => s.overflow
  | _, _, [], s => s.withStatus 0
  | n + 1, t, (patterns, body) :: rest, s =>
    let (found, s) := patterns.foldl (fun (found, s) w =>
      if found || s.leaving.isSome then (found, s)
      else
        let (ps, s) := pieces n false false w s
        (Glob.fits (Piece.marked ps) t, s)) (false, s)
    if s.leaving.isSome then s
    else if found then runScript n body (if body = [] then s.withStatus 0 else s)
    else runChoice n t rest s

def run : Nat → Statement → State → State
  | 0, _, s => s.overflow
  | n + 1, c, s =>
    if s.switches.idle then s
    else match c with
    | .simple assignments words =>
      State.checked s (receive n (runSimple n assignments words [] s))
    | .redirected (.simple assignments words) redirections =>
      State.checked s (receive n (runSimple n assignments words redirections s))
    | .redirected c redirections =>
      let (opened, sound) := redirect n redirections s
      if opened.leaving.isSome ∨ !sound then { opened with streams := s.streams }
      else { run n c opened with streams := s.streams }
    | .group body => runScript n body s
    | .subshell body => State.checked s (inChild n (runScript n body) s)
    | .pipeline cs => State.checked s (runPipeline n cs s)
    | .conditional branches otherwise => runBranches n branches otherwise s
    | .definition name body =>
      { s with functions := (name, body) :: s.functions.filter (fun f => f.1 ≠ name), status := 0 }
    | .negated c =>
      let after := run n c { s with tested := true }
      let negated := if after.status = 0 then 1 else 0
      let code := if after.leaving.isSome then after.status else negated
      { after with tested := s.tested, status := code }
    | .sequel first ifFails second =>
      let after := run n first { s with tested := true }
      let after := { after with tested := s.tested }
      if after.leaving.isSome || (after.status = 0) = ifFails then after else run n second after
    | .background c =>
      let child := s.split
      let begun := { child.connect 0 .null with tested := false }
      let ended := finish n (run n c begun)
      let after := s.joined ended
      receive n { after with
        children := (child.identity.pid, ended.ending) :: s.children, status := 0 }
    | .forEach name words body =>
      let (values, s) := fields n words s
      if s.leaving.isSome then s
      else
        let turn (value : String) (s : State) : State :=
          let s := s.assign name value
          if s.leaving.isSome then s else runScript n body s
        let after := State.forEach turn values { s.withStatus 0 with loops := s.loops + 1 }
        { after with loops := s.loops }
    | .repeated isUntil condition body =>
      let turn (last : Nat) (t : State) : State × Nat × Bool :=
        let asked := runScript n condition { t with tested := true }
        let (asked, goesOn) := State.afterTurn { asked with tested := s.tested }
        if !goesOn then (asked, asked.status, false)
        else if (asked.status = 0) = isUntil then (asked, last, false)
        else
          let (after, goesOn) := (runScript n body asked).afterTurn
          (after, after.status, goesOn)
      let after := State.whileHolds turn maxTurns 0 { s with loops := s.loops + 1 }
      { after with loops := s.loops }
    | .choice subject clauses =>
      let (t, s) := textOf n subject s
      if s.leaving.isSome then s else runChoice n t.toList clauses s

end

end AgentLaunch.Shell
