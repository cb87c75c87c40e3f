import AgentLaunch.Arguments.Help
import AgentLaunch.Environment

/-!
# Reading the command line

The words of a command line are taken one by one. An option given as `--name=value` counts at once;
one whose value is a word of its own counts when the next option is taken or when its part of the
line ends. So an error in between comes first.
-/

namespace AgentLaunch.Arguments

/-- Why a command line is not carried out. -/
inductive Stop where
  | usage (e : UsageError)
  | help (topic : Topic)
  | version
  deriving DecidableEq, Repr

/-- An option whose value is a word of its own. -/
inductive Pending where
  | none
  | awaiting (option : ValueOption)
  | filled (option : ValueOption) (value : String)
  deriving DecidableEq, Repr

/-- What was taken so far from one part of a command line. -/
structure Progress where
  config : Option String
  settings : Settings
  json : Bool
  pending : Pending
  /-- Whether a double dash was met, after which no word is an option. -/
  trailing : Bool
  deriving DecidableEq, Repr

namespace Progress

def initial : Progress := ⟨none, .empty, false, .none, false⟩

def get (p : Progress) : ValueOption → Option String
  | .config => p.config
  | .field f => p.settings.get f

def put (p : Progress) (o : ValueOption) (value : String) : Progress :=
  match o with
  | .config => { p with config := some value }
  | .field f =>
    { p with settings := .ofFields fun g => if g = f then some value else p.settings.get g }

/-- Counts an option. Each counts once, and the settings file has to have a name. -/
def record (p : Progress) (o : ValueOption) (value : String) : Except Stop Progress :=
  if (p.get o).isSome then .error (.usage (.repeatedOption o))
  else if o = .config ∧ value = "" then .error (.usage (.missingValue o))
  else .ok (p.put o value)

/-- Counts the option that is pending. -/
def settle (p : Progress) : Except Stop Progress :=
  match p.pending with
  | .none => .ok p
  | .awaiting o => .error (.usage (.missingValue o))
  | .filled o value => { p with pending := .none }.record o value

def switch (scope : Scope) (p : Progress) : Switch → Except Stop Progress
  | .help => .error (.help (.scope scope))
  | .version => .error .version
  | .json => if p.json then .error (.usage (.repeatedSwitch .json)) else .ok { p with json := true }

/-- Whether the next word is the value of an option, unless it looks like an option. -/
def isAwaiting (p : Progress) : Bool :=
  match p.pending with
  | .awaiting _ => true
  | _ => false

end Progress

inductive Form where
  | doubleDash
  /-- An option, dashes included, and the value attached to it. -/
  | long (flag : String) (attached : Option String)
  | short (letter : Char)
  | word
  deriving DecidableEq, Repr

/-- The form of a word. A lone dash is an ordinary word. -/
def Form.of (w : String) : Form :=
  match w.toList with
  | ['-', '-'] => .doubleDash
  | '-' :: '-' :: rest =>
    let flag := "--" ++ String.ofList (rest.takeWhile (· ≠ '='))
    match rest.dropWhile (· ≠ '=') with
    | _ :: value => .long flag (some (String.ofList value))
    | [] => .long flag none
  | '-' :: letter :: _ => .short letter
  | _ => .word

/-- The error of a word that is neither an option nor a value nor a command word. Before the
command word it is taken for one, unless it is one and only stands behind a double dash. -/
def strayWord (scope : Scope) (w : String) : UsageError :=
  match scope with
  | .after _ => .unknownArgument w
  | .top =>
    if w = "help" ∨ Verb.all.any (fun v => v.word = w) then .unknownArgument w
    else .unknownCommand w

/-- Takes one word. -/
def step (scope : Scope) (p : Progress) (w : String) : Except Stop Progress :=
  if p.trailing then .error (.usage (strayWord scope w))
  else match Form.of w with
    | .doubleDash => .ok { p with trailing := true }
    | .long flag attached =>
      match Flag.ofLong? scope flag, attached with
      | none, _ => .error (.usage (.unknownArgument flag))
      | some (.value o), some value => do (← p.settle).record o value
      | some (.value o), none => do return { ← p.settle with pending := .awaiting o }
      | some (.switch s), some value => .error (.usage (.unwantedValue s value))
      | some (.switch s), none => do (← p.settle).switch scope s
    | .short letter =>
      match Switch.ofLetter? scope letter with
      | none => .error (.usage (.unknownArgument ("-" ++ String.singleton letter)))
      | some s => do (← p.settle).switch scope s
    | .word =>
      match p.pending with
      | .awaiting o => .ok { p with pending := .filled o w }
      | _ => .error (.usage (strayWord scope w))

/-- The settings file from an option or, in its absence, from the environment. -/
structure Config where
  option : Option String
  preset : Option String
  deriving DecidableEq, Repr

/-- Ends a part of a command line. Where the part does not name the settings file, the variable
does; it must not be empty. -/
def finish (preset : Option String) (p : Progress) : Except Stop (Progress × Config) := do
  let p ← p.settle
  match p.config, preset with
  | none, some "" => throw (.usage (.missingValue .config))
  | some path, _ => return (p, ⟨some path, none⟩)
  | none, v => return (p, ⟨none, v⟩)

/-- A command line that is understood. -/
structure Invocation where
  verb : Verb
  /-- Whether the command is printed as a JSON array. -/
  json : Bool
  config : Option String
  settings : Settings
  deriving DecidableEq, Repr

/-- The topic that the words after `help` name. -/
def helpStop : List String → Stop
  | [] => .help (.scope .top)
  | w :: rest =>
    let topic? : Option Topic :=
      if w = "help" then some .help
      else (Verb.all.find? fun v => v.word = w).map fun v => .scope (.after v)
    match topic?, rest with
    | none, _ => .usage (.unknownCommand w)
    | some topic, [] => .help topic
    | some _, extra :: _ => .usage (.unknownCommand extra)

def parseAfter (preset : Option String) (verb : Verb) (words : List String) :
    Except Stop (Progress × Config) := do
  finish preset (← words.foldlM (step (.after verb)) .initial)

/-- A command word is looked for where neither a value nor a double dash stands before. -/
def verb? (p : Progress) (w : String) : Option Verb :=
  if p.trailing ∨ p.isAwaiting then none else Verb.all.find? fun v => v.word = w

def asksForHelp (p : Progress) (w : String) : Bool :=
  !p.trailing && !p.isAwaiting && w = "help"

/-- Takes the words from the first on. The words after the command word end before those in front of
it, and an option after it hides the same one in front. -/
def parseFrom (preset : Option String) (p : Progress) :
    List String → Except Stop Invocation
  | [] => do
    let (_, config) ← finish preset p
    if config.option.isNone ∧ config.preset.isNone then throw (.usage .nothingGiven)
    else throw (.usage .missingCommand)
  | w :: rest =>
    if asksForHelp p w then .error (helpStop rest)
    else match verb? p w with
      | some verb => do
        let (q, inner) ← parseAfter preset verb rest
        let (_, outer) ← finish preset p
        return ⟨verb, q.json, (inner.option.or outer.option).or inner.preset, q.settings⟩
      | none => do parseFrom preset (← step .top p w) rest

/-- Reads a command line, the name of the program apart. -/
def parse (env : Environment) (words : List String) : Except Stop Invocation :=
  parseFrom (env.get? configVariable) .initial words

end AgentLaunch.Arguments
