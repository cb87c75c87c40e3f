import AgentLaunch.Arguments.Usage

/-!
# Help

The texts that explain the command line.
-/

namespace AgentLaunch.Arguments

/-- What help is asked about. -/
inductive Topic where
  | scope (s : Scope)
  /-- The command word `help` itself. -/
  | help
  deriving DecidableEq, Repr

def versionText : String := programName ++ " 0.1.0\n"

namespace Help

inductive Part where
  /-- What is typed as it stands. -/
  | literal (s : String)
  | other (s : String)

def Part.text : Part → String
  | .literal s | .other s => s

/-- A part in the styles of a terminal. -/
def Part.marked : Part → String
  | .literal s => Style.mark .bold s
  | .other s => s

/-- A name with its explanation. -/
structure Row where
  name : List Part
  explanation : String

/-- How many columns the name of a row takes. -/
def Row.width (r : Row) : Nat :=
  r.name.foldl (fun n part => n + part.text.length) 0

def spaces (n : Nat) : String :=
  String.ofList (List.replicate n ' ')

/-- The rows of a section as lines: the explanations start in one column, and their later lines do
so too. -/
def rows (rs : List Row) : String :=
  let width := rs.foldl (fun n r => max n r.width) 0
  String.join <| rs.map fun r =>
    let indented := r.explanation.toList.flatMap fun c =>
      if c = '\n' then '\n' :: (spaces (width + 4)).toList else [c]
    "  " ++ String.join (r.name.map Part.marked) ++ spaces (width - r.width) ++ "  " ++
      String.ofList indented ++ "\n"

def fieldExplanation : Field → String
  | .installRoot => "Directory holding apache-flume-<VERSION>-bin"
  | .version => "Flume version"
  | .configFileName => "Agent configuration file inside the distribution's conf/ directory"
  | .agentName => "Agent name passed to flume-ng -n"
  | .runAsUser => "Account the agent runs under [default: root]"

/-- The row of an option. That of the settings file shows what the environment presets. -/
def optionRow (preset : Option String) (o : ValueOption) : Row where
  name := [.other "    ", .literal o.flag, .other (" <" ++ o.valueName ++ ">")]
  explanation :=
    match o with
    | .config =>
      "Configuration file (TOML) [env: " ++ configVariable ++ "=" ++ preset.getD "" ++ "]"
    | .field f => fieldExplanation f

def switchRow (s : Switch) : Row where
  name :=
    match s.letter? with
    | some c => [.literal ("-" ++ String.singleton c), .other ", ", .literal s.flag]
    | none => [.other "    ", .literal s.flag]
  explanation :=
    match s with
    | .json => "Print the argument vector as a JSON array"
    | .help => "Print help"
    | .version => "Print version"

def verbExplanation : Verb → String
  | .start => "Launch the agent and return without waiting for it"
  | .print => "Print the agent command line without launching it"

def helpExplanation : String := "Print this message or the help of the given subcommand(s)"

/-- The options of a scope in the order in which they are shown. -/
def shownOptions : Scope → List ValueOption
  | .top => [.config]
  | .after _ =>
    [.field .installRoot, .field .version, .field .configFileName, .config, .field .agentName,
      .field .runAsUser]

def headline (s : String) : String :=
  Style.mark .underlined (s ++ ":")

def optionSection (preset : Option String) (scope : Scope) : String :=
  headline "Options" ++ "\n" ++
    rows ((shownOptions scope).map (optionRow preset) ++ (Switch.known scope).map switchRow)

/-- How the program is called with these words, and what may follow them. -/
def usage (words : List String) (form : String) : String :=
  headline "Usage" ++ " " ++
    Style.mark .bold (String.intercalate " " (programName :: words)) ++ " " ++ form ++ "\n\n"

def commandRow (word explanation : String) : Row :=
  ⟨[.literal word], explanation⟩

/-- The help on a topic in the styles of a terminal. -/
def text (preset : Option String) : Topic → String
  | .scope .top =>
    purpose ++ "\n\n" ++ usage [] "[OPTIONS] <COMMAND>" ++ headline "Commands" ++ "\n" ++
      rows (Verb.all.map (fun v => commandRow v.word (verbExplanation v)) ++
        [commandRow "help" helpExplanation]) ++
      "\n" ++ optionSection preset .top
  | .scope (.after v) =>
    verbExplanation v ++ "\n\n" ++ usage [v.word] "[OPTIONS]" ++ optionSection preset (.after v)
  | .help =>
    helpExplanation ++ "\n\n" ++ usage ["help"] "[COMMAND]..." ++ headline "Arguments" ++ "\n" ++
      rows [⟨[.other "[COMMAND]..."], "Print help for the subcommand(s)"⟩]

end Help

end AgentLaunch.Arguments
