import AgentLaunch.Environment
import AgentLaunch.Text.Control

/-!
# Coloured text

Text with the control sequences of a terminal. The program never writes to a terminal itself, so
that colour is only used where it is forced.
-/

namespace AgentLaunch

/-- How a text stands out. -/
inductive Style where
  | red
  | yellow
  | bold
  | boldRed
  | boldGreen
  | underlined
  deriving DecidableEq, Repr

namespace Style

private def sequence (codes : String) : List Char :=
  '\x1b' :: '[' :: (codes.toList ++ ['m'])

def on : Style → List Char
  | .red => sequence "31"
  | .yellow => sequence "33"
  | .bold => sequence "1"
  | .boldRed => sequence "1" ++ sequence "31"
  | .boldGreen => sequence "1;32"
  | .underlined => sequence "1" ++ sequence "4"

def off : List Char := sequence "0"

/-- A text with the style switched on again wherever the text itself switches it off. -/
def renew (style : Style) : List Char → List Char
  | '\x1b' :: '[' :: '0' :: 'm' :: rest => off ++ style.on ++ renew style rest
  | c :: rest => c :: renew style rest
  | [] => []

/-- A text in a style, if there is colour at all. -/
def paint (colour : Bool) (style : Style) (s : String) : String :=
  if colour then String.ofList (style.on ++ style.renew s.toList ++ off) else s

/-- A text in a style. What the text itself switches off stays off. -/
def mark (style : Style) (s : String) : String :=
  String.ofList (style.on ++ s.toList ++ off)

/-- What a stream shows of a marked text, which depends on whether there is colour. -/
def shown (colour : Bool) (s : String) : String :=
  if colour then s else Text.Control.stripStream s

/-- Whether a variable is set to a text that is not empty. -/
private def isNonempty (env : Environment) (name : String) : Bool :=
  match env.get? name with
  | some v => v ≠ ""
  | none => false

/-- Whether colour is forced where the command line is explained. Any text forces it there, and
`NO_COLOR` prevents it. -/
def isForcedForUsage (env : Environment) : Bool :=
  isNonempty env "CLICOLOR_FORCE" && !isNonempty env "NO_COLOR"

/-- Whether colour is forced where a launch is reported. -/
def isForced (env : Environment) : Bool :=
  match env.get? "CLICOLOR_FORCE" with
  | some v => v ≠ "0"
  | none => false

end Style

end AgentLaunch
