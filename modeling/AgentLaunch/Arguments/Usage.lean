import AgentLaunch.Arguments.Options
import AgentLaunch.Style

/-!
# Usage errors

What can be wrong with a command line, and what is reported of it.
-/

namespace AgentLaunch.Arguments

/-- Why a command line is not understood. -/
inductive UsageError where
  | unknownArgument (argument : String)
  /-- The option has no value, or an empty one where that is not allowed. -/
  | missingValue (option : ValueOption)
  | repeatedOption (option : ValueOption)
  | repeatedSwitch (switch : Switch)
  | unwantedValue (switch : Switch) (value : String)
  | unknownCommand (word : String)
  | missingCommand
  /-- The command line is empty. -/
  | nothingGiven
  deriving DecidableEq, Repr

def programName : String := "flume-launcher"

/-- What the program is for. -/
def purpose : String := "Start a Flume agent as a detached background process"

namespace UsageError

/-- The name of the kind of an error. -/
def kind : UsageError → String
  | .unknownArgument _ => "UnknownArgument"
  | .missingValue _ => "InvalidValue"
  | .repeatedOption _ | .repeatedSwitch _ => "ArgumentConflict"
  | .unwantedValue .. => "TooManyValues"
  | .unknownCommand _ => "InvalidSubcommand"
  | .missingCommand => "MissingSubcommand"
  | .nothingGiven => "DisplayHelpOnMissingArgumentOrSubcommand"

def argument? : UsageError → Option String
  | .unknownArgument argument => some argument
  | .missingValue option | .repeatedOption option => some option.shown
  | .repeatedSwitch switch | .unwantedValue switch _ => some switch.flag
  | _ => none

/-- The command word that an error is about. -/
def command? : UsageError → Option String
  | .unknownCommand word => some word
  | .missingCommand => some programName
  | _ => none

def value? : UsageError → Option String
  | .missingValue _ => some ""
  | .unwantedValue _ value => some value
  | _ => none

/-- The message of an error that something is wrong with what is quoted first. -/
private def complaint (before quoted after : String) : String :=
  Style.mark .boldRed "error:" ++ " " ++ before ++ "'" ++ Style.mark .yellow quoted ++ "'" ++ after

/-- The message of an error, before any advice, in the styles of a terminal. -/
def message : UsageError → String
  | .unknownArgument argument => complaint "unexpected argument " argument " found"
  | .missingValue option =>
    complaint "a value is required for " option.shown " but none was supplied"
  | .repeatedOption option =>
    complaint "the argument " option.shown " cannot be used multiple times"
  | .repeatedSwitch switch =>
    complaint "the argument " switch.flag " cannot be used multiple times"
  | .unwantedValue switch value =>
    complaint "unexpected value " value
      (" for '" ++ Style.mark .bold switch.flag ++ "' found; no more were expected")
  | .unknownCommand word => complaint "unrecognized subcommand " word ""
  | .missingCommand =>
    complaint "" programName " requires a subcommand but one was not provided"
  | .nothingGiven => purpose

/-- The first line of the report of an error, with or without colour. -/
def firstLine (colour : Bool) (e : UsageError) : String :=
  String.ofList ((Style.shown colour e.message).toList.takeWhile (· ≠ '\n'))

end UsageError

end AgentLaunch.Arguments
