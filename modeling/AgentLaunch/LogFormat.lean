import AgentLaunch.Environment
import AgentLaunch.Event
import AgentLaunch.Text.Json

/-!
# Log formats

How events are written to the log: as one JSON object a line, or as text for people.
-/

namespace AgentLaunch

inductive LogFormat where
  | pretty
  | json
  deriving DecidableEq, Repr

namespace LogFormat

def ofEnvironment (env : Environment) : LogFormat :=
  if env.get? "FLUME_LAUNCHER_LOG_FORMAT" = some "json" then .json else .pretty

private def object (entries : List (String × String)) : String :=
  "\x7b" ++ String.intercalate "," (entries.map fun (key, value) =>
    Text.Json.encode key ++ ":" ++ value) ++ "\x7d"

private def jsonValue : EventValue → String
  | .text s => Text.Json.encode s
  | .number n => toString n
  | .truth b => if b then "true" else "false"

private def plainValue : EventValue → String
  | .text s => s
  | v => jsonValue v

/-- An event as an entry of the log. -/
def entry (e : Event) : LogFormat → String
  | .json =>
    object
      [("level", Text.Json.encode e.level.name),
        ("fields", object (e.fields.map fun (name, value) => (name, jsonValue value))),
        ("target", Text.Json.encode e.target)]
  | .pretty =>
    e.level.name ++ " " ++ e.target ++ ": " ++ String.intercalate ", "
      (e.message :: e.details.map fun (name, value) => name ++ ": " ++ plainValue value)

end LogFormat

end AgentLaunch
