import AgentLaunch.Proofs.Session
import AgentLaunch.Proofs.Text.Quoted

/-!
# The log of a session

Launches alone report something. One whose account is unknown reports just that; every other one
reports the request that it hands over, and then how it went. So the log of a session names the
requests that its launches recorded, in their order, and tells one ending for each.
-/

namespace AgentLaunch

/-- What a log tells of an event. -/
structure LogLine where
  level : Level
  message : String
  details : List (String × EventValue)
  deriving DecidableEq, Repr

def Event.line (e : Event) : LogLine :=
  ⟨e.level, e.message, e.details⟩

namespace LogLine

def accountUnresolved (user reason : String) : LogLine :=
  ⟨.warn, "Cannot resolve run-as user", [("user", .text user), ("error", .text reason)]⟩

def launching (q : Request) : LogLine :=
  ⟨.info, "Launching agent",
    [("program", .text q.command.program), ("args", .text (Text.Quoted.list q.command.args)),
      ("user", .text q.account.name), ("uid", .number q.account.uid.toNat)]⟩

def handedOver (pid : Option UInt32) (agent : String) : LogLine :=
  let shown :=
    match pid with
    | none => "None"
    | some n => "Some(" ++ toString n.toNat ++ ")"
  ⟨.info, "Agent handed to the OS", [("pid", .text shown), ("agent", .text agent)]⟩

def spawnFailed (program reason : String) : LogLine :=
  ⟨.warn, "Agent spawn failed", [("program", .text program), ("error", .text reason)]⟩

/-- Whether a line has this message. -/
def hasMessage (l : LogLine) (message : String) : Bool :=
  l.message = message

/-- A line from which the request can be read. Arguments in which nothing has to be escaped stand
there as they are. -/
def Names (l : LogLine) (q : Request) : Prop :=
  ∃ args,
    l = ⟨.info, "Launching agent",
      [("program", .text q.command.program), ("args", .text args),
        ("user", .text q.account.name), ("uid", .number q.account.uid.toNat)]⟩ ∧
    Text.Quoted.readList? args = some q.command.args ∧
    ((∀ x ∈ q.command.args, ∀ c ∈ x.toList, Text.Quoted.IsBare c) →
      args = "[" ++ String.intercalate ", " (q.command.args.map fun x => "\"" ++ x ++ "\"") ++ "]")

theorem names_launching (q : Request) : (launching q).Names q :=
  ⟨_, rfl, Text.Quoted.readList?_list q.command.args, Text.Quoted.list_of_isBare⟩

end LogLine

namespace Session

def Step.isLaunch : Step → Bool
  | .launch _ => true
  | _ => false

/-- What the log tells of a step, given its reply and the requests recorded before and after it. -/
inductive Tells (c : Setup) (before : List Request) :
    Step → Reply → List Request → List LogLine → Prop where
  | unresolved (spec : Spec) (failure : LaunchFailure)
      (unknown : ∀ account, c.resolve spec.runAsUser ≠ .ok account) :
      Tells c before (.launch spec) (.launchFailed failure) before
        [.accountUnresolved spec.runAsUser failure.reason]
  | succeeded (spec : Spec) (account : Account) (receipt : Receipt)
      (known : c.resolve spec.runAsUser = .ok account) :
      Tells c before (.launch spec) (.launched receipt) (before ++ [⟨.forAgent spec, account⟩])
        [.launching ⟨.forAgent spec, account⟩, .handedOver receipt.pid spec.agentName]
  | failed (spec : Spec) (account : Account) (failure : LaunchFailure)
      (known : c.resolve spec.runAsUser = .ok account) :
      Tells c before (.launch spec) (.launchFailed failure) (before ++ [⟨.forAgent spec, account⟩])
        [.launching ⟨.forAgent spec, account⟩,
          .spawnFailed (Command.forAgent spec).program failure.reason]
  | silent (a : Step) (reply : Reply) (after : List Request) (other : a.isLaunch = false) :
      Tells c before a reply after []

section Steps

variable {c : Setup} {s : State}

theorem tells_launch (spec : Spec) :
    Tells c s.recorder.requests (.launch spec) (step c s (.launch spec)).value.1
      (step c s (.launch spec)).value.2.recorder.requests
      ((step c s (.launch spec)).events.map Event.line) := by
  cases h : c.resolve spec.runAsUser with
  | error e =>
    have hunknown : ∀ account, c.resolve spec.runAsUser ≠ .ok account := by simp [h]
    simp only [step, Logged.bind_eq, launch_of_unresolved (p := platform c) h]
    exact .unresolved spec (.ofLookup e) hunknown
  | ok account =>
    simp only [step, Logged.bind_eq, launch_platform h]
    -- Which lines there are depends on how the spawner answers, and on nothing else.
    cases c.behavior with
    | accept | block | anonymous => exact .succeeded spec account _ h
    | refuse e => exact .failed spec account (.ofSpawn e) h

theorem events_step_of_not_launch {a : Step} (h : a.isLaunch = false) :
    (step c s a).events = [] := by
  cases a with
  | launch spec => cases h
  | spawn q =>
    simp only [step, Logged.bind_eq, platform, Recorder.platform]
    generalize Recorder.spawn _ _ _ = out
    obtain ⟨_ | _, r⟩ := out <;> rfl
  | wait slot | id slot | drop slot =>
    simp only [step]
    cases s.handle? slot <;> rfl
  | resolve user =>
    simp only [step]
    cases c.resolve user <;> rfl
  | same i j =>
    simp only [step]
    split <;> rfl
  | requests | now => rfl

theorem tells_step (c : Setup) (s : State) (a : Step) :
    Tells c s.recorder.requests a (step c s a).value.1 (step c s a).value.2.recorder.requests
      ((step c s a).events.map Event.line) := by
  cases h : a.isLaunch with
  | true =>
    cases a with
    | launch spec => exact tells_launch spec
    | spawn | wait | id | drop | resolve | requests | same | now => cases h
  | false =>
    rw [events_step_of_not_launch h]
    exact .silent a _ _ h

end Steps

/-- The lines in the log of a session. -/
def log (c : Setup) (s : State) (steps : List Step) : List LogLine :=
  (run c s steps).flatMap fun entry => entry.events.map Event.line

/-- The requests that are recorded while the launches of a session take place. -/
def launchRecords (c : Setup) (s : State) : List Step → List Request
  | [] => []
  | a :: rest =>
    let t := (stepEntry c s a).2
    (if a.isLaunch then t.recorder.requests.drop s.recorder.requests.length else []) ++
      launchRecords c t rest

section Lines

variable {c : Setup} {before after : List Request} {a : Step} {reply : Reply}
  {lines : List LogLine}

/-- The requests that a step tells of are those that it recorded. -/
theorem Tells.launching (h : Tells c before a reply after lines) :
    lines.filter (·.hasMessage "Launching agent") =
      (if a.isLaunch then after.drop before.length else []).map LogLine.launching := by
  cases h with
  | unresolved => simp [Step.isLaunch, LogLine.hasMessage, LogLine.accountUnresolved]
  | succeeded | failed =>
    simp [Step.isLaunch, LogLine.hasMessage, LogLine.launching, LogLine.handedOver,
      LogLine.spawnFailed]
  | silent _ _ _ hother => simp [hother]

/-- Of a request that a step tells of, it tells the ending too. -/
theorem Tells.ending (h : Tells c before a reply after lines) :
    lines.countP (·.hasMessage "Launching agent") =
      lines.countP (·.hasMessage "Agent handed to the OS") +
        lines.countP (·.hasMessage "Agent spawn failed") := by
  cases h with
  | unresolved | succeeded | failed | silent => rfl

end Lines

section Log

variable {c : Setup}

theorem log_cons (s : State) (a : Step) (rest : List Step) :
    log c s (a :: rest) =
      (step c s a).events.map Event.line ++ log c (step c s a).value.2 rest := rfl

theorem filter_log (s : State) (steps : List Step) :
    (log c s steps).filter (·.hasMessage "Launching agent") =
      (launchRecords c s steps).map LogLine.launching := by
  induction steps generalizing s with
  | nil => rfl
  | cons a rest ih =>
    rw [log_cons, List.filter_append, (tells_step c s a).launching, ih, ← List.map_append]
    rfl

theorem countP_log (s : State) (steps : List Step) :
    (log c s steps).countP (·.hasMessage "Launching agent") =
      (log c s steps).countP (·.hasMessage "Agent handed to the OS") +
        (log c s steps).countP (·.hasMessage "Agent spawn failed") := by
  induction steps generalizing s with
  | nil => rfl
  | cons a rest ih =>
    simp only [log_cons, List.countP_append, (tells_step c s a).ending, ih]
    omega

end Log

/-- The log agrees with what was done, step by step and over a whole session: it names the requests
that launches recorded, all of them and in their order, each with its ending. Each request can be
read from its line. -/
theorem log_agrees (c : Setup) (s : State) (steps : List Step) :
    (∀ before a after, steps = before ++ a :: after → ∃ entry,
      (run c s steps)[before.length]? = some entry ∧
      Tells c (runState c s before).recorder.requests a entry.reply
        (runState c s (before ++ [a])).recorder.requests (entry.events.map Event.line)) ∧
    (log c s steps).filter (·.hasMessage "Launching agent") =
      (launchRecords c s steps).map LogLine.launching ∧
    (log c s steps).countP (·.hasMessage "Launching agent") = (launchRecords c s steps).length ∧
    (log c s steps).countP (·.hasMessage "Launching agent") =
      (log c s steps).countP (·.hasMessage "Agent handed to the OS") +
        (log c s steps).countP (·.hasMessage "Agent spawn failed") ∧
    ∀ q, (LogLine.launching q).Names q := by
  refine ⟨?_, filter_log s steps, ?_, countP_log s steps, LogLine.names_launching⟩
  · rintro before a after rfl
    refine ⟨_, getElem?_run s before a after, ?_⟩
    rw [runState_append]
    exact tells_step c (runState c s before) a
  · rw [List.countP_eq_length_filter, filter_log, List.length_map]

/-- A launch for an account that nobody has, and one for the superuser. -/
def triedTwice : List Step :=
  [.launch ⟨"/opt", "1", "cygnus.conf", "orionagent", "nobody"⟩,
    .launch ⟨"/opt", "1", "cygnus.conf", "say \"é\"", "root"⟩]

theorem log_agrees_sample :
    let c : Setup := ⟨.accept, AccountTable.superuser.resolve, 0⟩
    let launching : LogLine :=
      ⟨.info, "Launching agent",
        [("program", .text "/opt/apache-flume-1-bin/bin/flume-ng"),
          ("args", .text ("[\"agent\", \"--conf\", \"/opt/apache-flume-1-bin/conf\", \"-f\", " ++
            "\"/opt/apache-flume-1-bin/conf/cygnus.conf\", \"-n\", \"say \\\"é\\\"\", " ++
            "\"-Dflume.root.logger=INFO,LOGFILE\"]")),
          ("user", .text "root"), ("uid", .number 0)]⟩
    log c .initial triedTwice =
      [⟨.warn, "Cannot resolve run-as user",
          [("user", .text "nobody"), ("error", .text "Unknown user: nobody")]⟩,
        launching,
        ⟨.info, "Agent handed to the OS",
          [("pid", .text "Some(1001)"), ("agent", .text "say \"é\"")]⟩] ∧
    (launchRecords c .initial triedTwice).map LogLine.launching = [launching] := by
  intro c launching
  have hagrees := (log_agrees c .initial triedTwice).2.1
  refine ⟨by decide +kernel, ?_⟩
  rw [← hagrees]
  decide +kernel

end Session

end AgentLaunch
