import AgentLaunch.Proofs.Session

/-!
# Sessions in which processes never end

The same steps over processes that are over at once and over processes that never end. The two
sessions differ in what polls show and in nothing else, so no launch waits for what it starts; and
polling leaves no trace in either.
-/

namespace AgentLaunch

/-- The same hold on a process that never ends. -/
def Handle.paused (h : Handle) : Handle :=
  { h with poll := .pending }

namespace Session

/-- The same surroundings with processes that are over at once. -/
def Setup.ending (c : Setup) : Setup :=
  { c with behavior := .accept }

/-- The same surroundings with processes that never end. -/
def Setup.blocking (c : Setup) : Setup :=
  { c with behavior := .block }

def Step.isWait : Step → Bool
  | .wait _ => true
  | _ => false

/-- The state in which every handle is one of a process that never ends. -/
def State.paused (s : State) : State :=
  { s with slots := s.slots.map (Option.map Handle.paused) }

/-- The answer that shows every process as running. -/
def Reply.paused : Reply → Reply
  | .polled _ => .polled .pending
  | reply => reply

def Entry.paused (e : Entry) : Entry :=
  { e with reply := e.reply.paused }

section TwoRuns

variable {c : Setup} {s : State}

theorem handle?_paused (s : State) (slot : Nat) :
    s.paused.handle? slot = (s.handle? slot).map Handle.paused := by
  simp only [State.handle?, State.paused, List.getElem?_map]
  cases s.slots[slot]? <;> rfl

/-- A launch never polls, so it does not matter when processes end. -/
theorem launch_blocking (c : Setup) (spec : Spec) (r : Recorder) :
    launch (platform c.blocking) c.now spec r = launch (platform c.ending) c.now spec r := by
  cases h : c.resolve spec.runAsUser with
  | error e =>
    rw [launch_of_unresolved (p := platform c.blocking) h,
      launch_of_unresolved (p := platform c.ending) h]
    rfl
  | ok account =>
    let lookup (name : String) : Logged (Except LookupError Account) := pure (c.resolve name)
    change launch (Recorder.platformWith .block lookup) c.now spec r =
      launch (Recorder.platformWith .accept lookup) c.now spec r
    rw [Recorder.launch_of_known lookup h, Recorder.launch_of_known lookup h]
    rfl

/-- One step over processes that never end, told from the same step over processes that are over. -/
theorem step_paused (c : Setup) (s : State) (a : Step) :
    step c.blocking s.paused a =
      ⟨((step c.ending s a).value.1.paused, (step c.ending s a).value.2.paused),
        (step c.ending s a).events⟩ := by
  cases a with
  | launch spec =>
    have hlaunch : launch (platform c.blocking) c.blocking.now spec s.paused.recorder =
        launch (platform c.ending) c.ending.now spec s.recorder := launch_blocking c spec s.recorder
    simp only [step, Logged.bind_eq, hlaunch]
    generalize launch _ _ _ _ = out
    obtain ⟨⟨_ | _, r⟩, events⟩ := out <;> rfl
  | spawn q =>
    simp [step, Logged.bind_eq, platform, Recorder.platform, Recorder.spawn, Setup.ending,
      Setup.blocking, State.paused, Reply.paused, Handle.paused]
  | wait slot | id slot =>
    simp only [step, handle?_paused]
    cases s.handle? slot <;> rfl
  | drop slot =>
    simp only [step, handle?_paused]
    cases s.handle? slot with
    | none => rfl
    | some handle =>
      have hset : s.paused.slots.set slot none =
          (s.slots.set slot none).map (Option.map Handle.paused) := by
        simp [State.paused]
      simp only [Option.map_some, hset]
      rfl
  | resolve user =>
    have hresolve : c.blocking.resolve user = c.ending.resolve user := rfl
    simp only [step, hresolve]
    cases c.ending.resolve user <;> rfl
  | same i j =>
    have hrecorder : s.paused.recorder = s.recorder := rfl
    simp only [step, hrecorder]
    split <;> rfl
  | requests | now => rfl

/-- Only a poll shows how a process is. -/
theorem paused_reply {a : Step} (h : a.isWait = false) :
    (step c s a).value.1.paused = (step c s a).value.1 := by
  cases a with
  | wait slot => cases h
  | launch spec =>
    simp only [step, Logged.value_bind]
    generalize (launch _ _ _ _).value = out
    obtain ⟨_ | _, r⟩ := out <;> rfl
  | spawn q =>
    simp only [step, Logged.value_bind]
    generalize ((platform c).spawn _ _).value = out
    obtain ⟨_ | _, r⟩ := out <;> rfl
  | id slot | drop slot =>
    simp only [step]
    cases s.handle? slot <;> rfl
  | resolve user =>
    simp only [step]
    cases c.resolve user <;> rfl
  | same i j =>
    simp only [step]
    split <;> rfl
  | requests | now => rfl

theorem stepEntry_paused (c : Setup) (s : State) (a : Step) :
    stepEntry c.blocking s.paused a =
      ((stepEntry c.ending s a).1.paused, (stepEntry c.ending s a).2.paused) := by
  simp only [stepEntry, step_paused]
  rfl

/-- A session over processes that never end is the one over processes that are over, with every
process shown as running. -/
theorem run_paused (c : Setup) (s : State) (steps : List Step) :
    run c.blocking s.paused steps = (run c.ending s steps).map Entry.paused := by
  induction steps generalizing s with
  | nil => rfl
  | cons a rest ih =>
    simp only [run, stepEntry_paused, List.map_cons, ih]

theorem runState_paused (c : Setup) (s : State) (steps : List Step) :
    runState c.blocking s.paused steps = (runState c.ending s steps).paused := by
  induction steps generalizing s with
  | nil => rfl
  | cons a rest ih =>
    change runState c.blocking (stepEntry c.blocking s.paused a).2 rest = _
    rw [stepEntry_paused]
    exact ih _

end TwoRuns

section Polls

variable {c : Setup} {s t : State}

/-- Every process that is held is over with code 0. -/
def State.AllOver (s : State) : Prop :=
  ∀ slot handle, s.handle? slot = some handle → handle.poll = .finished (some 0)

theorem allOver_initial : State.initial.AllOver := by
  intro slot handle h
  cases h

theorem poll_of_spawn {q : Request} {r : Recorder} {handle : Handle}
    (h : (Recorder.spawn .accept q r).1 = .ok handle) : handle.poll = .finished (some 0) := by
  rw [← Except.ok.inj h]

theorem Change.allOver {a : Step} {reply : Reply} (h : Change c.ending s a reply t)
    (hs : s.AllOver) : t.AllOver := by
  intro slot handle hslot
  cases h with
  | launched | refused | unchanged => exact hs slot handle hslot
  | spawned q new answer =>
    rw [State.handle?_of_append (s := s) rfl] at hslot
    split at hslot
    · cases hslot
      exact poll_of_spawn answer
    · exact hs slot handle hslot
  | dropped slot' old there =>
    rw [State.handle?_of_set (s := s) rfl] at hslot
    split at hslot
    · cases hslot
    · exact hs slot handle hslot

theorem allOver_runState (hs : s.AllOver) (steps : List Step) :
    (runState c.ending s steps).AllOver := by
  induction steps generalizing s with
  | nil => exact hs
  | cons a rest ih => exact ih ((step_change c.ending s a).allOver hs)

theorem mem_heldSlots_iff {before : List Step} {slot : Nat} :
    slot ∈ heldSlots (history c .initial before) ↔
      ((runState c .initial before).handle? slot).isSome := by
  have hheld : (runState c .initial before).held = heldSlots (history c .initial before) :=
    held_runState .initial before
  rw [← hheld, State.mem_held_iff]

theorem reply_wait_of_held {before : List Step} {slot : Nat}
    (h : slot ∈ heldSlots (history c.ending .initial before)) :
    (stepEntry c.ending (runState c.ending .initial before) (.wait slot)).1.reply =
      .polled (.finished (some 0)) := by
  obtain ⟨handle, hhandle⟩ := Option.isSome_iff_exists.mp (mem_heldSlots_iff.mp h)
  have hover : (runState c.ending .initial before).AllOver :=
    allOver_runState allOver_initial before
  simp only [stepEntry, step, hhandle, Logged.value_pure]
  rw [hover slot handle hhandle]

theorem reply_wait_of_not_held {before : List Step} {slot : Nat}
    (h : slot ∉ heldSlots (history c .initial before)) :
    (stepEntry c (runState c .initial before) (.wait slot)).1.reply = .noHandle := by
  have hnone : (runState c .initial before).handle? slot = none :=
    Option.not_isSome_iff_eq_none.mp (mt mem_heldSlots_iff.mpr h)
  simp only [stepEntry, step, hnone, Logged.value_pure]

end Polls

section Traces

variable {c : Setup}

theorem run_append (s : State) (before after : List Step) :
    run c s (before ++ after) = run c s before ++ run c (runState c s before) after := by
  induction before generalizing s with
  | nil => rfl
  | cons a before ih => exact congrArg (_ :: ·) (ih (stepEntry c s a).2)

@[simp] theorem length_run (s : State) (steps : List Step) :
    (run c s steps).length = steps.length := by
  induction steps generalizing s with
  | nil => rfl
  | cons a rest ih => exact congrArg (· + 1) (ih (stepEntry c s a).2)

theorem drop_run_append (s : State) (before after : List Step) :
    (run c s (before ++ after)).drop before.length = run c (runState c s before) after := by
  rw [run_append, List.drop_left' (length_run s before)]

/-- Polling is looking, and nothing else. -/
theorem step_wait_state {a : Step} (h : a.isWait) (s : State) : (stepEntry c s a).2 = s := by
  cases a with
  | wait slot =>
    simp only [stepEntry, step]
    cases s.handle? slot <;> rfl
  | launch | spawn | id | drop | resolve | requests | same | now => cases h

theorem runState_waits {waits : List Step} (h : ∀ w ∈ waits, w.isWait) (s : State) :
    runState c s waits = s := by
  induction waits with
  | nil => rfl
  | cons w rest ih =>
    change runState c (stepEntry c s w).2 rest = s
    rw [step_wait_state (h w List.mem_cons_self)]
    exact ih fun w' hw' => h w' (List.mem_cons_of_mem w hw')

theorem drop_run_waits (s : State) (before : List Step) {waits : List Step}
    (h : ∀ w ∈ waits, w.isWait) (after : List Step) :
    (run c s (before ++ waits ++ after)).drop (before.length + waits.length) =
      (run c s (before ++ after)).drop before.length := by
  rw [← List.length_append, drop_run_append, drop_run_append, runState_append, runState_waits h]

end Traces

theorem heldSlots_blocking (c : Setup) (steps : List Step) :
    heldSlots (history c.blocking .initial steps) =
      heldSlots (history c.ending .initial steps) := by
  have hpaused : (runState c.blocking .initial steps).held =
      (runState c.ending .initial steps).held := by
    change (runState c.blocking State.initial.paused steps).held = _
    have hlength : (runState c.ending .initial steps).paused.slots.length =
        (runState c.ending .initial steps).slots.length := List.length_map _
    rw [runState_paused]
    simp only [State.held, handle?_paused, Option.isSome_map, hlength]
  exact (held_runState .initial steps).symm.trans
    (hpaused.trans (held_runState .initial steps))

/-- Whatever is done in a session, only polls tell whether processes end, and no number of polls
changes an answer after them. -/
theorem polls_alone_differ (c : Setup) (before : List Step) (a : Step) (after : List Step) :
    let steps := before ++ a :: after
    let held := heldSlots (history c.ending .initial before)
    heldSlots (history c.blocking .initial before) = held ∧
    (∃ e e', (run c.ending .initial steps)[before.length]? = some e ∧
      (run c.blocking .initial steps)[before.length]? = some e' ∧
      e'.calls = e.calls ∧ e'.live = e.live ∧ e'.events = e.events ∧
      (a.isWait = false → e'.reply = e.reply) ∧
      ∀ slot, a = .wait slot →
        if slot ∈ held then e.reply = .polled (.finished (some 0)) ∧ e'.reply = .polled .pending
        else e.reply = .noHandle ∧ e'.reply = .noHandle) ∧
    ∀ waits : List Step, (∀ w ∈ waits, w.isWait) → ∀ d ∈ [c.ending, c.blocking],
      (run d .initial (before ++ waits ++ a :: after)).drop (before.length + waits.length) =
        (run d .initial steps).drop before.length := by
  intro steps held
  refine ⟨heldSlots_blocking c before, ?_, fun waits hwaits d _ =>
    drop_run_waits .initial before hwaits (a :: after)⟩
  let e := (stepEntry c.ending (runState c.ending .initial before) a).1
  have hended : (run c.ending .initial steps)[before.length]? = some e :=
    getElem?_run .initial before a after
  have hblocked : (run c.blocking .initial steps)[before.length]? = some e.paused := by
    have hpaused : run c.blocking .initial steps = (run c.ending .initial steps).map .paused :=
      run_paused c .initial steps
    rw [hpaused, List.getElem?_map, hended]
    rfl
  refine ⟨e, e.paused, hended, hblocked, rfl, rfl, rfl, paused_reply, ?_⟩
  rintro slot rfl
  have hpaused : ∀ reply, e.reply = reply → e.paused.reply = reply.paused := by
    rintro reply rfl
    rfl
  split
  next hheld =>
    have hreply : e.reply = .polled (.finished (some 0)) := reply_wait_of_held hheld
    exact ⟨hreply, hpaused _ hreply⟩
  next hheld =>
    have hreply : e.reply = .noHandle := reply_wait_of_not_held hheld
    exact ⟨hreply, hpaused _ hreply⟩

end Session

end AgentLaunch
