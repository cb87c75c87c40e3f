import AgentLaunch.Proofs.Recorder
import AgentLaunch.Session

/-!
# The books of a session

After every step the recorder has exactly the requests that the steps so far made, in their order,
and as many handles are held as the steps obtained themselves and did not drop.
-/

namespace AgentLaunch.Session

/-- The request that a step hands to the spawner. -/
def request? (c : Setup) : Step → Option Request
  | .spawn request => some request
  | .launch spec =>
    match c.resolve spec.runAsUser with
    | .ok account => some ⟨Command.forAgent spec, account⟩
    | .error _ => none
  | _ => none

/-- Whether a step asks the spawner itself. -/
def Step.isSpawn : Step → Bool
  | .spawn _ => true
  | _ => false

/-- Whether a step is a launch whose account is known. -/
def launches (c : Setup) : Step → Bool
  | .launch spec => (c.resolve spec.runAsUser).isOk
  | _ => false

/-- The steps of a session and their replies. -/
def history (c : Setup) (s : State) (steps : List Step) : List (Step × Reply) :=
  steps.zip ((run c s steps).map Entry.reply)

/-- The slots whose handles are held after one more step, as seen from outside. -/
def holdNext (held : List Nat) : Step × Reply → List Nat
  | (.spawn _, .spawned slot _) => held ++ [slot]
  | (.drop slot, _) => held.erase slot
  | _ => held

/-- The slots that were given out and not dropped since. -/
def heldSlots (h : List (Step × Reply)) : List Nat :=
  h.foldl holdNext []

namespace State

/-- The slots with a handle. -/
def held (s : State) : List Nat :=
  (List.range s.slots.length).filter fun slot => (s.handle? slot).isSome

theorem nodup_held (s : State) : s.held.Nodup :=
  List.nodup_range.filter _

theorem mem_held_iff {s : State} {slot : Nat} : slot ∈ s.held ↔ (s.handle? slot).isSome := by
  rw [held, List.mem_filter, List.mem_range, and_iff_right_iff_imp]
  intro h
  refine Decidable.byContradiction fun hout => ?_
  rw [handle?, List.getElem?_eq_none (Nat.le_of_not_lt hout)] at h
  cases h

section Slots

variable {s t : State} {handle : Handle} {slot : Nat}

theorem handle?_of_append (h : t.slots = s.slots ++ [some handle]) (slot : Nat) :
    t.handle? slot = if slot = s.slots.length then some handle else s.handle? slot := by
  rw [handle?, handle?, h]
  split
  next hlast =>
    rw [hlast, List.getElem?_concat_length]
    rfl
  next hother =>
    rw [List.getElem?_append]
    split
    · rfl
    next hout =>
      have hbeyond : s.slots.length ≤ slot := Nat.le_of_not_lt hout
      rw [List.getElem?_eq_none hbeyond, List.getElem?_eq_none]
      simp only [List.length_singleton]
      omega

theorem handle?_of_set (h : t.slots = s.slots.set slot none) (slot' : Nat) :
    t.handle? slot' = if slot' = slot then none else s.handle? slot' := by
  rw [handle?, handle?, h, List.getElem?_set]
  split
  next hslot =>
    rw [if_pos hslot.symm]
    split <;> rfl
  next hslot => rw [if_neg (Ne.symm hslot)]

theorem held_of_append (h : t.slots = s.slots ++ [some handle]) :
    t.held = s.held ++ [s.slots.length] := by
  have hbefore : ∀ slot ∈ List.range s.slots.length,
      (t.handle? slot).isSome = (s.handle? slot).isSome := by
    intro slot hslot
    rw [handle?_of_append h, if_neg (Nat.ne_of_lt (List.mem_range.mp hslot))]
  have hlast : (t.handle? s.slots.length).isSome = true := by
    rw [handle?_of_append h, if_pos rfl]
    rfl
  have hlength : t.slots.length = s.slots.length + 1 := by simp [h]
  rw [held, hlength, List.range_succ, List.filter_append, List.filter_congr hbefore]
  congr 1
  exact List.filter_cons_of_pos hlast

theorem held_of_set (h : t.slots = s.slots.set slot none) : t.held = s.held.erase slot := by
  have hlength : t.slots.length = s.slots.length := by simp [h]
  rw [(nodup_held s).erase_eq_filter, held, held, hlength, List.filter_filter]
  apply List.filter_congr
  intro slot' _
  rw [handle?_of_set h]
  by_cases hslot : slot' = slot <;> simp [hslot]

theorem held_of_eq (h : t.slots = s.slots) : t.held = s.held := by
  rw [held, held, h]
  simp only [handle?, h]

end Slots

end State

section Steps

variable {c : Setup} {s : State} {a : Step}

/-- What the launcher answers, as a reply. -/
def Reply.ofLaunch : Except LaunchFailure Receipt → Reply
  | .ok receipt => .launched receipt
  | .error failure => .launchFailed failure

/-- What a step can do: it replies, and it changes the state. -/
inductive Change (c : Setup) (s : State) : Step → Reply → State → Prop where
  | launched (spec : Spec) (account : Account) (known : c.resolve spec.runAsUser = .ok account) :
      Change c s (.launch spec)
        (.ofLaunch (Recorder.attempt c.behavior c.now ⟨.forAgent spec, account⟩ s.recorder).1)
        { s with
          recorder :=
            (Recorder.attempt c.behavior c.now ⟨.forAgent spec, account⟩ s.recorder).2 }
  | spawned (q : Request) (handle : Handle)
      (answer : (Recorder.spawn c.behavior q s.recorder).1 = .ok handle) :
      Change c s (.spawn q) (.spawned s.slots.length handle.pid)
        ⟨(Recorder.spawn c.behavior q s.recorder).2, s.slots ++ [some handle]⟩
  | refused (q : Request) (e : SpawnError)
      (answer : (Recorder.spawn c.behavior q s.recorder).1 = .error e) :
      Change c s (.spawn q) (.spawnFailed e)
        { s with recorder := (Recorder.spawn c.behavior q s.recorder).2 }
  | dropped (slot : Nat) (handle : Handle) (there : s.handle? slot = some handle) :
      Change c s (.drop slot) (.dropped true)
        ⟨Recorder.release handle s.recorder, s.slots.set slot none⟩
  | unchanged (a : Step) (reply : Reply) (quiet : request? c a = none)
      (absent : ∀ slot, a = .drop slot → s.handle? slot = none) : Change c s a reply s

theorem platform_eq (c : Setup) : platform c =
    Recorder.platformWith c.behavior fun name => pure (c.resolve name) :=
  Recorder.platform_eq c.behavior c.resolve

/-- A launch in a session once the account is known. -/
theorem launch_platform {spec : Spec} {account : Account}
    (h : c.resolve spec.runAsUser = .ok account) (r : Recorder) :
    launch (platform c) c.now spec r =
      ⟨Recorder.attempt c.behavior c.now ⟨.forAgent spec, account⟩ r,
        Recorder.attemptEvents c.behavior spec.agentName ⟨.forAgent spec, account⟩ r⟩ :=
  Recorder.launch_of_known (fun name => pure (c.resolve name)) h

theorem change_launch (spec : Spec) :
    Change c s (.launch spec) (step c s (.launch spec)).value.1
      (step c s (.launch spec)).value.2 := by
  rw [step, Logged.value_bind]
  cases h : c.resolve spec.runAsUser with
  | error e =>
    rw [launch_of_unresolved (p := platform c) h]
    refine .unchanged _ _ ?_ nofun
    rw [request?, h]
  | ok account =>
    rw [platform_eq, Recorder.launch_of_known (fun name => pure (c.resolve name)) h]
    have hchange := Change.launched (s := s) spec account h
    generalize Recorder.attempt _ _ _ _ = out at hchange ⊢
    obtain ⟨_ | _, r⟩ := out <;> exact hchange

theorem change_spawn (q : Request) :
    Change c s (.spawn q) (step c s (.spawn q)).value.1 (step c s (.spawn q)).value.2 := by
  have hspawned := Change.spawned (c := c) (s := s) q
  have hrefused := Change.refused (c := c) (s := s) q
  rw [step, Logged.value_bind, platform_eq]
  simp only [Recorder.platformWith, Logged.value_pure]
  generalize Recorder.spawn c.behavior q s.recorder = out at hspawned hrefused ⊢
  obtain ⟨e | handle, r⟩ := out
  · exact hrefused e rfl
  · exact hspawned handle rfl

/-- Every step is one of the changes. -/
theorem step_change (c : Setup) (s : State) (a : Step) :
    Change c s a (step c s a).value.1 (step c s a).value.2 := by
  cases a with
  | launch spec => exact change_launch spec
  | spawn q => exact change_spawn q
  | drop slot =>
    cases h : s.handle? slot with
    | some handle =>
      simp only [step, h]
      exact .dropped slot handle h
    | none =>
      simp only [step, h]
      refine .unchanged _ _ rfl ?_
      rintro _ ⟨⟩
      exact h
  | wait slot | id slot =>
    rw [step]
    cases s.handle? slot <;> exact .unchanged _ _ rfl nofun
  | resolve user =>
    rw [step]
    cases c.resolve user <;> exact .unchanged _ _ rfl nofun
  | same i j =>
    rw [step]
    split <;> exact .unchanged _ _ rfl nofun
  | requests | now => exact .unchanged _ _ rfl nofun

/-- The handles in the slots are of the kind that the behavior gives out, and they are counted. -/
structure Consistent (c : Setup) (s : State) : Prop where
  kind : ∀ slot handle, s.handle? slot = some handle → handle.pid.isSome = c.behavior.keeps
  live : s.recorder.live = if c.behavior.keeps then s.held.length else 0

theorem consistent_initial (c : Setup) : Consistent c .initial where
  kind := nofun
  live := by
    split <;> rfl

namespace Change

variable {t : State} {reply : Reply}

theorem requests (h : Change c s a reply t) :
    t.recorder.requests = s.recorder.requests ++ (request? c a).toList := by
  cases h with
  | launched spec account known =>
    rw [request?, known]
    exact Recorder.requests_attempt
  | spawned q handle _ => exact Recorder.requests_spawn
  | refused q e _ => exact Recorder.requests_spawn
  | dropped slot handle _ =>
    exact Recorder.requests_release.trans (List.append_nil _).symm
  | unchanged _ _ quiet _ => rw [quiet, Option.toList_none, List.append_nil]

theorem held (h : Change c s a reply t) : t.held = holdNext s.held (a, reply) := by
  cases h with
  | launched spec account _ => exact State.held_of_eq rfl
  | spawned q handle _ => exact State.held_of_append rfl
  | refused q e _ => exact State.held_of_eq rfl
  | dropped slot handle _ => exact State.held_of_set rfl
  | unchanged _ _ quiet absent =>
    cases a with
    | spawn q => cases quiet
    | drop slot =>
      have hout : slot ∉ s.held := by
        rw [State.mem_held_iff, absent slot rfl]
        nofun
      exact (List.erase_of_not_mem hout).symm
    | launch spec | wait slot | id slot | resolve user | requests | same i j | now => rfl

theorem consistent (h : Change c s a reply t) (hs : Consistent c s) : Consistent c t := by
  cases h with
  | launched spec account _ => exact ⟨hs.kind, Recorder.live_attempt.trans hs.live⟩
  | spawned q handle answer =>
    constructor
    · intro slot handle' hslot
      rw [State.handle?_of_append (s := s) rfl] at hslot
      split at hslot
      · cases hslot
        exact Recorder.pid_isSome_of_spawn answer
      · exact hs.kind slot handle' hslot
    · rw [State.held_of_append (s := s) rfl, List.length_append, Recorder.live_spawn, hs.live]
      cases c.behavior.keeps <;> rfl
  | refused q e answer =>
    have hkeeps : c.behavior.keeps = false := by
      rw [Recorder.spawn_eq_error_iff.mp answer]
      rfl
    have hlive : (Recorder.spawn c.behavior q s.recorder).2.live = s.recorder.live := by
      rw [Recorder.live_spawn, hkeeps]
      rfl
    exact ⟨hs.kind, hlive.trans hs.live⟩
  | dropped slot handle there =>
    have hmem : slot ∈ s.held := by
      rw [State.mem_held_iff, there]
      rfl
    constructor
    · intro slot' handle' hslot
      rw [State.handle?_of_set (s := s) rfl] at hslot
      split at hslot
      · cases hslot
      · exact hs.kind slot' handle' hslot
    · rw [State.held_of_set (s := s) rfl, List.length_erase_of_mem hmem,
        Recorder.live_release (hs.kind slot handle there), hs.live]
      cases c.behavior.keeps <;> rfl
  | unchanged _ _ _ _ => exact hs

end Change

end Steps

section Runs

variable {c : Setup}

theorem runState_append (s : State) (before after : List Step) :
    runState c s (before ++ after) = runState c (runState c s before) after :=
  List.foldl_append

theorem filterMap_request?_cons (a : Step) (rest : List Step) :
    (a :: rest).filterMap (request? c) =
      (request? c a).toList ++ rest.filterMap (request? c) := by
  rw [List.filterMap_cons]
  cases request? c a <;> rfl

theorem requests_runState (s : State) (steps : List Step) :
    (runState c s steps).recorder.requests =
      s.recorder.requests ++ steps.filterMap (request? c) := by
  induction steps generalizing s with
  | nil => exact (List.append_nil _).symm
  | cons a rest ih =>
    change (runState c (step c s a).value.2 rest).recorder.requests = _
    rw [ih, (step_change c s a).requests, List.append_assoc, filterMap_request?_cons]

theorem consistent_runState {s : State} (hs : Consistent c s) (steps : List Step) :
    Consistent c (runState c s steps) := by
  induction steps generalizing s with
  | nil => exact hs
  | cons a rest ih => exact ih ((step_change c s a).consistent hs)

theorem held_runState (s : State) (steps : List Step) :
    (runState c s steps).held = (history c s steps).foldl holdNext s.held := by
  induction steps generalizing s with
  | nil => rfl
  | cons a rest ih =>
    change (runState c (step c s a).value.2 rest).held = _
    rw [ih, (step_change c s a).held]
    rfl

/-- What a session shows of a step depends on the steps before it only. -/
theorem getElem?_run (s : State) (before : List Step) (a : Step) (after : List Step) :
    (run c s (before ++ a :: after))[before.length]? =
      some (stepEntry c (runState c s before) a).1 := by
  induction before generalizing s with
  | nil => rfl
  | cons b before ih => exact ih (stepEntry c s b).2

theorem length_request? (a : Step) : (request? c a).toList.length =
    (if a.isSpawn then 1 else 0) + if launches c a then 1 else 0 := by
  cases a with
  | launch spec =>
    cases h : c.resolve spec.runAsUser <;>
      simp [request?, launches, Step.isSpawn, h, Except.isOk, Except.toBool]
  | spawn q | wait slot | id slot | drop slot | resolve user | requests | same i j | now => rfl

theorem length_filterMap_request? (steps : List Step) :
    (steps.filterMap (request? c)).length =
      steps.countP Step.isSpawn + steps.countP (launches c) := by
  induction steps with
  | nil => rfl
  | cons a rest ih =>
    rw [filterMap_request?_cons, List.length_append, length_request?, ih, List.countP_cons,
      List.countP_cons]
    omega

/-- The number of handles that the steps of a session obtained and did not drop. -/
theorem live_runState (steps : List Step) : (runState c .initial steps).recorder.live =
    if c.behavior.keeps then (heldSlots (history c .initial steps)).length else 0 := by
  rw [(consistent_runState (consistent_initial c) steps).live, held_runState]
  rfl

/-- The books after any step of any session. -/
theorem books_balance (c : Setup) (before : List Step) (a : Step) (after : List Step) :
    let steps := before ++ [a]
    let s := runState c .initial before
    let t := runState c .initial steps
    ∃ entry, (run c .initial (before ++ a :: after))[before.length]? = some entry ∧
      entry.calls = t.recorder.requests.length ∧
      entry.calls = steps.countP Step.isSpawn + steps.countP (launches c) ∧
      t.recorder.requests = steps.filterMap (request? c) ∧
      s.recorder.requests <+: t.recorder.requests ∧
      entry.live =
        (if c.behavior.keeps then (heldSlots (history c .initial steps)).length else 0) ∧
      (∀ spec, a = .launch spec → entry.live = s.recorder.live) ∧
      (∀ slot, a = .drop slot → slot ∈ heldSlots (history c .initial before) →
        c.behavior.keeps → s.recorder.live = entry.live + 1) := by
  intro steps s t
  have ht : t = (stepEntry c s a).2 := runState_append .initial before [a]
  have hrequests : t.recorder.requests = steps.filterMap (request? c) :=
    requests_runState .initial steps
  have hcalls : (stepEntry c s a).1.calls = t.recorder.requests.length := by
    rw [ht]
    rfl
  have hlive : (stepEntry c s a).1.live = t.recorder.live := by
    rw [ht]
    rfl
  have hchange : Change c s a (stepEntry c s a).1.reply t := ht ▸ step_change c s a
  have hs : Consistent c s := consistent_runState (consistent_initial c) before
  refine ⟨_, getElem?_run .initial before a after, hcalls, ?_, hrequests, ?_, ?_, ?_, ?_⟩
  · rw [hcalls, hrequests, length_filterMap_request?]
  · exact ⟨_, hchange.requests.symm⟩
  · rw [hlive, live_runState]
  · rintro spec rfl
    rw [hlive, (hchange.consistent hs).live, hchange.held, hs.live]
    rfl
  · rintro slot rfl hslot hkeeps
    have hmem : slot ∈ s.held := held_runState (c := c) .initial before ▸ hslot
    have hpos : 0 < s.held.length := List.length_pos_of_mem hmem
    have herase : t.held = s.held.erase slot := hchange.held
    rw [hlive, (hchange.consistent hs).live, hs.live, if_pos hkeeps, if_pos hkeeps, herase,
      List.length_erase_of_mem hmem]
    omega

end Runs

end AgentLaunch.Session
