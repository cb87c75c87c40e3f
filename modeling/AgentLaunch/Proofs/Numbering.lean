import Mathlib
import AgentLaunch.Proofs.Waiting

/-!
# Process numbers

The spawner gives out numbers in order, one for each request that it accepts. Of all that was done
before it, a launch only sees how many that were, and only in its number; so what looks at a session
or lets go of a handle can be left out without a trace. Until the numbers start again no two
processes share one.
-/

namespace AgentLaunch

namespace Recorder

/-- The number of the next process, if it gets one, or why there is no next process. -/
def nextPid (b : Behavior) (last : UInt32) : Except SpawnError (Option UInt32) :=
  match b with
  | .accept | .block => .ok (some (last + 1))
  | .anonymous => .ok none
  | .refuse e => .error e

variable {b : Behavior} {q : Request} {r : Recorder} {now : Int}

theorem lastPid_spawn :
    (spawn b q r).2.lastPid = if (nextPid b r.lastPid).isOk then r.lastPid + 1 else r.lastPid := by
  cases b <;> rfl

theorem lastPid_attempt : (attempt b now q r).2.lastPid =
    if (nextPid b r.lastPid).isOk then r.lastPid + 1 else r.lastPid := by
  cases b <;> rfl

@[simp] theorem lastPid_release (handle : Handle) : (release handle r).lastPid = r.lastPid := by
  unfold release
  split <;> rfl

theorem nextPid_of_keeps (h : b.keeps) (last : UInt32) :
    nextPid b last = .ok (some (last + 1)) := by
  cases b with
  | accept | block => rfl
  | anonymous | refuse e => cases h

end Recorder

namespace Session

open Recorder (nextPid)

/-- Whether a step may start a process. All others look at something or let go of something. -/
def Step.asks : Step → Bool
  | .launch _ | .spawn _ => true
  | _ => false

/-- The number of the process that a reply reports as started; the process may have none. -/
def Reply.newProcess? : Reply → Option (Option UInt32)
  | .launched receipt => some receipt.pid
  | .spawned _ number => some number
  | _ => none

/-- A reply without the number of a process that was launched. -/
def Reply.unnumbered : Reply → Reply
  | .launched receipt => .launched { receipt with pid := none }
  | reply => reply

/-- The processes that a session starts, by their numbers and in order. -/
def started (c : Setup) (s : State) (steps : List Step) : List (Option UInt32) :=
  (run c s steps).filterMap fun entry => entry.reply.newProcess?

section Steps

variable {c : Setup} {s t : State} {a : Step}

/-- What a launch answers if the number given out last is this one. -/
def launchAnswer (c : Setup) (last : UInt32) (spec : Spec) : Reply :=
  match c.resolve spec.runAsUser with
  | .error e => .launchFailed (.ofLookup e)
  | .ok _ =>
    match nextPid c.behavior last with
    | .ok pid => .launched ⟨.forAgent spec, pid, c.now⟩
    | .error e => .launchFailed (.ofSpawn e)

/-- What asking the spawner for a process answers. -/
def spawnAnswer (c : Setup) (last : UInt32) (slot : Nat) : Reply :=
  match nextPid c.behavior last with
  | .ok pid => .spawned slot pid
  | .error e => .spawnFailed e

theorem value_launch (c : Setup) (s : State) (spec : Spec) :
    (step c s (.launch spec)).value =
      (launchAnswer c s.recorder.lastPid spec, { s with
        recorder := match c.resolve spec.runAsUser with
          | .error _ => s.recorder
          | .ok account =>
            (Recorder.attempt c.behavior c.now ⟨.forAgent spec, account⟩ s.recorder).2 }) := by
  cases h : c.resolve spec.runAsUser with
  | error e =>
    simp only [step, Logged.value_bind, launch_of_unresolved (p := platform c) h, launchAnswer, h]
    rfl
  | ok account =>
    simp only [step, Logged.value_bind, launch_platform h, launchAnswer, h]
    cases c.behavior <;> rfl

theorem value_spawn (c : Setup) (s : State) (q : Request) :
    (step c s (.spawn q)).value =
      (spawnAnswer c s.recorder.lastPid s.slots.length,
        ⟨(Recorder.spawn c.behavior q s.recorder).2,
          s.slots ++ match (Recorder.spawn c.behavior q s.recorder).1 with
            | .ok handle => [some handle]
            | .error _ => []⟩) := by
  simp only [step, Logged.value_bind, platform, Recorder.platform, Logged.value_pure, spawnAnswer]
  cases c.behavior <;> simp [Recorder.spawn, nextPid, Recorder.record, Recorder.advance]

theorem newProcess?_of_not_asks (h : a.asks = false) :
    (step c s a).value.1.newProcess? = none := by
  cases a with
  | launch | spawn => cases h
  | wait slot | id slot | drop slot =>
    simp only [step]
    cases s.handle? slot <;> rfl
  | resolve user =>
    simp only [step]
    cases c.resolve user <;> rfl
  | same i j =>
    simp only [step]
    split <;> rfl
  | requests | now => rfl

/-- Where processes are kept, every request gets the number after the one given out last. -/
theorem newProcess?_eq (hkeeps : c.behavior.keeps) (s : State) (a : Step) :
    (step c s a).value.1.newProcess? =
      (request? c a).map fun _ => some (s.recorder.lastPid + 1) := by
  cases a with
  | launch spec =>
    rw [value_launch]
    dsimp only [launchAnswer, request?]
    cases c.resolve spec.runAsUser with
    | error e => rfl
    | ok account =>
      dsimp only
      rw [Recorder.nextPid_of_keeps hkeeps]
      rfl
  | spawn q =>
    rw [value_spawn, spawnAnswer, Recorder.nextPid_of_keeps hkeeps]
    rfl
  | wait | id | drop | resolve | requests | same | now =>
    rw [newProcess?_of_not_asks rfl]
    rfl

theorem newProcess?_launchAnswer (c : Setup) (last : UInt32) (spec : Spec) :
    (launchAnswer c last spec).newProcess?.isSome =
      ((c.resolve spec.runAsUser).isOk && (nextPid c.behavior last).isOk) := by
  unfold launchAnswer
  cases c.resolve spec.runAsUser with
  | error e => rfl
  | ok account => cases nextPid c.behavior last <;> rfl

theorem newProcess?_spawnAnswer (c : Setup) (last : UInt32) (slot : Nat) :
    (spawnAnswer c last slot).newProcess?.isSome = (nextPid c.behavior last).isOk := by
  unfold spawnAnswer
  cases nextPid c.behavior last <;> rfl

theorem recorder_of_not_asks (h : a.asks = false) :
    (step c s a).value.2.recorder.lastPid = s.recorder.lastPid ∧
      (step c s a).value.2.slots.length = s.slots.length := by
  cases a with
  | launch | spawn => cases h
  | drop slot =>
    simp only [step]
    cases s.handle? slot with
    | none => exact ⟨rfl, rfl⟩
    | some handle => exact ⟨Recorder.lastPid_release handle, List.length_set⟩
  | wait slot | id slot =>
    simp only [step]
    cases s.handle? slot <;> exact ⟨rfl, rfl⟩
  | resolve user =>
    simp only [step]
    cases c.resolve user <;> exact ⟨rfl, rfl⟩
  | same i j =>
    simp only [step]
    split <;> exact ⟨rfl, rfl⟩
  | requests | now => exact ⟨rfl, rfl⟩

/-- Numbers are given out one by one, and only to processes that are started. -/
theorem lastPid_step (c : Setup) (s : State) (a : Step) :
    (step c s a).value.2.recorder.lastPid =
      s.recorder.lastPid + if (step c s a).value.1.newProcess?.isSome then 1 else 0 := by
  cases a with
  | launch spec =>
    rw [value_launch]
    dsimp only
    rw [newProcess?_launchAnswer]
    cases c.resolve spec.runAsUser with
    | error e => exact (UInt32.add_zero _).symm
    | ok account =>
      dsimp only
      rw [Recorder.lastPid_attempt]
      cases nextPid c.behavior s.recorder.lastPid with
      | error e => exact (UInt32.add_zero _).symm
      | ok number => rfl
  | spawn q =>
    rw [value_spawn]
    dsimp only
    rw [newProcess?_spawnAnswer, Recorder.lastPid_spawn]
    cases nextPid c.behavior s.recorder.lastPid with
    | error e => exact (UInt32.add_zero _).symm
    | ok number => rfl
  | wait | id | drop | resolve | requests | same | now =>
    rw [(recorder_of_not_asks rfl).1, newProcess?_of_not_asks rfl]
    exact (UInt32.add_zero _).symm

end Steps

section Filtering

variable {c : Setup} {s t : State} {a : Step}

/-- Two states that the start of a process cannot tell apart. -/
structure State.Alike (s t : State) : Prop where
  last : s.recorder.lastPid = t.recorder.lastPid
  slots : s.slots.length = t.slots.length

theorem alike_of_not_asks (h : a.asks = false) (hst : s.Alike t) :
    (step c s a).value.2.Alike t where
  last := (recorder_of_not_asks h).1.trans hst.last
  slots := (recorder_of_not_asks h).2.trans hst.slots

theorem reply_of_alike (h : a.asks) (hst : s.Alike t) :
    (step c s a).value.1 = (step c t a).value.1 := by
  cases a with
  | launch spec => rw [value_launch, value_launch, hst.last]
  | spawn q => rw [value_spawn, value_spawn, hst.last, hst.slots]
  | wait | id | drop | resolve | requests | same | now => cases h

theorem slots_step_of_asks (h : a.asks) (hst : s.Alike t) :
    (step c s a).value.2.slots.length = (step c t a).value.2.slots.length := by
  cases a with
  | launch spec =>
    rw [value_launch, value_launch]
    exact hst.slots
  | spawn q =>
    rw [value_spawn, value_spawn]
    simp only [List.length_append, hst.slots]
    cases c.behavior <;> rfl
  | wait | id | drop | resolve | requests | same | now => cases h

theorem alike_step (h : a.asks) (hst : s.Alike t) :
    (step c s a).value.2.Alike (step c t a).value.2 where
  last := by rw [lastPid_step, lastPid_step, reply_of_alike h hst, hst.last]
  slots := slots_step_of_asks h hst

theorem history_cons (s : State) (a : Step) (rest : List Step) :
    history c s (a :: rest) =
      (a, (step c s a).value.1) :: history c (step c s a).value.2 rest := rfl

/-- What only looks or lets go can be left out of a session. -/
theorem filter_history (hst : s.Alike t) (steps : List Step) :
    (history c s steps).filter (·.1.asks) = history c t (steps.filter Step.asks) := by
  induction steps generalizing s t with
  | nil => rfl
  | cons a rest ih =>
    cases h : a.asks with
    | true =>
      simp only [history_cons, List.filter_cons, h, if_true]
      rw [reply_of_alike h hst, ih (alike_step h hst)]
    | false =>
      simp only [history_cons, List.filter_cons, h, Bool.false_eq_true, if_false]
      exact ih (alike_of_not_asks h hst)

end Filtering

section Numbers

variable {c : Setup}

theorem started_cons (s : State) (a : Step) (rest : List Step) :
    started c s (a :: rest) =
      (step c s a).value.1.newProcess?.toList ++ started c (step c s a).value.2 rest := by
  change List.filterMap _ ((stepEntry c s a).1 :: run c (stepEntry c s a).2 rest) = _
  rw [List.filterMap_cons]
  cases h : (step c s a).value.1.newProcess? <;> simp [stepEntry, h, started]

theorem lastPid_runState (s : State) (steps : List Step) :
    (runState c s steps).recorder.lastPid =
      s.recorder.lastPid + UInt32.ofNat (started c s steps).length := by
  induction steps generalizing s with
  | nil => exact (UInt32.add_zero _).symm
  | cons a rest ih =>
    change (runState c (step c s a).value.2 rest).recorder.lastPid = _
    rw [ih, lastPid_step, started_cons, List.length_append, UInt32.add_assoc, UInt32.ofNat_add]
    cases (step c s a).value.1.newProcess? <;> rfl

/-- Processes are numbered on from the number given out last. -/
theorem started_eq (hkeeps : c.behavior.keeps) (s : State) (steps : List Step) :
    started c s steps = (List.range (started c s steps).length).map fun k =>
      some (s.recorder.lastPid + UInt32.ofNat (k + 1)) := by
  induction steps generalizing s with
  | nil => rfl
  | cons a rest ih =>
    have hlast := lastPid_step c s a
    have hnumber := newProcess?_eq hkeeps s a
    cases h : request? c a with
    | none =>
      rw [h] at hnumber
      have hsame : (step c s a).value.2.recorder.lastPid = s.recorder.lastPid := by
        rw [hlast, hnumber]
        exact UInt32.add_zero _
      rw [started_cons, hnumber, Option.map_none, Option.toList_none, List.nil_append, ih, hsame]
      simp
    | some q =>
      rw [h] at hnumber
      have hnext : (step c s a).value.2.recorder.lastPid = s.recorder.lastPid + 1 := by
        rw [hlast, hnumber]
        rfl
      rw [started_cons, hnumber, Option.map_some, Option.toList_some, List.singleton_append,
        List.length_cons, List.range_succ_eq_map, List.map_cons, List.map_map]
      congr 1
      rw [ih, List.length_map, List.length_range]
      apply List.map_congr_left
      intro k _
      have hshift : UInt32.ofNat (k + 1 + 1) = 1 + UInt32.ofNat (k + 1) := by
        rw [UInt32.ofNat_add (k + 1), UInt32.add_comm]
        rfl
      rw [hnext, Function.comp_apply, hshift, ← UInt32.add_assoc]

theorem length_started (hkeeps : c.behavior.keeps) (s : State) (steps : List Step) :
    (started c s steps).length = (steps.filterMap (request? c)).length := by
  induction steps generalizing s with
  | nil => rfl
  | cons a rest ih =>
    rw [started_cons, newProcess?_eq hkeeps, filterMap_request?_cons, List.length_append,
      List.length_append, ih]
    cases request? c a <;> rfl

/-- The numbers up to the last one that the spawner can give out without starting again. -/
theorem toNat_add_ofNat {n : Nat} (h : n ≤ 4294966295) :
    (1000 + UInt32.ofNat n).toNat = 1000 + n := by
  rw [UInt32.toNat_add, UInt32.toNat_ofNat']
  change (1000 + n % 2 ^ 32) % 2 ^ 32 = 1000 + n
  omega

theorem started_initial (hkeeps : c.behavior.keeps) {steps : List Step}
    (h : (started c .initial steps).length ≤ 4294966295) :
    (started c .initial steps).map (Option.map UInt32.toNat) =
      (List.range' 1001 (started c .initial steps).length).map some := by
  rw [started_eq hkeeps .initial steps, List.map_map, List.length_map, List.length_range,
    List.range'_eq_map_range, List.map_map]
  apply List.map_congr_left
  intro k hk
  have hk' : k + 1 ≤ 4294966295 := by
    have := List.mem_range.mp hk
    omega
  change some (1000 + UInt32.ofNat (k + 1)).toNat = some (1001 + k)
  rw [toNat_add_ofNat hk']
  congr 1
  omega

end Numbers

section Handles

variable {c : Setup} {s t : State} {a : Step} {reply : Reply} {replies : List Reply}

/-- Every handle in a slot has the number that was told when it was put there. -/
def Announced (s : State) (replies : List Reply) : Prop :=
  ∀ slot handle, s.handle? slot = some handle → .spawned slot handle.pid ∈ replies

theorem Change.announced (h : Change c s a reply t) (hs : Announced s replies) :
    Announced t (replies ++ [reply]) := by
  intro slot handle hslot
  rw [List.mem_append]
  cases h with
  | launched | refused | unchanged => exact .inl (hs slot handle hslot)
  | spawned q new answer =>
    rw [State.handle?_of_append (s := s) rfl] at hslot
    split at hslot
    next hlast =>
      cases hslot
      rw [hlast]
      exact .inr (List.mem_singleton_self _)
    · exact .inl (hs slot handle hslot)
  | dropped slot' old there =>
    rw [State.handle?_of_set (s := s) rfl] at hslot
    split at hslot
    · cases hslot
    · exact .inl (hs slot handle hslot)

theorem announced_runState (hs : Announced s replies) (steps : List Step) :
    Announced (runState c s steps) (replies ++ (run c s steps).map Entry.reply) := by
  induction steps generalizing s replies with
  | nil => simpa [runState, run] using hs
  | cons a rest ih =>
    have hrest := ih ((step_change c s a).announced hs)
    rw [List.append_assoc] at hrest
    exact hrest

theorem reply_id (before : List Step) (slot : Nat) :
    let reply := (stepEntry c (runState c .initial before) (.id slot)).1.reply
    reply = .noHandle ∨
      ∃ pid, reply = .pid pid ∧ .spawned slot pid ∈ (run c .initial before).map Entry.reply := by
  have hnone : Announced .initial [] := by
    intro slot handle h
    cases h
  have hannounced := announced_runState (c := c) hnone before
  simp only [stepEntry, step]
  cases h : (runState c .initial before).handle? slot with
  | none => exact .inl rfl
  | some handle => exact .inr ⟨handle.pid, rfl, hannounced slot handle h⟩

end Handles

section Launches

variable {c : Setup}

/-- What a launch answers after some steps of a session. -/
def launchAfter (c : Setup) (before : List Step) (spec : Spec) : Reply :=
  (stepEntry c (runState c .initial before) (.launch spec)).1.reply

theorem launchAfter_eq (before : List Step) (spec : Spec) :
    launchAfter c before spec =
      launchAnswer c (1000 + UInt32.ofNat (started c .initial before).length) spec := by
  change (step c _ (.launch spec)).value.1 = _
  rw [value_launch, lastPid_runState]
  rfl

theorem unnumbered_launchAnswer (last last' : UInt32) (spec : Spec) :
    (launchAnswer c last spec).unnumbered = (launchAnswer c last' spec).unnumbered := by
  unfold launchAnswer
  cases c.resolve spec.runAsUser with
  | error e => rfl
  | ok account => cases c.behavior <;> rfl

theorem launchAfter_of_keeps (hkeeps : c.behavior.keeps) {spec : Spec} {account : Account}
    (h : c.resolve spec.runAsUser = .ok account) (before : List Step) :
    launchAfter c before spec = .launched
      ⟨.forAgent spec, some ((runState c .initial before).recorder.lastPid + 1), c.now⟩ := by
  change (step c _ (.launch spec)).value.1 = _
  rw [value_launch]
  simp only [launchAnswer, h, Recorder.nextPid_of_keeps hkeeps]

/-- The request of a step stands behind those of the steps before it. -/
theorem getElem?_requests (hkeeps : c.behavior.keeps) {a : Step} {q : Request}
    (h : request? c a = some q) (before after : List Step) :
    (runState c .initial (before ++ a :: after)).recorder.requests[
      (started c .initial before).length]? = some q := by
  rw [length_started hkeeps, requests_runState, List.filterMap_append, filterMap_request?_cons, h]
  simp [State.initial, Recorder.initial]

/-- Every request that is made is accepted. -/
theorem length_requests (hkeeps : c.behavior.keeps) (steps : List Step) :
    (runState c .initial steps).recorder.requests.length =
      (started c .initial steps).length := by
  rw [length_started hkeeps, requests_runState]
  rfl

theorem length_started_lt (hkeeps : c.behavior.keeps) {a : Step} {q : Request}
    (h : request? c a = some q) (before after : List Step) :
    (started c .initial before).length < (started c .initial (before ++ a :: after)).length := by
  rw [length_started hkeeps, length_started hkeeps, List.filterMap_append,
    filterMap_request?_cons, h]
  simp

/-- What is true of the numbers in a session that gives none out twice. -/
structure Numbered (c : Setup) (steps : List Step) : Prop where
  /-- One number for each request, counted on from 1001. -/
  numbers : (started c .initial steps).map (Option.map UInt32.toNat) =
    (List.range' 1001 (runState c .initial steps).recorder.requests.length).map some
  /-- The number of a request is its place. -/
  nth : ∀ before a after q, steps = before ++ a :: after → request? c a = some q →
    ∃ entry number, (run c .initial steps)[before.length]? = some entry ∧
      entry.reply.newProcess? = some (some number) ∧
      number.toNat = 1001 + (started c .initial before).length ∧
      (runState c .initial steps).recorder.requests[(started c .initial before).length]? = some q
  distinct : (started c .initial steps).Nodup
  /-- A handle has the number that was told when it was handed out. -/
  handles : ∀ before slot after, steps = before ++ .id slot :: after →
    ∃ entry, (run c .initial steps)[before.length]? = some entry ∧
      (entry.reply = .noHandle ∨ ∃ number, entry.reply = .pid number ∧
        .spawned slot number ∈ (run c .initial before).map Entry.reply)
  /-- Launching twice makes the same request twice, for two processes. -/
  twice : ∀ before spec between after account,
    let again := before ++ .launch spec :: between
    steps = again ++ .launch spec :: after → c.resolve spec.runAsUser = .ok account →
    ∃ receipt number,
      launchAfter c before spec = .launched receipt ∧
      launchAfter c again spec = .launched { receipt with pid := number } ∧
      receipt.pid ≠ number ∧
      ∀ earlier ∈ [before, again], (runState c .initial steps).recorder.requests[
        (started c .initial earlier).length]? = some ⟨.forAgent spec, account⟩

section Numbered

variable {steps : List Step}

theorem toNat_number (hkeeps : c.behavior.keeps) {a : Step} {q : Request}
    (h : request? c a = some q) {before after : List Step}
    (hbound : (started c .initial (before ++ a :: after)).length ≤ 4294966295) :
    ((runState c .initial before).recorder.lastPid + 1).toNat =
      1001 + (started c .initial before).length := by
  have hlt := length_started_lt hkeeps h before after
  have hlast : (runState c .initial before).recorder.lastPid + 1 =
      1000 + UInt32.ofNat ((started c .initial before).length + 1) := by
    rw [lastPid_runState, UInt32.ofNat_add, ← UInt32.add_assoc]
    rfl
  rw [hlast, toNat_add_ofNat (by omega)]
  omega

theorem numbered (hkeeps : c.behavior.keeps)
    (hbound : (started c .initial steps).length ≤ 4294966295) : Numbered c steps where
  numbers := by
    rw [length_requests hkeeps]
    exact started_initial hkeeps hbound
  nth := by
    rintro before a after q rfl hq
    refine ⟨_, _, getElem?_run .initial before a after, ?_, toNat_number hkeeps hq hbound,
      getElem?_requests hkeeps hq before after⟩
    change (step c _ a).value.1.newProcess? = _
    rw [newProcess?_eq hkeeps, hq]
    rfl
  distinct := by
    apply List.Nodup.of_map (Option.map UInt32.toNat)
    rw [started_initial hkeeps hbound]
    exact List.Nodup.map (Option.some_injective Nat) List.nodup_range'
  handles := by
    rintro before slot after rfl
    exact ⟨_, getElem?_run .initial before _ after, reply_id before slot⟩
  twice := by
    intro before spec between after account again hsteps h
    have hq : request? c (.launch spec) = some ⟨.forAgent spec, account⟩ := by
      rw [request?, h]
    have hlt : (started c .initial before).length < (started c .initial again).length :=
      length_started_lt hkeeps hq before between
    have hsplit : steps = before ++ .launch spec :: (between ++ .launch spec :: after) := by
      rw [hsteps, List.append_assoc]
      rfl
    have hfirst := toNat_number hkeeps hq (hsplit ▸ hbound)
    have hsecond := toNat_number hkeeps hq (hsteps ▸ hbound)
    refine ⟨⟨.forAgent spec, _, c.now⟩, _, launchAfter_of_keeps hkeeps h before,
      launchAfter_of_keeps hkeeps h again, ?_, ?_⟩
    · intro heq
      rw [Option.some.injEq] at heq
      rw [heq] at hfirst
      omega
    · intro earlier hearlier
      rw [List.mem_pair] at hearlier
      obtain rfl | rfl := hearlier
      · rw [hsplit]
        exact getElem?_requests hkeeps hq _ _
      · rw [hsteps]
        exact getElem?_requests hkeeps hq _ _

end Numbered

/-- Of the steps before it a launch only sees how many processes they started, and only in its
number. Steps that look or let go can be left out. Where processes are kept, no two share a number
until the numbers start again. -/
theorem launches_independent (c : Setup) :
    (∀ before spec after,
      ((run c .initial (before ++ .launch spec :: after))[before.length]?).map Entry.reply =
        some (launchAfter c before spec)) ∧
    (∀ before before' spec,
      (launchAfter c before spec).unnumbered = (launchAfter c before' spec).unnumbered ∧
      ((started c .initial before).length = (started c .initial before').length →
        launchAfter c before spec = launchAfter c before' spec)) ∧
    (∀ steps, (history c .initial steps).filter (·.1.asks) =
      history c .initial (steps.filter Step.asks)) ∧
    (c.behavior.keeps → ∀ steps, (started c .initial steps).length ≤ 4294966295 →
      Numbered c steps) := by
  refine ⟨?_, ?_, fun steps => filter_history ⟨rfl, rfl⟩ steps, fun hkeeps steps => numbered hkeeps⟩
  · intro before spec after
    rw [getElem?_run]
    rfl
  · intro before before' spec
    rw [launchAfter_eq, launchAfter_eq]
    refine ⟨unnumbered_launchAnswer _ _ spec, fun hcount => ?_⟩
    rw [hcount]

/-- Two launches of one spec. Between them the requests are looked at, and another launch finds no
account. -/
def rehearsedTwice : List Step :=
  let spec : Spec := ⟨"/opt", "1", "cygnus.conf", "orionagent", "root"⟩
  [.launch spec, .requests, .launch { spec with runAsUser := "nobody" }, .launch spec]

theorem launches_independent_twice :
    Numbered ⟨.accept, AccountTable.superuser.resolve, 0⟩ rehearsedTwice :=
  (launches_independent ⟨.accept, AccountTable.superuser.resolve, 0⟩).2.2.2 rfl rehearsedTwice
    (by decide)

end Launches

end Session

end AgentLaunch
