import AgentLaunch.Proofs.LogFilter
import AgentLaunch.Proofs.Rehearsal
import AgentLaunch.Proofs.Settings.Layers

/-!
# How a run ends

The ways in which a run can end, each with its exit code, what it writes, and what it asks of the
platform. The exit code tells them apart, whatever fails or is broken off writes nothing to the
output, and the spawner is called on one of these ways only.
-/

namespace AgentLaunch.Program

open Arguments (Invocation Stop)
open Settings (HasRoom Reading)

section Failure

variable {f : Failure} {how : Breakage}

theorem outcome_of_breakage (h : f.breakage? = some how) : f.outcome = brokenOff how := by
  rw [Failure.outcome, h]

theorem outcome_of_whole (h : f.breakage? = none) : f.outcome = failed f.report := by
  rw [Failure.outcome, h]

theorem stdout_outcome (f : Failure) : f.outcome.stdout = "" := by
  cases h : f.breakage? with
  | none => rw [outcome_of_whole h, failed]
  | some how => rw [outcome_of_breakage h, brokenOff]

theorem exitCode_outcome_ne_zero (f : Failure) : f.outcome.exitCode ≠ 0 := by
  cases h : f.breakage? with
  | none =>
    rw [outcome_of_whole h]
    exact Nat.one_ne_zero
  | some how =>
    rw [outcome_of_breakage h]
    cases how <;> exact Nat.succ_ne_zero _

end Failure

section Run

variable {σ : Type} {p : Platform σ} {now : Int} {fs : FileSystem} {env : Environment}
  {words : List String} {i : Invocation} {s : σ} {r : Reading}

theorem run_of_stop {stop : Stop} (h : Arguments.parse env words = .error stop) :
    run p now fs env words s r = (stopped env stop, s) := by
  rw [run, h]

theorem run_of_torn (hi : Arguments.parse env words = .ok i)
    (hfilter : LogFilter.ofEnvironment? env = none) :
    run p now fs env words s r = (brokenOff .panicked, s) := by
  simp only [run, hi, hfilter]

/-- With a log filter a run is what its command line asks for, with the log in front of what else is
written to the error stream. -/
theorem run_of_filter {filter : LogFilter} (hi : Arguments.parse env words = .ok i)
    (hfilter : LogFilter.ofEnvironment? env = some filter) :
    run p now fs env words s r =
      ({ (perform p now fs env i s r).value.1 with
          stderr := logged filter (perform p now fs env i s r).events ++
            (perform p now fs env i s r).value.1.stderr },
        (perform p now fs env i s r).value.2) := by
  simp only [run, hi, hfilter]

end Run

/-- The lines of a confirmation. There is one for the process number only if there is a number. -/
def confirmationLines (colour : Bool) (spec : Spec) (receipt : Receipt) : List String :=
  let row (name value : String) : String := "  " ++ Style.paint colour .bold name ++ " " ++ value
  Style.paint colour .boldGreen ("✓ Agent '" ++ spec.agentName ++ "' launched") ::
    (receipt.pid.toList.map fun pid => row "PID:" (toString pid.toNat)) ++
    [row "User:" spec.runAsUser, row "Command:" receipt.command.display]

theorem confirmation_eq (colour : Bool) (spec : Spec) (receipt : Receipt) :
    confirmation colour spec receipt =
      String.join ((confirmationLines colour spec receipt).map (· ++ "\n")) := by
  cases hpid : receipt.pid <;>
    simp [confirmation, confirmationLines, hpid, String.join, String.append_assoc]

section Ends

variable {σ : Type}

/-- How a command line that is understood is carried out to its end, and with which state of the
platform. -/
inductive Ends (p : Platform σ) (now : Int) (fs : FileSystem) (env : Environment) (i : Invocation)
    (s : σ) (r : Reading) : Outcome × σ → Prop where
  | unresolved {f : Failure} (spec : (resolve fs env i r).value = .error f) :
      Ends p now fs env i s r (f.outcome, s)
  | printed {spec : Spec} (spec_eq : (resolve fs env i r).value = .ok spec)
      (verb : i.verb = .print) : Ends p now fs env i s r (print spec i.json, s)
  | launched {spec : Spec} {receipt : Receipt} {t : σ}
      (spec_eq : (resolve fs env i r).value = .ok spec) (verb : i.verb = .start)
      (launch_eq : (launch p now spec s).value = (.ok receipt, t)) :
      Ends p now fs env i s r (⟨0, confirmation (Style.isForced env) spec receipt, []⟩, t)
  | refused {spec : Spec} {failure : LaunchFailure} {t : σ}
      (spec_eq : (resolve fs env i r).value = .ok spec) (verb : i.verb = .start)
      (launch_eq : (launch p now spec s).value = (.error failure, t)) :
      Ends p now fs env i s r (failed (refusal (Style.isForced env) failure), t)

variable {p : Platform σ} {now : Int} {fs : FileSystem} {env : Environment} {i : Invocation} {s : σ}
  {r : Reading}

theorem perform_ends : Ends p now fs env i s r (perform p now fs env i s r).value := by
  cases hspec : (resolve fs env i r).value with
  | error f =>
    rw [perform_of_failure p now s hspec]
    exact .unresolved hspec
  | ok spec =>
    cases hverb : i.verb with
    | print =>
      rw [perform_print p now s hspec hverb]
      exact .printed hspec hverb
    | start =>
      rw [perform_start p now s hspec hverb]
      cases hlaunch : (launch p now spec s).value with
      | mk result t =>
        cases result with
        | error failure => exact .refused hspec hverb hlaunch
        | ok receipt => exact .launched hspec hverb hlaunch

/-- There is no spec, or it was to be launched and was not. -/
def Fails (p : Platform σ) (now : Int) (fs : FileSystem) (env : Environment) (i : Invocation)
    (s : σ) (r : Reading) : Prop :=
  (∃ f, (resolve fs env i r).value = .error f) ∨
    ∃ spec failure, i.verb = .start ∧ (resolve fs env i r).value = .ok spec ∧
      (launch p now spec s).value.1 = .error failure

section Inversion

variable {out : Outcome × σ}

theorem Ends.failed_iff (h : Ends p now fs env i s r out) (hwhole : Unbroken fs env i r) :
    out.1.exitCode = 1 ↔ Fails p now fs env i s r := by
  cases h with
  | unresolved hspec =>
    rw [outcome_of_whole (hwhole _ hspec)]
    exact iff_of_true rfl (.inl ⟨_, hspec⟩)
  | refused hspec hverb hlaunch =>
    exact iff_of_true rfl (.inr ⟨_, _, hverb, hspec, by rw [hlaunch]⟩)
  | printed hspec hverb =>
    refine iff_of_false Nat.zero_ne_one ?_
    rintro (⟨f, hf⟩ | ⟨_, _, hstart, -⟩)
    · cases hspec.symm.trans hf
    · cases hverb.symm.trans hstart
  | launched hspec hverb hlaunch =>
    refine iff_of_false Nat.zero_ne_one ?_
    rintro (⟨f, hf⟩ | ⟨spec, failure, -, hspec', hfailure⟩)
    · cases hspec.symm.trans hf
    · cases hspec.symm.trans hspec'
      rw [hlaunch] at hfailure
      cases hfailure

theorem Ends.done_iff (h : Ends p now fs env i s r out) (hwhole : Unbroken fs env i r) :
    out.1.exitCode = 0 ↔ ¬ Fails p now fs env i s r := by
  rw [← h.failed_iff hwhole]
  cases h with
  | unresolved hspec =>
    rw [outcome_of_whole (hwhole _ hspec)]
    exact iff_of_false Nat.one_ne_zero (not_not_intro rfl)
  | refused => exact iff_of_false Nat.one_ne_zero (not_not_intro rfl)
  | printed | launched => exact iff_of_true rfl Nat.zero_ne_one

/-- A run that is broken off has an exit code of its own and does nothing with the platform. -/
theorem Ends.broken_of (h : Ends p now fs env i s r out) {f : Failure} {how : Breakage}
    (hspec : (resolve fs env i r).value = .error f) (hbroken : f.breakage? = some how) :
    out.1.exitCode = how.exitCode ∧ out.2 = s := by
  cases h with
  | unresolved hspec' =>
    cases hspec.symm.trans hspec'
    rw [outcome_of_breakage hbroken]
    exact ⟨rfl, rfl⟩
  | printed hspec' => cases hspec.symm.trans hspec'
  | launched hspec' => cases hspec.symm.trans hspec'
  | refused hspec' => cases hspec.symm.trans hspec'

theorem Ends.quiet (h : Ends p now fs env i s r out) (hcode : out.1.exitCode ≠ 0) :
    out.1.stdout = "" := by
  cases h with
  | unresolved => exact stdout_outcome _
  | refused => rfl
  | printed | launched => exact absurd rfl hcode

theorem Ends.printed_of (h : Ends p now fs env i s r out) (hverb : i.verb = .print)
    (hcode : out.1.exitCode = 0) : ∃ spec, (resolve fs env i r).value = .ok spec ∧
      out.1.stdout = (Command.forAgent spec).render i.json ++ "\n" := by
  cases h with
  | unresolved => exact absurd hcode (exitCode_outcome_ne_zero _)
  | refused => cases hcode
  | printed hspec => exact ⟨_, hspec, rfl⟩
  | launched _ hstart => cases hverb.symm.trans hstart

theorem Ends.launched_of (h : Ends p now fs env i s r out) (hverb : i.verb = .start)
    (hcode : out.1.exitCode = 0) : ∃ spec receipt, (resolve fs env i r).value = .ok spec ∧
      (launch p now spec s).value = (.ok receipt, out.2) ∧
      out.1.stdout = String.join
        ((confirmationLines (Style.isForced env) spec receipt).map (· ++ "\n")) := by
  cases h with
  | unresolved => exact absurd hcode (exitCode_outcome_ne_zero _)
  | refused => cases hcode
  | printed _ hprint => cases hverb.symm.trans hprint
  | launched hspec _ hlaunch => exact ⟨_, _, hspec, hlaunch, confirmation_eq _ _ _⟩

end Inversion

/-- The requests that carrying out a command line hands to the spawner. -/
def requests (p : Platform σ) (fs : FileSystem) (env : Environment) (i : Invocation) (r : Reading) :
    List Request :=
  match i.verb, (resolve fs env i r).value with
  | .start, .ok spec => handed p spec
  | _, _ => []

/-- Being watched changes nothing, and what is noted are the requests. -/
theorem perform_watched_requests (p : Platform σ) (now : Int) (fs : FileSystem) (env : Environment)
    (i : Invocation) (s : σ) (r : Reading) :
    perform p.watched now fs env i (s, []) r =
      ⟨((perform p now fs env i s r).value.1, (perform p now fs env i s r).value.2,
        requests p fs env i r), (perform p now fs env i s r).events⟩ := by
  cases hspec : (resolve fs env i r).value with
  | error f =>
    rw [perform_of_failure p now s hspec, perform_of_failure p.watched now (s, []) hspec, requests,
      hspec]
    cases i.verb <;> rfl
  | ok spec =>
    cases hverb : i.verb with
    | print =>
      rw [perform_print p now s hspec hverb, perform_print p.watched now (s, []) hspec hverb,
        requests, hverb]
    | start =>
      rw [perform_watched p now s hspec hverb, requests, hspec, hverb]

theorem eq_of_mem_handed {spec : Spec} {request : Request} (h : request ∈ handed p spec) :
    ∃ account, (p.resolve spec.runAsUser).value = .ok account ∧
      request = ⟨Command.forAgent spec, account⟩ := by
  unfold handed at h
  split at h
  · cases h
  next account haccount => exact ⟨account, haccount, List.mem_singleton.mp h⟩

/-- The spawner is called at most once: to launch the agent of a spec under an account that is
known. -/
theorem requests_due : (requests p fs env i r).length ≤ 1 ∧ ∀ request ∈ requests p fs env i r,
    i.verb = .start ∧ ∃ spec account, (resolve fs env i r).value = .ok spec ∧
      (p.resolve spec.runAsUser).value = .ok account ∧
      request = ⟨Command.forAgent spec, account⟩ := by
  unfold requests
  split
  next spec hverb hspec =>
    constructor
    · unfold handed
      split <;> simp
    · intro request hrequest
      obtain ⟨account, haccount, hrequest⟩ := eq_of_mem_handed hrequest
      exact ⟨hverb, spec, account, hspec, haccount, hrequest⟩
  · exact ⟨Nat.zero_le 1, nofun⟩

/-- What the exit code and the output of a run tell, and what was asked of the spawner, if the run
ends with this outcome and this state of the platform. -/
structure Discipline (p : Platform σ) (now : Int) (fs : FileSystem) (env : Environment)
    (words : List String) (s : σ) (r : Reading) (out : Outcome) (t : σ) : Prop where
  usage : ∀ e, Arguments.parse env words = .error (.usage e) → out.exitCode = 2
  help : ∀ topic, Arguments.parse env words = .error (.help topic) → out.exitCode = 0
  version : Arguments.parse env words = .error .version → out.exitCode = 0
  /-- A run that a torn log filter breaks off does nothing. Only white space in front of a directive
  tears a filter. -/
  torn : ∀ i, Arguments.parse env words = .ok i → LogFilter.ofEnvironment? env = none →
    out.exitCode = 101 ∧ t = s ∧ ∃ text part, env.get? "RUST_LOG" = some text ∧
      part ∈ text.splitOn "," ∧ ¬ Text.trim part.toList <+: part.toList
  /-- Nor does a run that is broken off while settings are merged. -/
  broken : ∀ i f how, Arguments.parse env words = .ok i → LogFilter.ofEnvironment? env ≠ none →
    (resolve fs env i r).value = .error f → f.breakage? = some how →
    out.exitCode = how.exitCode ∧ t = s
  /-- Only a variable that is no text breaks a run off there, or a key that leads to an item which
  is counted from the end or for which there is no room. -/
  unbroken : ∀ i, Arguments.parse env words = .ok i → r.legible = true →
    HasRoom r.room fs (Settings.selectFile env i.config) env.bindings → Unbroken fs env i r
  failed_iff : ∀ i, Arguments.parse env words = .ok i → LogFilter.ofEnvironment? env ≠ none →
    Unbroken fs env i r → (out.exitCode = 1 ↔ Fails p now fs env i s r)
  done_iff : ∀ i, Arguments.parse env words = .ok i → LogFilter.ofEnvironment? env ≠ none →
    Unbroken fs env i r → (out.exitCode = 0 ↔ ¬ Fails p now fs env i s r)
  quiet : out.exitCode ≠ 0 → out.stdout = ""
  printed : ∀ i, Arguments.parse env words = .ok i → i.verb = .print → out.exitCode = 0 →
    ∃ spec, (resolve fs env i r).value = .ok spec ∧
      out.stdout = (Command.forAgent spec).render i.json ++ "\n"
  launched : ∀ i, Arguments.parse env words = .ok i → i.verb = .start → out.exitCode = 0 →
    ∃ spec receipt, (resolve fs env i r).value = .ok spec ∧
      (launch p now spec s).value = (.ok receipt, t) ∧
      out.stdout = String.join
        ((confirmationLines (Style.isForced env) spec receipt).map (· ++ "\n"))
  spawner : ∃ noted, run p.watched now fs env words (s, []) r = (out, t, noted) ∧
    noted.length ≤ 1 ∧ ∀ request ∈ noted, ∃ i spec account, Arguments.parse env words = .ok i ∧
      i.verb = .start ∧ (resolve fs env i r).value = .ok spec ∧
      (p.resolve spec.runAsUser).value = .ok account ∧
      request = ⟨Command.forAgent spec, account⟩

theorem discipline_of_stop {words : List String} {stop : Stop}
    (h : Arguments.parse env words = .error stop) :
    Discipline p now fs env words s r (stopped env stop) s where
  usage e he := by
    cases h.symm.trans he
    rfl
  help topic htopic := by
    cases h.symm.trans htopic
    rfl
  version hversion := by
    cases h.symm.trans hversion
    rfl
  torn i hi := by
    cases h.symm.trans hi
  broken i f how hi := by
    cases h.symm.trans hi
  unbroken i hi := by
    cases h.symm.trans hi
  failed_iff i hi := by
    cases h.symm.trans hi
  done_iff i hi := by
    cases h.symm.trans hi
  quiet hcode := by
    cases stop with
    | usage e => rfl
    | help topic => exact absurd rfl hcode
    | version => exact absurd rfl hcode
  printed i hi := by
    cases h.symm.trans hi
  launched i hi := by
    cases h.symm.trans hi
  spawner := ⟨[], run_of_stop h, Nat.zero_le 1, nofun⟩

theorem discipline_of_torn {words : List String} (hi : Arguments.parse env words = .ok i)
    (hfilter : LogFilter.ofEnvironment? env = none) :
    Discipline p now fs env words s r (brokenOff .panicked) s where
  usage e he := by
    cases hi.symm.trans he
  help topic htopic := by
    cases hi.symm.trans htopic
  version hversion := by
    cases hi.symm.trans hversion
  torn _ _ _ := ⟨rfl, rfl, LogFilter.exists_of_ofEnvironment?_none hfilter⟩
  broken _ _ _ _ hsome := absurd hfilter hsome
  unbroken _ _ hlegible hroom := unbroken_of_room hroom hlegible
  failed_iff _ _ hsome := absurd hfilter hsome
  done_iff _ _ hsome := absurd hfilter hsome
  quiet _ := rfl
  printed _ _ _ hcode := by
    cases hcode
  launched _ _ _ hcode := by
    cases hcode
  spawner := ⟨[], run_of_torn hi hfilter, Nat.zero_le 1, nofun⟩

theorem discipline_of_filter {words : List String} {filter : LogFilter}
    (hi : Arguments.parse env words = .ok i)
    (hfilter : LogFilter.ofEnvironment? env = some filter) :
    Discipline p now fs env words s r (run p now fs env words s r).1
      (run p now fs env words s r).2 := by
  have hends : Ends p now fs env i s r (perform p now fs env i s r).value := perform_ends
  have hrun : run p now fs env words s r = _ := run_of_filter hi hfilter
  have hcode : (run p now fs env words s r).1.exitCode =
      (perform p now fs env i s r).value.1.exitCode := by
    rw [hrun]
  have hstdout : (run p now fs env words s r).1.stdout =
      (perform p now fs env i s r).value.1.stdout := by
    rw [hrun]
  have hstate : (run p now fs env words s r).2 = (perform p now fs env i s r).value.2 := by
    rw [hrun]
  have hwatched : run p.watched now fs env words (s, []) r =
      ((run p now fs env words s r).1, (run p now fs env words s r).2, requests p fs env i r) := by
    rw [run_of_filter hi hfilter, hrun, perform_watched_requests]
  have hsame : ∀ {j : Invocation}, Arguments.parse env words = .ok j → j = i :=
    fun hj => Except.ok.inj (hj.symm.trans hi)
  constructor
  case usage =>
    intro e he
    cases hi.symm.trans he
  case help =>
    intro topic htopic
    cases hi.symm.trans htopic
  case version =>
    intro hversion
    cases hi.symm.trans hversion
  case torn =>
    intro j _ hnone
    cases hfilter.symm.trans hnone
  case broken =>
    intro j f how hj _ hspec hbroken
    cases hsame hj
    rw [hcode, hstate]
    exact hends.broken_of hspec hbroken
  case unbroken =>
    intro j _ hlegible hroom
    exact unbroken_of_room hroom hlegible
  case failed_iff =>
    intro j hj _ hwhole
    cases hsame hj
    rw [hcode, hends.failed_iff hwhole]
  case done_iff =>
    intro j hj _ hwhole
    cases hsame hj
    rw [hcode, hends.done_iff hwhole]
  case quiet =>
    intro hnonzero
    rw [hcode] at hnonzero
    rw [hstdout, hends.quiet hnonzero]
  case printed =>
    intro j hj hverb hzero
    cases hsame hj
    rw [hcode] at hzero
    rw [hstdout]
    exact hends.printed_of hverb hzero
  case launched =>
    intro j hj hverb hzero
    cases hsame hj
    rw [hcode] at hzero
    rw [hstdout, hstate]
    exact hends.launched_of hverb hzero
  case spawner =>
    obtain ⟨honce, hdue⟩ := requests_due (p := p) (i := i)
    refine ⟨requests p fs env i r, hwatched, honce, fun request hrequest => ?_⟩
    obtain ⟨hverb, spec, account, hspec, haccount, heq⟩ := hdue request hrequest
    exact ⟨i, spec, account, hi, hverb, hspec, haccount, heq⟩

/-- Whatever the command line, the environment and the files are, the exit code tells how the run
went, the output is empty unless it went well, and only a launch calls the spawner. -/
theorem exit_status_and_output (p : Platform σ) (now : Int) (fs : FileSystem) (env : Environment)
    (words : List String) (s : σ) (r : Reading) :
    Discipline p now fs env words s r (run p now fs env words s r).1
      (run p now fs env words s r).2 := by
  cases hparse : Arguments.parse env words with
  | error stop =>
    rw [run_of_stop hparse]
    exact discipline_of_stop hparse
  | ok i =>
    cases hfilter : LogFilter.ofEnvironment? env with
    | none =>
      rw [run_of_torn hparse hfilter]
      exact discipline_of_torn hparse hfilter
    | some filter => exact discipline_of_filter hparse hfilter

end Ends

theorem bareFiles_reads_nothing (path : String) :
    ¬ ∃ found text, Settings.Reads bareFiles path found text := by
  rintro ⟨found, text, ⟨hthere, -⟩ | ⟨-, -, hthere⟩⟩ <;> cases hthere

theorem entries_bareFiles {file : Option Settings.File} {entries : List (String × Tree)}
    (h : Settings.fileEntries bareFiles file = .ok entries) : entries = [] := by
  cases file with
  | none =>
    cases h
    rfl
  | some file =>
    obtain ⟨e, he, -⟩ := Settings.exists_findText_error (bareFiles_reads_nothing file.path)
    rw [Settings.fileEntries, Settings.File.entries, he] at h
    dsimp only at h
    split at h <;> cases h
    rfl

/-- An environment whose log filter has a blank in front, which moves a cut into a character. -/
def tornEnvironment : Environment where
  bindings := [("PATH", "/usr/bin:/bin"), ("HOME", "/home/tester"), ("RUST_LOG", " é=info")]
  accountHome := none

theorem tornEnvironment_torn : LogFilter.ofEnvironment? tornEnvironment = none := by
  have hfilter : tornEnvironment.get? "RUST_LOG" = some " é=info" := rfl
  have htorn : LogFilter.Directive.parse " é=info".toList = .error .torn := by decide +kernel
  refine LogFilter.ofEnvironment?_of_torn hfilter ?_
  rw [LogFilter.parse_of_single (by decide) (by decide), htorn]
  rfl

/-- With a torn log filter a command line that has a spec to print prints nothing. -/
theorem torn_filter_hides_spec : ∃ i spec,
    Arguments.parse tornEnvironment ["print", "--install-root", "/opt", "--version", "1"] =
      .ok i ∧ i.verb = .print ∧ (resolve bareFiles tornEnvironment i).value = .ok spec ∧
    ∀ {σ : Type} (p : Platform σ) (now : Int) (s : σ) (r : Reading),
      (run p now bareFiles tornEnvironment ["print", "--install-root", "/opt", "--version", "1"]
        s r).1 = ⟨101, "", []⟩ := by
  have hi : Arguments.parse tornEnvironment
      ["print", "--install-root", "/opt", "--version", "1"] =
        .ok ⟨.print, false, none, ⟨some "/opt", some "1", none, none, none⟩⟩ := rfl
  have hpath : Settings.selectFile tornEnvironment none =
      some ⟨"/home/tester/.config/flume-launcher/launcher.toml", false⟩ := by decide +kernel
  have hbuild : Settings.build bareFiles (Settings.selectFile tornEnvironment none)
      tornEnvironment.bindings = .ok .empty := by
    rw [hpath, Settings.build_optional_of_not_reads (bareFiles_reads_nothing _)]
    rfl
  refine ⟨_, ⟨"/opt", "1", "cygnus.conf", "orionagent", "root"⟩, hi, rfl, ?_, fun p now s r => ?_⟩
  · rw [resolve_of_build hbuild]
    cbv
  · rw [run_of_torn hi tornEnvironment_torn]
    rfl

end AgentLaunch.Program
