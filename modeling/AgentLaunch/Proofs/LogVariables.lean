import AgentLaunch.Proofs.Outcome
import AgentLaunch.Proofs.Settings.Indifference

/-!
# The variables of the log

Two variables say what is logged and how. A run that is not broken off does the same without them:
they are no settings, and nothing else reads them. So they can only change what a run comes to by
breaking it off, as a log filter does that is torn.
-/

namespace AgentLaunch

/-- The variables that say what is logged and how. -/
def logVariables : List String := ["RUST_LOG", "FLUME_LAUNCHER_LOG_FORMAT"]

namespace Environment

variable {env : Environment}

/-- The environment without what it says of the log. -/
def withoutLog (env : Environment) : Environment :=
  { env with bindings := env.bindings.filter fun v => v.1 ∉ logVariables }

theorem get?_withoutLog {name : String} (h : name ∉ logVariables) :
    env.withoutLog.get? name = env.get? name := by
  rw [get?, get?, withoutLog, List.find?_filter]
  congr 2
  funext v
  by_cases hv : v.1 = name <;> simp [hv, h]

theorem home?_withoutLog : env.withoutLog.home? = env.home? := by
  rw [home?, home?, get?_withoutLog (by decide)]
  rfl

theorem configDirectory?_withoutLog :
    env.withoutLog.configDirectory? = env.configDirectory? := by
  rw [configDirectory?, configDirectory?, home?_withoutLog, get?_withoutLog (by decide)]

end Environment

namespace Settings

section LogVariables

variable {fs : FileSystem} {file : Option File} {env : Environment} {room : Nat}

theorem lower_rustLog : (KeyPath.lower "RUST_LOG").toList = "rust_log".toList := by
  decide

theorem lower_logFormat :
    KeyPath.lower "FLUME_LAUNCHER_LOG_FORMAT" = variablePrefix ++ "log_format" := by
  decide +kernel

/-- None of the variables of the log is a setting. -/
theorem isForeignVariable_of_mem_logVariables {name : String} (h : name ∈ logVariables) :
    IsForeignVariable name := by
  simp only [logVariables, List.mem_cons, List.not_mem_nil, or_false] at h
  obtain rfl | rfl := h
  · intro key hname
    have hchars := congrArg String.toList hname
    rw [lower_rustLog, String.toList_append] at hchars
    cases hchars
  · exact isForeignVariable_of_lower lower_logFormat (by decide +kernel)

theorem ownVariables_withoutLog :
    ownVariables env.withoutLog.bindings = ownVariables env.bindings := by
  rw [ownVariables, ownVariables, Environment.withoutLog, List.filter_filter]
  apply List.filter_congr
  intro v _
  by_cases hlog : v.1 ∈ logVariables
  · simp [hlog, isForeignVariable_of_mem_logVariables hlog]
  · simp [hlog]

theorem selectFile_withoutLog (explicit : Option String) :
    selectFile env.withoutLog explicit = selectFile env explicit := by
  simp only [selectFile, defaultPath?, Environment.configDirectory?_withoutLog]

theorem isCounted_of_mem_logVariables {name value : String} {e : String × Tree}
    (h : name ∈ logVariables) (he : entryOfVariable? name value = some e) :
    (KeyPath.ofKey e.1).IsCounted room := by
  have hname := (entryOfVariable?_eq_some_iff.mp he).1
  simp only [logVariables, List.mem_cons, List.not_mem_nil, or_false] at h
  obtain rfl | rfl := h
  · have hchars := congrArg String.toList hname
    rw [lower_rustLog, String.toList_append] at hchars
    cases hchars
  · rw [lower_logFormat] at hname
    rw [← (String.append_right_inj _).mp hname,
      show KeyPath.ofKey "log_format" = ⟨"log_format", []⟩ by decide +kernel]
    exact nofun

/-- There is always room for the variables of the log. -/
theorem hasForeignRoom_withoutLog : HasForeignRoom room fs file env.withoutLog.bindings ↔
    HasForeignRoom room fs file env.bindings := by
  constructor
  · refine fun h => ⟨h.file, fun e he hkey => ?_⟩
    obtain ⟨v, hv, hentry⟩ := List.mem_filterMap.mp he
    by_cases hlog : v.1 ∈ logVariables
    · exact isCounted_of_mem_logVariables hlog hentry
    · have hkept : v ∈ env.withoutLog.bindings := List.mem_filter.mpr ⟨hv, by simpa using hlog⟩
      exact h.environment e (List.mem_filterMap.mpr ⟨v, hkept, hentry⟩) hkey
  · refine fun h => ⟨h.file, fun e he hkey => ?_⟩
    obtain ⟨v, hv, hentry⟩ := List.mem_filterMap.mp he
    exact h.environment e
      (List.mem_filterMap.mpr ⟨v, (List.mem_filter.mp hv).1, hentry⟩) hkey

end LogVariables

end Settings

namespace Style

variable {env : Environment}

theorem isForced_withoutLog : isForced env.withoutLog = isForced env := by
  rw [isForced, isForced, Environment.get?_withoutLog (by decide)]

theorem isForcedForUsage_eq (env : Environment) : isForcedForUsage env =
    ((match env.get? "CLICOLOR_FORCE" with
      | some v => decide (v ≠ "")
      | none => false) &&
    !match env.get? "NO_COLOR" with
      | some v => decide (v ≠ "")
      | none => false) := rfl

theorem isForcedForUsage_withoutLog : isForcedForUsage env.withoutLog = isForcedForUsage env := by
  rw [isForcedForUsage_eq, isForcedForUsage_eq, Environment.get?_withoutLog (by decide),
    Environment.get?_withoutLog (by decide)]

end Style

namespace Program

open Settings (HasForeignRoom IsSettled Reading)

section Parts

variable {fs : FileSystem} {env env' : Environment} {i : Arguments.Invocation}
  {words : List String} {r r' : Reading}

theorem parse_withoutLog : Arguments.parse env.withoutLog words = Arguments.parse env words := by
  rw [Arguments.parse, Arguments.parse, Environment.get?_withoutLog (by decide)]

theorem stopped_withoutLog (stop : Arguments.Stop) :
    stopped env.withoutLog stop = stopped env stop := by
  have htext : helpText env.withoutLog = helpText env := by
    funext topic
    rw [helpText, helpText, Environment.get?_withoutLog (by decide)]
  unfold stopped
  rw [htext, Style.isForcedForUsage_withoutLog]

theorem home?_congr (h : env.withoutLog = env'.withoutLog) : env.home? = env'.home? := by
  rw [← Environment.home?_withoutLog, h, Environment.home?_withoutLog]

theorem selectFile_congr (h : env.withoutLog = env'.withoutLog) (explicit : Option String) :
    Settings.selectFile env explicit = Settings.selectFile env' explicit := by
  rw [← Settings.selectFile_withoutLog, h, Settings.selectFile_withoutLog]

theorem ownVariables_congr (h : env.withoutLog = env'.withoutLog) :
    Settings.ownVariables env.bindings = Settings.ownVariables env'.bindings := by
  rw [← Settings.ownVariables_withoutLog, h, Settings.ownVariables_withoutLog]

theorem resolve_congr_of_build (h : env.withoutLog = env'.withoutLog)
    (hbuild : Settings.build fs (Settings.selectFile env i.config) env.bindings r =
      Settings.build fs (Settings.selectFile env i.config) env'.bindings r') :
    resolve fs env i r = resolve fs env' i r' := by
  rw [resolve, resolve, Settings.load, Settings.load, Settings.buildLogged, Settings.buildLogged,
    ← selectFile_congr h, ← home?_congr h, hbuild]

/-- Runs that are not broken off find the same spec, if they meet the settings in the same order or
the order does not count. -/
theorem resolve_congr_log (h : env.withoutLog = env'.withoutLog)
    (hr : r = r' ∨ IsSettled fs (Settings.selectFile env i.config) env.bindings)
    (hwhole : Unbroken fs env i r) (hwhole' : Unbroken fs env' i r') :
    resolve fs env i r = resolve fs env' i r' := by
  rw [unbroken_iff] at hwhole hwhole'
  rw [← selectFile_congr h] at hwhole'
  exact resolve_congr_of_build h <| Settings.build_congr_foreign (.same rfl) (ownVariables_congr h)
    hr hwhole hwhole'

/-- If there is room for what foreign keys lead to, runs find the same spec or fail the same way. -/
theorem resolve_congr_log_of_room (h : env.withoutLog = env'.withoutLog)
    (hroom : HasForeignRoom r.room fs (Settings.selectFile env i.config) env.bindings) :
    resolve fs env i r = resolve fs env' i r := by
  have hroom' : HasForeignRoom r.room fs (Settings.selectFile env i.config) env'.bindings := by
    rwa [← Settings.hasForeignRoom_withoutLog, ← h, Settings.hasForeignRoom_withoutLog]
  exact resolve_congr_of_build h <| Settings.build_congr_foreign_of_room (.same rfl)
    (ownVariables_congr h) hroom hroom'

theorem perform_congr_log {σ : Type} (p : Platform σ) (now : Int) (s : σ)
    (h : env.withoutLog = env'.withoutLog) (hresolve : resolve fs env i r = resolve fs env' i r') :
    perform p now fs env i s r = perform p now fs env' i s r' := by
  have hforced : Style.isForced env = Style.isForced env' := by
    rw [← Style.isForced_withoutLog, h, Style.isForced_withoutLog]
  rw [perform, perform, hresolve, hforced]

end Parts

/-- What a run comes to, its reports and its log apart. -/
structure Result (σ : Type) where
  exitCode : Nat
  stdout : String
  /-- The state of the platform after the run. -/
  state : σ
  /-- What the spawner was asked for. -/
  requests : List Request

section Result

variable {σ : Type} {fs : FileSystem} {env env' : Environment} {words : List String}
  {i : Arguments.Invocation} {r r' : Reading} {how : Breakage}

/-- What a run comes to. The requests are those that a platform notes when it is watched. -/
def result (p : Platform σ) (now : Int) (fs : FileSystem) (env : Environment)
    (words : List String) (s : σ) (r : Reading) : Result σ :=
  let out := run p now fs env words s r
  ⟨out.1.exitCode, out.1.stdout, out.2, (run p.watched now fs env words (s, []) r).2.2⟩

/-- How a run that is to be carried out is broken off, if it is: by its log filter, or while it
looks for its spec. -/
def breakage? (fs : FileSystem) (env : Environment) (words : List String) (r : Reading) :
    Option Breakage :=
  match Arguments.parse env words, LogFilter.ofEnvironment? env with
  | .error _, _ => none
  | .ok _, none => some .panicked
  | .ok i, some _ =>
    match (resolve fs env i r).value with
    | .error f => f.breakage?
    | .ok _ => none

theorem breakage?_of_torn (hi : Arguments.parse env words = .ok i)
    (hfilter : LogFilter.ofEnvironment? env = none) :
    breakage? fs env words r = some .panicked := by
  simp only [breakage?, hi, hfilter]

/-- A run that is not broken off has a log filter and finds a spec, or finds that there is none. -/
theorem breakage?_eq_none_iff (hi : Arguments.parse env words = .ok i) :
    breakage? fs env words r = none ↔
      (∃ filter, LogFilter.ofEnvironment? env = some filter) ∧ Unbroken fs env i r := by
  cases hfilter : LogFilter.ofEnvironment? env with
  | none => simp [breakage?_of_torn hi hfilter]
  | some filter =>
    simp only [breakage?, hi, hfilter, Unbroken]
    cases (resolve fs env i r).value with
    | ok spec => simp
    | error f => simp

variable (p : Platform σ) (now : Int) (s : σ)

theorem result_of_stop {stop : Arguments.Stop} (h : Arguments.parse env words = .error stop) :
    result p now fs env words s r =
      ⟨(stopped env stop).exitCode, (stopped env stop).stdout, s, []⟩ := by
  rw [result, run_of_stop h, run_of_stop h]

theorem result_of_filter {filter : LogFilter} (hi : Arguments.parse env words = .ok i)
    (hfilter : LogFilter.ofEnvironment? env = some filter) :
    result p now fs env words s r =
      ⟨(perform p now fs env i s r).value.1.exitCode, (perform p now fs env i s r).value.1.stdout,
        (perform p now fs env i s r).value.2, requests p fs env i r⟩ := by
  rw [result, run_of_filter hi hfilter, run_of_filter hi hfilter, perform_watched_requests]

theorem result_of_breakage (h : breakage? fs env words r = some how) :
    result p now fs env words s r = ⟨how.exitCode, "", s, []⟩ := by
  cases hi : Arguments.parse env words with
  | error stop => simp [breakage?, hi] at h
  | ok i =>
    cases hfilter : LogFilter.ofEnvironment? env with
    | none =>
      cases (breakage?_of_torn hi hfilter).symm.trans h
      rw [result, run_of_torn hi hfilter, run_of_torn hi hfilter]
      rfl
    | some filter =>
      simp only [breakage?, hi, hfilter] at h
      split at h
      next f hspec =>
        rw [result_of_filter p now s hi hfilter, perform_of_failure p now s hspec,
          outcome_of_breakage h, requests, hspec]
        cases i.verb <;> rfl
      · cases h

/-- No run that is carried out to its end has the exit code of one that is broken off. -/
theorem exitCode_of_not_broken (h : breakage? fs env words r = none) (how : Breakage) :
    (result p now fs env words s r).exitCode ≠ how.exitCode := by
  cases hi : Arguments.parse env words with
  | error stop =>
    rw [result_of_stop p now s hi]
    cases stop <;> cases how <;> exact nofun
  | ok i =>
    obtain ⟨⟨filter, hfilter⟩, hwhole⟩ := (breakage?_eq_none_iff hi).mp h
    rw [result_of_filter p now s hi hfilter]
    have hends : Ends p now fs env i s r (perform p now fs env i s r).value := perform_ends
    generalize (perform p now fs env i s r).value = out at hends ⊢
    cases hends with
    | unresolved hspec =>
      rw [outcome_of_whole (hwhole _ hspec)]
      cases how <;> exact nofun
    | printed | launched | refused => cases how <;> exact nofun

theorem exitCode_injective {how how' : Breakage} (h : how.exitCode = how'.exitCode) :
    how = how' := by
  cases how <;> cases how' <;> first | rfl | cases h

/-- Runs that are not broken off come to the same. -/
theorem result_congr_log (h : env.withoutLog = env'.withoutLog)
    (hr : r = r' ∨ ∀ i, Arguments.parse env words = .ok i →
      IsSettled fs (Settings.selectFile env i.config) env.bindings)
    (hwhole : breakage? fs env words r = none) (hwhole' : breakage? fs env' words r' = none) :
    result p now fs env words s r = result p now fs env' words s r' := by
  have hparse : Arguments.parse env words = Arguments.parse env' words := by
    rw [← parse_withoutLog, h, parse_withoutLog]
  cases hi : Arguments.parse env words with
  | error stop =>
    rw [result_of_stop p now s hi, result_of_stop p now s (hparse ▸ hi), ← stopped_withoutLog, h,
      stopped_withoutLog]
  | ok i =>
    have hi' : Arguments.parse env' words = .ok i := hparse ▸ hi
    obtain ⟨⟨filter, hfilter⟩, hunbroken⟩ := (breakage?_eq_none_iff hi).mp hwhole
    obtain ⟨⟨filter', hfilter'⟩, hunbroken'⟩ := (breakage?_eq_none_iff hi').mp hwhole'
    have hresolve := resolve_congr_log h (hr.imp_right fun hsettled => hsettled i hi) hunbroken
      hunbroken'
    rw [result_of_filter p now s hi hfilter, result_of_filter p now s hi' hfilter',
      perform_congr_log p now s h hresolve, requests, requests, hresolve]

end Result

/-- The same environment as the one with the torn filter, but for the variables of the log. -/
def jsonLogEnvironment : Environment where
  bindings := [("FLUME_LAUNCHER_LOG_FORMAT", "json"), ("PATH", "/usr/bin:/bin"),
    ("HOME", "/home/tester")]
  accountHome := none

theorem jsonLogEnvironment_variables :
    Settings.variableEntries jsonLogEnvironment.bindings = [("log_format", .text "json")] := rfl

theorem jsonLogEnvironment_settled (file : Option Settings.File) :
    IsSettled bareFiles file jsonLogEnvironment.bindings where
  file entries hentries := by
    cases entries_bareFiles hentries
    decide
  environment := by
    rw [jsonLogEnvironment_variables]
    decide +kernel

theorem jsonLogEnvironment_hasRoom (room : Nat) (file : Option Settings.File) :
    Settings.HasRoom room bareFiles file jsonLogEnvironment.bindings where
  file entries hentries := by
    cases entries_bareFiles hentries
    exact nofun
  environment := by
    have hkey : KeyPath.ofKey "log_format" = ⟨"log_format", []⟩ := by decide +kernel
    rw [jsonLogEnvironment_variables]
    intro e he
    cases List.mem_singleton.mp he
    rw [hkey]
    exact nofun

theorem breakage?_jsonLogEnvironment (words : List String) {r : Reading}
    (hlegible : r.legible = true) : breakage? bareFiles jsonLogEnvironment words r = none := by
  cases hi : Arguments.parse jsonLogEnvironment words with
  | error stop => simp [breakage?, hi]
  | ok i =>
    exact (breakage?_eq_none_iff hi).mpr
      ⟨⟨.standard, rfl⟩, unbroken_of_room (jsonLogEnvironment_hasRoom _ _) hlegible⟩

theorem breakage?_withoutLog (words : List String) {r : Reading} (hlegible : r.legible = true) :
    breakage? bareFiles tornEnvironment.withoutLog words r = none := by
  have hvariables : Settings.variableEntries tornEnvironment.withoutLog.bindings = [] := rfl
  cases hi : Arguments.parse tornEnvironment.withoutLog words with
  | error stop => simp [breakage?, hi]
  | ok i =>
    refine (breakage?_eq_none_iff hi).mpr ⟨⟨.standard, rfl⟩, unbroken_of_room ⟨?_, ?_⟩ hlegible⟩
    · intro entries hentries
      cases entries_bareFiles hentries
      exact nofun
    · rw [hvariables]
      exact nofun

end Program

end AgentLaunch
