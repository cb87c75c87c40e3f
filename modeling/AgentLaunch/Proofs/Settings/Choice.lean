import AgentLaunch.Proofs.Arguments.Understood
import AgentLaunch.Proofs.Outcome
import AgentLaunch.Proofs.Settings.Joint

/-!
# The settings file of a run

The file that a run reads is the one named behind the command word, or else the one named in front
of it, or else the one that the environment names, or else the user's own. Only the user's own may
be missing. Settings that cannot be loaded end the run, whatever the command line sets.
-/

namespace AgentLaunch

theorem Path.isAbsolute_iff {p : String} : Path.isAbsolute p = true ↔ ∃ rest, p = "/" ++ rest := by
  rw [Path.isAbsolute, decide_eq_true_iff]
  constructor
  · intro h
    obtain ⟨rest, hrest⟩ := List.head?_eq_some_iff.mp h
    refine ⟨String.ofList rest, String.toList_inj.mp ?_⟩
    rw [hrest]
    simp
  · rintro ⟨rest, rfl⟩
    simp

namespace Environment

variable {env : Environment} {home directory : String}

/-- The home directory is what its variable says, or else what the account has on record. -/
inductive IsHome (env : Environment) : String → Prop where
  | set {home : String} (named : env.get? "HOME" = some home) (filled : home ≠ "") : IsHome env home
  | onRecord {home : String} (unset : ∀ value, env.get? "HOME" = some value → value = "")
      (recorded : env.accountHome = some home) : IsHome env home

theorem home?_of_set (h : env.get? "HOME" = some home) (hfilled : home ≠ "") :
    env.home? = some home := by
  rw [home?, h]
  split
  next heq => cases heq
  next heq => exact absurd (Option.some.inj heq) hfilled
  next heq => exact heq.symm

theorem home?_of_unset (h : ∀ value, env.get? "HOME" = some value → value = "") :
    env.home? = env.accountHome := by
  cases hvalue : env.get? "HOME" with
  | none => rw [home?, hvalue]
  | some value =>
    rw [home?, hvalue, h value hvalue]
    rfl

theorem home?_eq_some_iff : env.home? = some home ↔ IsHome env home := by
  constructor
  · intro h
    by_cases hunset : ∀ value, env.get? "HOME" = some value → value = ""
    · exact .onRecord hunset (home?_of_unset hunset ▸ h)
    · push Not at hunset
      obtain ⟨value, hvalue, hfilled⟩ := hunset
      rw [home?_of_set hvalue hfilled] at h
      exact .set (Option.some.inj h ▸ hvalue) (Option.some.inj h ▸ hfilled)
  · intro h
    cases h with
    | set named filled => exact home?_of_set named filled
    | onRecord unset recorded => rw [home?_of_unset unset, recorded]

/-- The directory of a user's configuration files, which belongs to a home directory. -/
inductive IsConfigDirectory (env : Environment) : String → Prop where
  | set {home directory : String} (known : IsHome env home)
      (named : env.get? "XDG_CONFIG_HOME" = some directory)
      (absolute : ∃ rest, directory = "/" ++ rest) : IsConfigDirectory env directory
  | below {home : String} (known : IsHome env home)
      (other : ∀ rest, env.get? "XDG_CONFIG_HOME" ≠ some ("/" ++ rest)) :
      IsConfigDirectory env (Path.join home ".config")

theorem configDirectory?_eq_some_iff :
    env.configDirectory? = some directory ↔ IsConfigDirectory env directory := by
  unfold configDirectory?
  constructor
  · intro h
    obtain ⟨home, hhome, h⟩ := Option.map_eq_some_iff.mp h
    have hknown := home?_eq_some_iff.mp hhome
    split at h
    next directory' hset =>
      split at h
      next habsolute => exact h ▸ .set hknown hset (Path.isAbsolute_iff.mp habsolute)
      next hrelative =>
        refine h ▸ .below hknown fun rest hrest => hrelative ?_
        exact Path.isAbsolute_iff.mpr ⟨rest, Option.some.inj (hset.symm.trans hrest)⟩
    next hunset => exact h ▸ .below hknown fun rest hrest => by cases hunset.symm.trans hrest
  · intro h
    cases h with
    | set known named absolute =>
      rw [home?_eq_some_iff.mpr known, named]
      simp [Path.isAbsolute_iff.mpr absolute]
    | below known other =>
      rw [home?_eq_some_iff.mpr known, Option.map_some]
      split
      next directory' hset =>
        rw [if_neg]
        intro habsolute
        obtain ⟨rest, rfl⟩ := Path.isAbsolute_iff.mp habsolute
        exact other rest hset
      · rfl

end Environment

namespace Program

open Arguments (Invocation Line given? configVariable)
open Settings (IsPlain Reading Reads fileEntries variableEntries)

/-- A run reads its settings from a file at this path, which has to be there or may be missing. -/
inductive Selects (env : Environment) (i : Invocation) : String → Bool → Prop where
  | asked {path : String} (named : i.config = some path) : Selects env i path true
  | own {directory : String} (unnamed : i.config = none)
      (place : env.IsConfigDirectory directory) :
      Selects env i (Path.join (Path.join directory "flume-launcher") "launcher.toml") false

section Load

variable {fs fs' : FileSystem} {env : Environment} {i : Invocation} {path : String}
  {required : Bool} {r : Reading}

theorem selectFile_eq_some_iff :
    Settings.selectFile env i.config = some ⟨path, required⟩ ↔ Selects env i path required := by
  constructor
  · intro h
    cases hconfig : i.config with
    | some path' =>
      rw [hconfig] at h
      cases h
      exact .asked hconfig
    | none =>
      rw [hconfig, Settings.selectFile, Settings.defaultPath?, Option.map_map] at h
      obtain ⟨directory, hdirectory, h⟩ := Option.map_eq_some_iff.mp h
      cases h
      exact .own hconfig (Environment.configDirectory?_eq_some_iff.mp hdirectory)
  · intro h
    cases h with
    | asked named =>
      rw [named]
      rfl
    | own unnamed place =>
      rw [unnamed, Settings.selectFile, Settings.defaultPath?,
        Environment.configDirectory?_eq_some_iff.mpr place]
      rfl

theorem load_value (fs : FileSystem) (env : Environment) (explicit : Option String) (r : Reading) :
    (Settings.load fs env explicit r).value =
      Settings.build fs (Settings.selectFile env explicit) env.bindings r := rfl

/-- With a file that was asked for, a run sees no other file. -/
theorem resolve_congr_files (hconfig : i.config = some path)
    (hdirectory : fs'.workingDirectory = fs.workingDirectory)
    (hread : ∀ p ∈ Settings.candidates fs.workingDirectory path, fs'.read p = fs.read p) :
    resolve fs' env i r = resolve fs env i r := by
  have hload : Settings.load fs' env i.config r = Settings.load fs env i.config r := by
    rw [hconfig, Settings.load, Settings.load, Settings.selectFile, Settings.buildLogged,
      Settings.buildLogged, Settings.build_congr hdirectory hread]
  rw [resolve, resolve, hload]

end Load

section Run

variable {σ : Type} {fs : FileSystem} {env : Environment} {words : List String} {i : Invocation}
  {r : Reading}

theorem run_congr {fs' : FileSystem} (p : Platform σ) (now : Int) (s : σ)
    (hi : Arguments.parse env words = .ok i) (h : resolve fs' env i r = resolve fs env i r) :
    run p now fs' env words s r = run p now fs env words s r := by
  have hperform : perform p now fs' env i s r = perform p now fs env i s r := by
    rw [perform, perform, h]
  cases hfilter : LogFilter.ofEnvironment? env with
  | none => rw [run_of_torn hi hfilter, run_of_torn hi hfilter]
  | some filter => rw [run_of_filter hi hfilter, run_of_filter hi hfilter, hperform]

/-- Without a spec nothing is launched or printed. -/
theorem run_of_failure {f : Failure} (p : Platform σ) (now : Int) (s : σ)
    (hi : Arguments.parse env words = .ok i) (h : (resolve fs env i r).value = .error f) :
    (run p now fs env words s r).1.exitCode ≠ 0 ∧ (run p now fs env words s r).1.stdout = "" ∧
      (run p now fs env words s r).2 = s := by
  cases hfilter : LogFilter.ofEnvironment? env with
  | none =>
    rw [run_of_torn hi hfilter]
    exact ⟨Nat.succ_ne_zero 100, rfl, rfl⟩
  | some filter =>
    rw [run_of_filter hi hfilter, perform_of_failure p now s h]
    exact ⟨exitCode_outcome_ne_zero f, stdout_outcome f, rfl⟩

end Run

/-- How the settings file of a run is found, and what a missing or broken one leads to. -/
structure FileCounts (fs : FileSystem) (env : Environment) (words : List String) (i : Invocation)
    (r : Reading) : Prop where
  /-- With a file that was asked for, what is in other places does not matter. -/
  alone : ∀ path, i.config = some path → ∀ fs' : FileSystem,
    fs'.workingDirectory = fs.workingDirectory →
    (∀ p ∈ Settings.candidates fs.workingDirectory path, fs'.read p = fs.read p) →
    resolve fs' env i r = resolve fs env i r ∧ ∀ {σ : Type} (p : Platform σ) (now : Int) (s : σ),
      run p now fs' env words s r = run p now fs env words s r
  missing : ∀ path, Selects env i path true → (¬ ∃ found text, Reads fs path found text) →
    ∃ e, (Settings.load fs env i.config r).value = .error (.file e) ∧
      (Settings.LoadError.file e).breakage? = none
  /-- A missing file of the user's own is no file. Without a file no file is at fault. -/
  optional : i.config = none →
    (∀ path, Selects env i path false → ¬ ∃ found text, Reads fs path found text) →
    (Settings.load fs env i.config r).value = Settings.build fs none env.bindings r ∧
    (∀ e, (Settings.load fs env i.config r).value = .error (.file e) → ∃ how, e = .brokenOff how) ∧
    (r.legible = true → IsPlain r.room (variableEntries env.bindings) →
      ∃ below, (Settings.load fs env i.config r).value = .ok below)
  broken : ∀ path required found text, Selects env i path required → Reads fs path found text →
    Toml.Document.read? text = none → (Settings.load fs env i.config r).value =
      .error (.file (.notToml (Path.relativeTo fs.workingDirectory found)))
  read : ∀ path required found text document, Selects env i path required →
    Reads fs path found text → Toml.Document.read? text = some document →
    (Settings.load fs env i.config r).value = Settings.ofSources
      (Tree.ofEntries (Path.relativeTo fs.workingDirectory found) document)
      (variableEntries env.bindings) r
  /-- Where settings cannot be loaded, no platform changes its state, not even one that notes what
  its spawner is handed. -/
  failed : ∀ e, (Settings.load fs env i.config r).value = .error e →
    (∀ j : Invocation, j.config = i.config → (resolve fs env j r).value = .error (.load e)) ∧
    ∀ {σ : Type} (p : Platform σ) (now : Int) (s : σ),
      (run p now fs env words s r).1.exitCode ≠ 0 ∧
      (run p now fs env words s r).1.stdout = "" ∧ (run p now fs env words s r).2 = s

/-- Which settings file counts, and what becomes of a run with it or without it. -/
theorem settings_file_counts (env : Environment) (words : List String) (i : Invocation)
    (hi : Arguments.parse env words = .ok i) :
    (∃ l : Line, l.IsProper ∧ (words = l.words ∨ words = l.words ++ ["--"]) ∧
      i.config = ((given? l.options .config).or (given? l.front .config)).or
        (env.get? configVariable)) ∧
    ∀ (fs : FileSystem) (r : Reading), FileCounts fs env words i r := by
  obtain ⟨l, hl, -, hwords, hline⟩ := Arguments.exists_line_of_parse hi
  refine ⟨⟨l, hl, hwords, by rw [hline]; rfl⟩, fun fs r => ?_⟩
  constructor
  case alone =>
    intro path hconfig fs' hdirectory hread
    have hsame : resolve fs' env i r = resolve fs env i r :=
      resolve_congr_files hconfig hdirectory hread
    exact ⟨hsame, fun p now s => run_congr p now s hi hsame⟩
  case missing =>
    intro path hselects hmissing
    rw [load_value, selectFile_eq_some_iff.mpr hselects]
    exact Settings.build_required_of_not_reads hmissing
  case optional =>
    intro hconfig hmissing
    have hload : (Settings.load fs env i.config r).value =
        Settings.build fs none env.bindings r := by
      rw [load_value]
      cases hfile : Settings.selectFile env i.config with
      | none => rfl
      | some file =>
        obtain ⟨path, required⟩ := file
        have hselects := selectFile_eq_some_iff.mp hfile
        cases required with
        | true =>
          cases hselects with
          | asked named => cases hconfig.symm.trans named
        | false => exact Settings.build_optional_of_not_reads (hmissing path hselects)
    rw [hload]
    exact ⟨rfl, fun e => Settings.brokenOff_of_build_none, fun hlegible hplain =>
      ⟨_, Settings.build_plain rfl hlegible Settings.isPlain_nil hplain⟩⟩
  case broken =>
    intro path required found text hselects hreads htoml
    rw [load_value, selectFile_eq_some_iff.mpr hselects]
    exact Settings.build_of_not_toml hreads htoml
  case read =>
    intro path required found text document hselects hreads htoml
    rw [load_value, selectFile_eq_some_iff.mpr hselects]
    exact Settings.build_of_entries (Settings.fileEntries_of_reads hreads htoml) _ r
  case failed =>
    intro e he
    have hresolve : ∀ j : Invocation, j.config = i.config →
        (resolve fs env j r).value = .error (.load e) := by
      intro j hj
      rw [load_value, ← hj] at he
      exact resolve_of_build_error he
    exact ⟨hresolve, fun p now s => run_of_failure p now s hi (hresolve i rfl)⟩

/-- A machine with two settings files that are not TOML, one of them the user's own, and with one
that cannot be read. -/
def brokenFiles : FileSystem where
  workingDirectory := "/work"
  read path :=
    if path = "/work/agent.toml" ∨ path = "/home/u/.config/flume-launcher/launcher.toml" then
      .contents "=".toUTF8
    else if path = "/work/locked.toml" then .unreadable (.number 13)
    else if path = "/work/locked.toml.toml" then .contents "version = '1'".toUTF8
    else .missing

def presetEnvironment : Environment where
  bindings := [("HOME", "/home/u"), ("FLUME_LAUNCHER_CONFIG", "preset.toml")]
  accountHome := none

/-- An environment in which the user's own settings file has a place. -/
def homeEnvironment : Environment where
  bindings := [("HOME", "/home/u")]
  accountHome := none

/-- A line that sets all parameters and names two settings files. -/
def namingWords : List String :=
  ["--config", "front.toml", "start", "--config=agent", "--install-root=/opt", "--version", "1",
    "--conf-file=c", "--agent-name=a", "--run-as-user=u"]

theorem brokenFiles_reads : Reads brokenFiles "agent" "/work/agent.toml" "=" := by
  have habsolute : brokenFiles.absolute "agent" = "/work/agent" := by decide +kernel
  refine .appended ?_ ?_ rfl
  · rw [habsolute]
    rfl
  · rw [habsolute]
    decide +kernel

/-- A file that is there but cannot be read hides the one with the longer name. -/
theorem brokenFiles_reads_no_locked :
    ¬ ∃ found text, Reads brokenFiles "locked.toml" found text := by
  have hlocked : brokenFiles.read (brokenFiles.absolute "locked.toml") =
      .unreadable (.number 13) := by
    rw [show brokenFiles.absolute "locked.toml" = "/work/locked.toml" by decide +kernel]
    rfl
  rintro ⟨found, text, ⟨hthere, -⟩ | ⟨hmissing, -, -⟩⟩
  · cases hlocked.symm.trans hthere
  · cases hlocked.symm.trans hmissing

theorem brokenFiles_reads_own : Reads brokenFiles "/home/u/.config/flume-launcher/launcher.toml"
    "/home/u/.config/flume-launcher/launcher.toml" "=" := by
  have habsolute : brokenFiles.absolute "/home/u/.config/flume-launcher/launcher.toml" =
      "/home/u/.config/flume-launcher/launcher.toml" := by
    decide +kernel
  have hexact : Reads brokenFiles "/home/u/.config/flume-launcher/launcher.toml"
      (brokenFiles.absolute "/home/u/.config/flume-launcher/launcher.toml") "=" := by
    refine .exact ?_ ?_
    · rw [habsolute]
      rfl
    · rw [habsolute]
      decide +kernel
  rwa [habsolute] at hexact

theorem homeEnvironment_selects {i : Invocation} (h : i.config = none) :
    Selects homeEnvironment i "/home/u/.config/flume-launcher/launcher.toml" false := by
  have hhome : homeEnvironment.IsHome "/home/u" := .set rfl (by decide)
  have hpath : Path.join (Path.join (Path.join "/home/u" ".config") "flume-launcher")
      "launcher.toml" = "/home/u/.config/flume-launcher/launcher.toml" := by
    decide +kernel
  exact hpath ▸ .own h (.below hhome fun rest => nofun)

theorem settings_file_counts_sample :
    (∃ i, Arguments.parse presetEnvironment namingWords = .ok i ∧ i.config = some "agent" ∧
      (∃ e, (Settings.load bareFiles presetEnvironment i.config).value = .error (.file e)) ∧
      (resolve brokenFiles presetEnvironment i).value =
        .error (.load (.file (.notToml "agent.toml"))) ∧
      ∀ s, (run (Recorder.platform .accept AccountTable.superuser.resolve) 0 brokenFiles
        presetEnvironment namingWords s).2 = s) ∧
    (∃ i e, Arguments.parse homeEnvironment ["--config", "locked.toml", "print"] = .ok i ∧
      (Settings.load brokenFiles homeEnvironment i.config).value = .error (.file e)) ∧
    ∃ i below, Arguments.parse homeEnvironment ["print"] = .ok i ∧
      (Settings.load bareFiles homeEnvironment i.config).value = .ok below ∧
      (Settings.load brokenFiles homeEnvironment i.config).value =
        .error (.file (.notToml "../home/u/.config/flume-launcher/launcher.toml")) := by
  have htoml : Toml.Document.read? "=" = none := by cbv
  refine ⟨?_, ?_, ?_⟩
  · have hi : Arguments.parse presetEnvironment namingWords =
        .ok ⟨.start, false, some "agent",
          ⟨some "/opt", some "1", some "c", some "a", some "u"⟩⟩ := rfl
    obtain ⟨-, hcounts⟩ := settings_file_counts presetEnvironment namingWords _ hi
    have hload := (hcounts brokenFiles .steady).broken _ _ _ _ (.asked rfl) brokenFiles_reads htoml
    rw [show Path.relativeTo brokenFiles.workingDirectory "/work/agent.toml" = "agent.toml" by
      decide +kernel] at hload
    obtain ⟨hresolve, hrun⟩ := (hcounts brokenFiles .steady).failed _ hload
    obtain ⟨e, he, -⟩ :=
      (hcounts bareFiles .steady).missing _ (.asked rfl) (bareFiles_reads_nothing "agent")
    exact ⟨_, hi, rfl, ⟨e, he⟩, hresolve _ rfl, fun s => (hrun _ 0 s).2.2⟩
  · have hi : Arguments.parse homeEnvironment ["--config", "locked.toml", "print"] =
        .ok ⟨.print, false, some "locked.toml", .empty⟩ := rfl
    obtain ⟨-, hcounts⟩ := settings_file_counts homeEnvironment _ _ hi
    obtain ⟨e, he, -⟩ :=
      (hcounts brokenFiles .steady).missing _ (.asked rfl) brokenFiles_reads_no_locked
    exact ⟨_, e, hi, he⟩
  · have hi : Arguments.parse homeEnvironment ["print"] = .ok ⟨.print, false, none, .empty⟩ := rfl
    obtain ⟨-, hcounts⟩ := settings_file_counts homeEnvironment ["print"] _ hi
    obtain ⟨-, -, hloads⟩ := (hcounts bareFiles .steady).optional rfl
      fun path _ => bareFiles_reads_nothing path
    obtain ⟨below, hbelow⟩ := hloads rfl Settings.isPlain_nil
    have hload := (hcounts brokenFiles .steady).broken _ _ _ _ (homeEnvironment_selects rfl)
      brokenFiles_reads_own htoml
    rw [show Path.relativeTo brokenFiles.workingDirectory
      "/home/u/.config/flume-launcher/launcher.toml" =
        "../home/u/.config/flume-launcher/launcher.toml" by decide +kernel] at hload
    exact ⟨_, below, hi, hbelow, hload⟩

end Program

end AgentLaunch
