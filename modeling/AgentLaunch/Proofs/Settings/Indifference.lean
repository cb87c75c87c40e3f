import AgentLaunch.Arguments.Options
import AgentLaunch.Proofs.Settings.Settled

/-!
# Indifference to foreign keys

Settings depend on nothing but the keys that lead to parameters. Other variables, and other keys at
the top of a settings file, can come, go and change without a trace, even where they lead into
tables and lists or share the beginning of a parameter's name, unless they lead to an item that a
list cannot have.
-/

namespace AgentLaunch.Settings

open Program (reads_agent sampleFiles shortestFirst)

/-- A key, read as a path, begins with no parameter. -/
def IsForeignKey (key : String) : Prop :=
  ∀ f : Field, (KeyPath.ofKey key).root ≠ f.key

/-- A variable has another beginning than a setting, or what follows it is a foreign key. -/
def IsForeignVariable (name : String) : Prop :=
  ∀ key, KeyPath.lower name = variablePrefix ++ key → IsForeignKey key

section Foreign

variable {key name value : String}

theorem isOwn_eq_false_iff : isOwn key = false ↔ IsForeignKey key := by
  simp only [isOwn, List.any_eq_false, decide_eq_true_eq]
  constructor
  · intro h f
    exact h f f.mem_all
  · intro h f _
    exact h f

instance : DecidablePred IsForeignKey :=
  fun _ => decidable_of_iff _ isOwn_eq_false_iff

theorem ownOf_entryOfVariable?_eq_nil_iff :
    ownOf (entryOfVariable? name value).toList = [] ↔ IsForeignVariable name := by
  rw [ownOf, List.filter_eq_nil_iff]
  constructor
  · intro h key hname
    have hentry : entryOfVariable? name value = some (key, .text value) :=
      entryOfVariable?_eq_some_iff.mpr ⟨hname, rfl⟩
    rw [hentry] at h
    exact isOwn_eq_false_iff.mp (by simpa using h)
  · intro h e he
    have hname := (entryOfVariable?_eq_some_iff.mp (Option.mem_toList.mp he)).1
    rw [isOwn_eq_false_iff.mpr (h e.1 hname)]
    exact Bool.false_ne_true

instance : DecidablePred IsForeignVariable := fun name =>
  decidable_of_iff ((ownOf (entryOfVariable? name "").toList).isEmpty = true)
    (List.isEmpty_iff.trans ownOf_entryOfVariable?_eq_nil_iff)

end Foreign

def ownVariables (bindings : List (String × String)) : List (String × String) :=
  bindings.filter fun v => ¬ IsForeignVariable v.1

def ownEntries (document : List (String × Toml.Value)) : List (String × Toml.Value) :=
  document.filter fun e => ¬ IsForeignKey e.1

/-- In two file systems there is the same settings file but for foreign keys, if there is one. -/
inductive AgreeOn (fs fs' : FileSystem) : Option File → Prop where
  | none : AgreeOn fs fs' none
  | parsed {path found text text' : String} {required : Bool}
      {document document' : List (String × Toml.Value)}
      (directory : fs'.workingDirectory = fs.workingDirectory)
      (reads : Reads fs path found text) (reads' : Reads fs' path found text')
      (toml : Toml.Document.read? text = some document)
      (toml' : Toml.Document.read? text' = some document')
      (own : ownEntries document = ownEntries document') :
      AgreeOn fs fs' (some ⟨path, required⟩)
  /-- Whatever becomes of the file, it is the same file. -/
  | same {file : Option File} (files : fs' = fs) : AgreeOn fs fs' file

/-- There is room for whatever foreign keys lead to. -/
structure HasForeignRoom (room : Nat) (fs : FileSystem) (file : Option File)
    (bindings : List (String × String)) : Prop where
  file : ∀ entries, fileEntries fs file = .ok entries →
    ∀ e ∈ entries, IsForeignKey e.1 → (KeyPath.ofKey e.1).IsCounted room
  environment : ∀ e ∈ variableEntries bindings, IsForeignKey e.1 →
    (KeyPath.ofKey e.1).IsCounted room

section Build

variable {fs fs' : FileSystem} {file : Option File} {bindings bindings' : List (String × String)}
  {r r' : Reading}

theorem ofEntries_filter (origin : String) (keep : String → Bool)
    (document : List (String × Toml.Value)) :
    (Tree.ofEntries origin document).filter (keep ·.1) =
      Tree.ofEntries origin (document.filter (keep ·.1)) := by
  induction document with
  | nil => rfl
  | cons e rest ih =>
    obtain ⟨key, v⟩ := e
    cases hkeep : keep key <;> simp [Tree.ofEntries, hkeep, ih]

theorem ownOf_ofEntries (origin : String) (document : List (String × Toml.Value)) :
    ownOf (Tree.ofEntries origin document) = Tree.ofEntries origin (ownEntries document) := by
  have hown : document.filter (isOwn ·.1) = ownEntries document := by
    apply List.filter_congr
    intro e _
    simp [← isOwn_eq_false_iff]
  rw [ownOf, ofEntries_filter, hown]

theorem variableEntries_cons (name value : String) (rest : List (String × String)) :
    variableEntries ((name, value) :: rest) =
      (entryOfVariable? name value).toList ++ variableEntries rest := by
  unfold variableEntries
  rw [List.filterMap_cons]
  dsimp only
  cases entryOfVariable? name value <;> rfl

theorem ownOf_append (source source' : List (String × Tree)) :
    ownOf (source ++ source') = ownOf source ++ ownOf source' :=
  List.filter_append source source'

theorem ownOf_variableEntries (bindings : List (String × String)) :
    ownOf (variableEntries bindings) = ownOf (variableEntries (ownVariables bindings)) := by
  induction bindings with
  | nil => rfl
  | cons v rest ih =>
    obtain ⟨name, value⟩ := v
    rw [variableEntries_cons, ownOf_append, ih]
    by_cases hforeign : IsForeignVariable name
    · have hrest : ownVariables ((name, value) :: rest) = ownVariables rest :=
        List.filter_cons_of_neg (by simpa using hforeign)
      rw [hrest, ownOf_entryOfVariable?_eq_nil_iff.mpr hforeign, List.nil_append]
    · have hboth : ownVariables ((name, value) :: rest) = (name, value) :: ownVariables rest :=
        List.filter_cons_of_pos (by simpa using hforeign)
      rw [hboth, variableEntries_cons, ownOf_append]

/-- A file is at fault in both file systems, or its own entries are the same. -/
theorem AgreeOn.entries (h : AgreeOn fs fs' file) :
    (∃ e, fileEntries fs file = .error e ∧ fileEntries fs' file = .error e) ∨
    ∃ entries entries', fileEntries fs file = .ok entries ∧ fileEntries fs' file = .ok entries' ∧
      ownOf entries = ownOf entries' := by
  cases h with
  | none => exact .inr ⟨[], [], rfl, rfl, rfl⟩
  | parsed directory reads reads' toml toml' own =>
    refine .inr ⟨_, _, fileEntries_of_reads reads toml, fileEntries_of_reads reads' toml', ?_⟩
    rw [ownOf_ofEntries, ownOf_ofEntries, own, directory]
  | same files =>
    subst files
    cases hfile : fileEntries fs' file with
    | error e => exact .inl ⟨e, rfl, rfl⟩
    | ok entries => exact .inr ⟨entries, entries, rfl, rfl, rfl⟩

/-- Settings that are found are those of the own entries. -/
theorem build_own {entries : List (String × Tree)} (hfile : fileEntries fs file = .ok entries)
    (hwhole : IsWhole (build fs file bindings r)) : build fs file bindings r =
      ofSources (ownOf entries) (ownOf (variableEntries (ownVariables bindings))) r := by
  rw [build_of_entries hfile] at hwhole ⊢
  rw [ofSources_own hwhole, ownOf_variableEntries]

theorem build_own_of_room {entries : List (String × Tree)}
    (hfile : fileEntries fs file = .ok entries)
    (hroom : HasForeignRoom r.room fs file bindings) : build fs file bindings r =
      ofSources (ownOf entries) (ownOf (variableEntries (ownVariables bindings))) r := by
  rw [build_of_entries hfile, ← ownOf_variableEntries]
  exact ofSources_own_of_counted
    (fun e he hkey => hroom.file entries hfile e he (isOwn_eq_false_iff.mp hkey))
    fun e he hkey => hroom.environment e he (isOwn_eq_false_iff.mp hkey)

/-- Leaving out what is foreign gives no parameter a second time. -/
theorem IsUnambiguous.ownOf {source : List (String × Tree)} (h : IsUnambiguous source) :
    IsUnambiguous (ownOf source) :=
  fun f => (List.filter_sublist.countP_le).trans (h f)

theorem build_congr_foreign (hfile : AgreeOn fs fs' file)
    (hvariables : ownVariables bindings = ownVariables bindings')
    (hr : r = r' ∨ IsSettled fs file bindings) (hwhole : IsWhole (build fs file bindings r))
    (hwhole' : IsWhole (build fs' file bindings' r')) :
    build fs file bindings r = build fs' file bindings' r' := by
  obtain ⟨e, he, he'⟩ | ⟨entries, entries', hentries, hentries', hown⟩ := hfile.entries
  · rw [build, build, he, he', error_bind, error_bind]
  · have hbuild := build_own hentries hwhole
    have hbuild' := build_own hentries' hwhole'
    rw [← hown, ← hvariables] at hbuild'
    rw [hbuild] at hwhole ⊢
    rw [hbuild'] at hwhole' ⊢
    obtain rfl | hsettled := hr
    · rfl
    · refine ofSources_settled (hsettled.file entries hentries).ownOf ?_ hwhole hwhole'
      rw [← ownOf_variableEntries, ← ownOf_lastOfEach]
      exact hsettled.environment.ownOf

theorem build_congr_foreign_of_room (hfile : AgreeOn fs fs' file)
    (hvariables : ownVariables bindings = ownVariables bindings')
    (hroom : HasForeignRoom r.room fs file bindings)
    (hroom' : HasForeignRoom r.room fs' file bindings') :
    build fs file bindings r = build fs' file bindings' r := by
  obtain ⟨e, he, he'⟩ | ⟨entries, entries', hentries, hentries', hown⟩ := hfile.entries
  · rw [build, build, he, he', error_bind, error_bind]
  · rw [build_own_of_room hentries hroom, build_own_of_room hentries' hroom', hown, hvariables]

end Build

theorem isForeignVariable_of_lower {name key : String}
    (hname : KeyPath.lower name = variablePrefix ++ key) (hkey : IsForeignKey key) :
    IsForeignVariable name := by
  intro key' hname'
  have hsame : key = key' := (String.append_right_inj _).mp (hname.symm.trans hname')
  exact hsame ▸ hkey

def crowdedText : String :=
  "'version_[0].version' = [1]\nversion = '1'\nconfig = 2\nagent_name = \"a\"\n"

/-- A machine whose settings file says the same of the parameters as that of `sampleFiles`. -/
def crowdedFiles : FileSystem where
  workingDirectory := "/work"
  read path := if path = "/work/agent.toml" then .contents crowdedText.toUTF8 else .missing

/-- Variables that are close to settings, and one that is a setting. -/
def crowdedVariables : List (String × String) :=
  [("FLUME_LAUNCHER_CONFIG", "c"), ("FLUME_LAUNCHER_", ""), ("FLUME_launcher_VERSION", ""),
    ("FLUME_LAUNCHER_VERSION ", "2"), ("FLUME_LAUNCHER_conf[2].version", "3"), ("VERSION", "4")]

/-- What the crowded settings file says. -/
def crowdedDocument : List (String × Toml.Value) :=
  [("version_[0].version", .array [.scalar (.integer 1)]), ("version", .scalar (.string "1")),
    ("config", .scalar (.integer 2)), ("agent_name", .scalar (.string "a"))]

theorem read?_crowdedText : Toml.Document.read? crowdedText = some crowdedDocument := by
  cbv

theorem sampleFiles_agreeOn_crowdedFiles :
    AgreeOn sampleFiles crowdedFiles (some ⟨"agent.toml", true⟩) := by
  have htoml : Toml.Document.read? "version = '1'\nagent_name = \"a\"\n" =
      some [("version", .scalar (.string "1")), ("agent_name", .scalar (.string "a"))] := by
    cbv
  have hkeys : IsForeignKey "version_[0].version" ∧ ¬ IsForeignKey "version" ∧
      IsForeignKey "config" ∧ ¬ IsForeignKey "agent_name" := by
    decide +kernel
  exact .parsed rfl (reads_agent rfl rfl) (reads_agent rfl rfl) htoml read?_crowdedText
    (by simp [ownEntries, crowdedDocument, hkeys])

end AgentLaunch.Settings
