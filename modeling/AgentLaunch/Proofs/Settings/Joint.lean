import AgentLaunch.Proofs.Settings.Layers
import AgentLaunch.Proofs.Settings.Merge

/-!
# A file and the environment together

Merged into one tree and read from there, a file and the environment come to what they would come to
as separate settings, one laid over the other. The variables may be met in any order, as long as
none leads into the value of another, and the environment alone can be read in any order too.
-/

namespace AgentLaunch.Settings

open Program (reads_agent sampleFiles sampleFiles_entries longestFirst shortestFirst)

section Read

variable {root : List (String × Tree)} {f : Field}

theorem readField_of_ofTree {s : Settings} (h : ofTree root = .ok s) (f : Field) :
    readField root f = .ok (s.get f) := by
  obtain ⟨installRoot, hinstallRoot, h⟩ := exists_of_bind_ok h
  obtain ⟨version, hversion, h⟩ := exists_of_bind_ok h
  obtain ⟨configFileName, hconfigFileName, h⟩ := exists_of_bind_ok h
  obtain ⟨agentName, hagentName, h⟩ := exists_of_bind_ok h
  obtain ⟨runAsUser, hrunAsUser, h⟩ := exists_of_bind_ok h
  cases h
  cases f with
  | installRoot => exact hinstallRoot
  | version => exact hversion
  | configFileName => exact hconfigFileName
  | agentName => exact hagentName
  | runAsUser => exact hrunAsUser

/-- A tree that cannot be read has a parameter that cannot be read. -/
theorem exists_readField_of_ofTree {e : LoadError} (h : ofTree root = .error e) :
    ∃ f, readField root f = .error e := by
  obtain h | ⟨_, -, h⟩ := exists_of_bind_error h
  · exact ⟨_, h⟩
  obtain h | ⟨_, -, h⟩ := exists_of_bind_error h
  · exact ⟨_, h⟩
  obtain h | ⟨_, -, h⟩ := exists_of_bind_error h
  · exact ⟨_, h⟩
  obtain h | ⟨_, -, h⟩ := exists_of_bind_error h
  · exact ⟨_, h⟩
  obtain h | ⟨_, -, h⟩ := exists_of_bind_error h
  · exact ⟨_, h⟩
  cases h

theorem wrongType_of_readField {e : LoadError} (h : readField root f = .error e) :
    ∃ form origin, e = .wrongType f form origin := by
  unfold readField at h
  split at h <;> cases h <;> exact ⟨_, _, rfl⟩

theorem readField_of_branchesAt (h : Tree.BranchesAt f.key root) (v : Option String) :
    readField root f ≠ .ok v := by
  obtain ⟨t, ht, hbranch⟩ := h
  rw [readField, ht]
  cases t with
  | unset | text s => exact hbranch.elim
  | list origin items =>
    intro h
    cases h
  | table entries =>
    intro h
    cases h

end Read

section Sources

variable {room : Nat} {source source' alone : List (String × Tree)} {f : Field}
  {x y : Option String}

/-- Texts have no tables whose entries could be met in another order. -/
theorem arrangedAll_perm_of_texts (htexts : ∀ e ∈ source, ∃ s, e.2 = .text s)
    (rank : List String → String → Nat) (above : List String) :
    (Tree.arrangedAll rank above source).Perm source := by
  have hsame : source.map (Tree.arrangedEntry rank above) = source := by
    refine (List.map_congr_left fun e he => ?_).trans (List.map_id source)
    obtain ⟨s, hs⟩ := htexts e he
    rw [Tree.arrangedEntry, hs, arranged_text, ← hs]
    rfl
  exact (Tree.arrangedAll_perm rank above source).trans (List.Perm.of_eq hsame)

/-- A source of texts that lie apart, laid over a tree. If the tree has a readable value for a
parameter, and the source alone gives it one, the source decides where it gives anything. -/
theorem readField_addSource (hscattered : Tree.IsScattered source)
    (htexts : ∀ e ∈ source, ∃ s, e.2 = .text s) (hperm : source'.Perm source)
    (hperm' : alone.Perm source) {root root' only : List (String × Tree)}
    (hadd : Tree.addSource room root source' = .ok root')
    (honly : Tree.addSource room [] alone = .ok only) (hroot : readField root f = .ok x)
    (hsource : readField only f = .ok y) : readField root' f = .ok (y.or x) := by
  by_cases hnone : ∀ e ∈ source, (KeyPath.ofKey e.1).root ≠ f.key
  · rw [readField, Tree.get?_addSource_of_root_ne honly
      fun e he => hnone e (hperm'.mem_iff.mp he)] at hsource
    cases hsource
    rw [readField, Tree.get?_addSource_of_root_ne hadd fun e he => hnone e (hperm.mem_iff.mp he)]
    exact hroot
  · push Not at hnone
    obtain ⟨e, he, hname⟩ := hnone
    -- An entry that leads further would keep the source alone from being read.
    have hplain : KeyPath.ofKey e.1 = ⟨f.key, []⟩ := by
      have hsteps : (KeyPath.ofKey e.1).steps = [] := by
        by_contra hsteps
        exact readField_of_branchesAt ((hscattered.perm hperm').branchesAt honly
          (hperm'.mem_iff.mpr he) hname hsteps) y hsource
      rw [← hname, ← hsteps]
    obtain ⟨s, hs⟩ := htexts e he
    rw [readField, (hscattered.perm hperm').get?_plain honly (hperm'.mem_iff.mpr he) hplain hs]
      at hsource
    cases hsource
    rw [readField, (hscattered.perm hperm).get?_plain hadd (hperm.mem_iff.mpr he) hplain hs]
    rfl

end Sources

section Build

variable {fs : FileSystem} {file : Option File} {bindings bindings' : List (String × String)}
  {entries : List (String × Tree)} {r : Reading} {s : Settings}

theorem build_of_entries (h : fileEntries fs file = .ok entries)
    (bindings : List (String × String)) (r : Reading) :
    build fs file bindings r = ofSources entries (variableEntries bindings) r := by
  rw [build, h, ok_bind]

theorem ofSources_eq_ok_iff {environment : List (String × Tree)} :
    ofSources entries environment r = .ok s ↔
      ∃ root, merged entries environment r = .ok root ∧ ofTree root = .ok s := by
  rw [ofSources]
  cases merged entries environment r with
  | error how =>
    refine iff_of_false (fun h => ?_) (by simp)
    cases h
  | ok root =>
    refine ⟨fun h => ⟨root, rfl, h⟩, ?_⟩
    rintro ⟨root', hroot, h⟩
    cases hroot
    exact h

theorem build_eq_ok_iff : build fs file bindings r = .ok s ↔
    ∃ entries root, fileEntries fs file = .ok entries ∧
      merged entries (variableEntries bindings) r = .ok root ∧ ofTree root = .ok s := by
  constructor
  · intro h
    obtain ⟨entries, hfile, h⟩ := exists_of_bind_ok h
    obtain ⟨root, hroot, hs⟩ := ofSources_eq_ok_iff.mp h
    exact ⟨entries, root, hfile, hroot, hs⟩
  · rintro ⟨entries, root, hfile, hroot, hs⟩
    rw [build_of_entries hfile]
    exact ofSources_eq_ok_iff.mpr ⟨root, hroot, hs⟩

/-- Sources that are not loaded break the run off, or give a parameter something that is no text. -/
theorem error_of_ofSources {environment : List (String × Tree)} {e : LoadError}
    (h : ofSources entries environment r = .error e) :
    (∃ how, merged entries environment r = .error how ∧ e = .file (.brokenOff how)) ∨
    ∃ root f form origin, merged entries environment r = .ok root ∧
      readField root f = .error e ∧ e = .wrongType f form origin := by
  rw [ofSources] at h
  cases hmerged : merged entries environment r with
  | error how =>
    rw [hmerged] at h
    cases h
    exact .inl ⟨how, rfl, rfl⟩
  | ok root =>
    rw [hmerged] at h
    obtain ⟨f, hf⟩ := exists_readField_of_ofTree h
    obtain ⟨form, origin, he⟩ := wrongType_of_readField hf
    exact .inr ⟨root, f, form, origin, rfl, hf, he⟩

/-- Without a file no file is at fault. -/
theorem brokenOff_of_build_none {e : SourceError}
    (h : build fs none bindings r = .error (.file e)) : ∃ how, e = .brokenOff how := by
  obtain ⟨how, -, he⟩ | ⟨_, _, _, _, -, -, he⟩ := error_of_ofSources h
  · exact ⟨how, LoadError.file.inj he⟩
  · cases he

theorem text_of_mem_variableEntries {e : String × Tree} (h : e ∈ variableEntries bindings) :
    ∃ s, e.2 = .text s := by
  obtain ⟨⟨name, value⟩, -, hentry⟩ := List.mem_filterMap.mp h
  exact ⟨value, (entryOfVariable?_eq_some_iff.mp hentry).2⟩

theorem mem_variableEntries {f : Field} {value : String}
    (h : variableText? bindings f = some value) :
    (f.key, .text value) ∈ variableEntries bindings := by
  obtain ⟨⟨name, value'⟩, hfind, rfl⟩ := Option.map_eq_some_iff.mp h
  have hname : KeyPath.lower name = KeyPath.lower f.variable := by simpa using List.find?_some hfind
  exact List.mem_filterMap.mpr ⟨_, List.mem_of_find?_eq_some hfind,
    entryOfVariable?_eq_some_iff.mpr ⟨hname.trans (lower_variable f), rfl⟩⟩

/-- The variables in the order in which a run meets them are the variables. -/
theorem metVariables_perm (hscattered : Tree.IsScattered (variableEntries bindings))
    (horder : bindings'.Perm bindings) (ranks : String → Nat) :
    (Tree.arrangedAll (fun _ => ranks) [] (Tree.lastOfEach (variableEntries bindings'))).Perm
      (variableEntries bindings) := by
  have hentries : (variableEntries bindings').Perm (variableEntries bindings) :=
    horder.filterMap _
  rw [Tree.lastOfEach_eq_self (hscattered.perm hentries).nodup_keys]
  exact (arrangedAll_perm_of_texts (fun e he => text_of_mem_variableEntries he) _ _).trans hentries

/-- A variable that counts from the end of a list that nothing else leads to breaks each run off. -/
theorem merged_from_end {environment : List (String × Tree)} {e : String × Tree} {name : String}
    {index : Int} {steps : List KeyPath.Step} (hlast : (environment.map (·.1)).Nodup)
    (he : e ∈ environment) (hpath : KeyPath.ofKey e.1 = ⟨name, .item index :: steps⟩)
    (hindex : index < 0)
    (hfile : ∀ d ∈ entries, (KeyPath.ofKey d.1).root ≠ name ∧ (KeyPath.ofKey d.1).IsCounted r.room)
    (hothers : ∀ d ∈ environment, d.1 ≠ e.1 →
      (KeyPath.ofKey d.1).root ≠ name ∧ (KeyPath.ofKey d.1).IsCounted r.room) :
    merged entries environment r = .error .panicked := by
  obtain ⟨below, hbelow⟩ :=
    Tree.exists_addSource_arrangedAll (fun d hd => (hfile d hd).2) r.fileRank []
  have hnone : Tree.get? name below = none := by
    refine Tree.get?_addSource_of_root_ne hbelow fun d hd => ?_
    obtain ⟨d', hd', rfl⟩ := Tree.mem_arrangedAll.mp hd
    exact (hfile d' hd').1
  rw [merged, hbelow, ok_bind, Tree.lastOfEach_eq_self hlast]
  split
  next =>
    have hmet := Tree.arrangedAll_perm (fun _ => r.variableRank) [] environment
    obtain ⟨before, after, hsplit⟩ :=
      List.append_of_mem (hmet.mem_iff.mpr (List.mem_map_of_mem he))
    have hkeys : ((Tree.arrangedAll (fun _ => r.variableRank) [] environment).map (·.1)).Nodup := by
      rw [(hmet.map (·.1)).nodup_iff, List.map_map]
      exact hlast
    rw [hsplit, List.map_append, List.nodup_append] at hkeys
    rw [hsplit]
    refine Tree.addSource_from_end hpath hindex hnone fun d hd => ?_
    have harranged : d ∈ Tree.arrangedAll (fun _ => r.variableRank) [] environment :=
      hsplit ▸ List.mem_append_left _ hd
    obtain ⟨d', hd', rfl⟩ := Tree.mem_arrangedAll.mp harranged
    exact hothers d' hd' fun hsame =>
      hkeys.2.2 _ (List.mem_map_of_mem hd) _ List.mem_cons_self hsame
  next => rfl

/-- If the environment alone can be read in every order, there is room for whatever its variables
lead to. -/
theorem counted_of_alone {top : Settings} (hscattered : Tree.IsScattered (variableEntries bindings))
    (htop : ∀ ranks, build fs none bindings { r with variableRank := ranks } = .ok top) :
    ∀ e ∈ variableEntries bindings, (KeyPath.ofKey e.1).IsCounted r.room := by
  intro e he
  by_contra hcounted
  obtain ⟨ranks, rest, hfirst⟩ :=
    Tree.exists_arrangedAll_eq_cons [] he hscattered.nodup_keys
  obtain ⟨entries, root, hfile, hroot, -⟩ := build_eq_ok_iff.mp (htop ranks)
  cases hfile
  obtain ⟨-, below, hbelow, hroot⟩ := merged_eq_ok_iff.mp hroot
  rw [Tree.arrangedAll] at hbelow
  cases hbelow
  -- The variable is read first, when there is nothing that it could lead to.
  rw [Tree.lastOfEach_eq_self hscattered.nodup_keys, hfirst, Tree.addSource_cons] at hroot
  obtain ⟨mid, hmid, -⟩ := exists_of_bind_ok hroot
  obtain ⟨t, ht, -⟩ := Tree.set_eq_ok_iff.mp hmid
  obtain ⟨how, hhow⟩ := Tree.exists_place_error hcounted (Tree.arrangedEntry _ [] e).2
  cases hhow.symm.trans ht

/-- A file and the environment, whose variables can be met in any order. -/
theorem build_overlay_of_counted {below top : Settings}
    (hscattered : Tree.IsScattered (variableEntries bindings)) (horder : bindings'.Perm bindings)
    (hcounted : ∀ e ∈ variableEntries bindings, (KeyPath.ofKey e.1).IsCounted r.room)
    (hbelow : build fs file [] r = .ok below) (htop : build fs none bindings r = .ok top)
    (ranks : String → Nat) :
    build fs file bindings' { r with variableRank := ranks } = .ok (below.overlay top) := by
  obtain ⟨entries, lower, hfile, hlower, hbelow⟩ := build_eq_ok_iff.mp hbelow
  obtain ⟨hlegible, lower', hlower', hsame⟩ := merged_eq_ok_iff.mp hlower
  rw [show variableEntries [] = [] from rfl, Tree.lastOfEach, Tree.arrangedAll] at hsame
  cases hsame
  obtain ⟨none', only, hnone, honly, htop⟩ := build_eq_ok_iff.mp htop
  cases hnone
  obtain ⟨-, empty, hempty, honly⟩ := merged_eq_ok_iff.mp honly
  rw [Tree.arrangedAll] at hempty
  cases hempty
  have hmet := metVariables_perm hscattered horder ranks
  obtain ⟨root, hroot⟩ := Tree.exists_addSource
    (fun e he => hcounted e (hmet.mem_iff.mp he)) lower
  refine build_eq_ok_iff.mpr
    ⟨entries, root, hfile, merged_eq_ok_iff.mpr ⟨hlegible, lower, hlower', hroot⟩, ?_⟩
  apply ofTree_of_readField
  intro f
  exact readField_addSource hscattered (fun e he => text_of_mem_variableEntries he) hmet
    (metVariables_perm hscattered (List.Perm.refl _) r.variableRank) hroot honly
    (readField_of_ofTree hbelow f) (readField_of_ofTree htop f)

/-- A file and the environment give together what the settings of the one give with those of the
other laid over them. Reading the environment alone in one order is enough where no name leads to an
item counted from the end. A parameter that a variable names is that variable's text, whatever the
file has in its place. -/
theorem build_overlay (hscattered : Tree.IsScattered (variableEntries bindings))
    (horder : bindings'.Perm bindings) :
    (∀ below top, build fs file [] r = .ok below →
      (∀ ranks, build fs none bindings { r with variableRank := ranks } = .ok top) →
      ∀ ranks,
        build fs file bindings' { r with variableRank := ranks } = .ok (below.overlay top)) ∧
    (∀ below top, (∀ e ∈ variableEntries bindings, (KeyPath.ofKey e.1).IsCounted r.room) →
      build fs file [] r = .ok below → build fs none bindings r = .ok top →
      ∀ ranks,
        build fs file bindings' { r with variableRank := ranks } = .ok (below.overlay top)) ∧
    ∀ f value, variableText? bindings f = some value →
      (∀ e, build fs file bindings' r = .error e → ∃ form origin, e = .wrongType f form origin) →
      ∃ s, build fs file bindings' r = .ok s ∧ s.get f = some value := by
  refine ⟨fun below top hbelow htop ranks => ?_, fun below top hcounted hbelow htop ranks => ?_, ?_⟩
  · exact build_overlay_of_counted hscattered horder (counted_of_alone hscattered htop) hbelow
      (htop r.variableRank) ranks
  · exact build_overlay_of_counted hscattered horder hcounted hbelow htop ranks
  · intro f value hvalue hothers
    have hmet := metVariables_perm hscattered horder r.variableRank
    have hread : ∀ entries root, merged entries (variableEntries bindings') r = .ok root →
        readField root f = .ok (some value) := by
      intro entries root hroot
      obtain ⟨-, below, -, hroot⟩ := merged_eq_ok_iff.mp hroot
      rw [readField, (hscattered.perm hmet).get?_plain hroot
        (hmet.mem_iff.mpr (mem_variableEntries hvalue)) (ofKey_of_lower (lower_key f)) rfl]
    cases hbuild : build fs file bindings' r with
    | ok s =>
      obtain ⟨entries, root, -, hroot, hs⟩ := build_eq_ok_iff.mp hbuild
      exact ⟨s, rfl,
        Except.ok.inj ((readField_of_ofTree hs f).symm.trans (hread entries root hroot))⟩
    | error e =>
      obtain ⟨form, origin, rfl⟩ := hothers e hbuild
      obtain hfile | ⟨entries, -, h⟩ := exists_of_bind_error hbuild
      · cases file with
        | none => cases hfile
        | some file =>
          rw [fileEntries] at hfile
          cases hentries : file.entries fs with
          | ok entries =>
            rw [hentries] at hfile
            cases hfile
          | error e =>
            rw [hentries] at hfile
            cases hfile
      · obtain ⟨_, -, he⟩ | ⟨root, g, form', origin', hroot, hg, he⟩ := error_of_ofSources h
        · cases he
        · cases he
          cases (hread entries root hroot).symm.trans hg

end Build

/-- Variables of which only one is a parameter's. -/
def sampleVariables : List (String × String) :=
  [("FLUME_launcher_VERSION", ""), ("FLUME_LAUNCHER_other[0]", "x"), ("HOME", "/")]

/-- A machine with a settings file in which the version is a list. -/
def listFiles : FileSystem where
  workingDirectory := "/work"
  read path :=
    if path = "/work/agent.toml" then .contents "version = ['1']\nagent_name = 'a'\n".toUTF8
    else .missing

theorem listFiles_entries : fileEntries listFiles (some ⟨"agent.toml", true⟩) =
    .ok [("version", .list (some "agent.toml") [.text "1"]), ("agent_name", .text "a")] := by
  have htoml : Toml.Document.read? "version = ['1']\nagent_name = 'a'\n" =
      some [("version", .array [.scalar (.string "1")]),
        ("agent_name", .scalar (.string "a"))] := by
    cbv
  rw [fileEntries_of_reads (reads_agent rfl rfl) htoml]
  rfl

theorem build_overlay_sample :
    build sampleFiles (some ⟨"agent.toml", true⟩) sampleVariables.reverse shortestFirst =
      .ok ⟨none, some "", none, some "a", none⟩ ∧
    ∃ s, build listFiles (some ⟨"agent.toml", true⟩) sampleVariables.reverse shortestFirst = .ok s ∧
      s.get .version = some "" := by
  have hscattered : Tree.IsScattered (variableEntries sampleVariables) := by decide +kernel
  have hcounted : ∀ e ∈ variableEntries sampleVariables,
      (KeyPath.ofKey e.1).IsCounted shortestFirst.room := by
    decide +kernel
  have horder : sampleVariables.reverse.Perm sampleVariables := List.reverse_perm _
  have halone : ∀ ranks, build sampleFiles none sampleVariables
      { shortestFirst with variableRank := ranks } = .ok ⟨none, some "", none, none, none⟩ :=
    (build_overlay hscattered (List.Perm.refl _)).2.1 .empty ⟨none, some "", none, none, none⟩
      hcounted rfl rfl
  constructor
  · refine (build_overlay hscattered horder).1 ⟨none, some "1", none, some "a", none⟩
      ⟨none, some "", none, none, none⟩ ?_ halone String.length
    rw [build_of_entries sampleFiles_entries]
    rfl
  · refine (build_overlay hscattered horder).2.2 .version "" (by decide +kernel) fun e hfails => ?_
    rw [build_of_entries listFiles_entries] at hfails
    cases hfails

/-- The version is a variable's, and another variable counts from the end of a list. -/
def countedVariables : List (String × String) :=
  [("FLUME_LAUNCHER_VERSION", "2"), ("FLUME_LAUNCHER_X[-1]", "x")]

/-- Two variables of which one counts from the end of the list that the other one begins. -/
def itemVariables : List (String × String) :=
  [("FLUME_LAUNCHER_X[0]", "a"), ("FLUME_LAUNCHER_X[-1]", "b")]

/-- No run finds the version in its variable, although nothing is wrong with the parameters. Of two
orders in which the environment alone is met, only one gives settings. -/
theorem counted_variable_hides_version :
    (Tree.IsScattered (variableEntries countedVariables) ∧
      variableText? countedVariables .version = some "2" ∧
      ∀ r : Reading, build listFiles (some ⟨"agent.toml", true⟩) countedVariables r =
        .error (.file (.brokenOff .panicked))) ∧
    Tree.IsScattered (variableEntries itemVariables) ∧
    build listFiles none itemVariables shortestFirst = .ok .empty ∧
    build listFiles none itemVariables longestFirst = .error (.file (.brokenOff .panicked)) := by
  refine ⟨⟨by decide +kernel, by decide +kernel, fun r => ?_⟩, by decide +kernel, by decide +kernel,
    by decide +kernel⟩
  have hpath : KeyPath.ofKey "x[-1]" = ⟨"x", [.item (-1)]⟩ := by decide +kernel
  have hplain (key : String) (hkey : KeyPath.ofKey key = ⟨key, []⟩) (hne : key ≠ "x") :
      (KeyPath.ofKey key).root ≠ "x" ∧ (KeyPath.ofKey key).IsCounted r.room := by
    rw [hkey]
    exact ⟨hne, nofun⟩
  have hversion := hplain "version" (by decide +kernel) (by decide)
  have hagentName := hplain "agent_name" (by decide +kernel) (by decide)
  have hvariables : variableEntries countedVariables =
      [("version", .text "2"), ("x[-1]", .text "x")] := rfl
  have hmerged : merged
      [("version", .list (some "agent.toml") [.text "1"]), ("agent_name", .text "a")]
      [("version", .text "2"), ("x[-1]", .text "x")] r = .error .panicked := by
    refine merged_from_end (e := ("x[-1]", .text "x")) (by decide) (by simp) hpath (by decide)
      (by simp [hversion, hagentName]) ?_
    simp [hversion]
  rw [build_of_entries listFiles_entries, hvariables, ofSources, hmerged]
  rfl

end AgentLaunch.Settings
