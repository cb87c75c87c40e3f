import Mathlib
import AgentLaunch.Proofs.Settings.Joint

/-!
# Foreign entries

What a source puts beside the parameters is of no effect on them. The value of a name only depends
on the entries whose paths begin with it, so that all entries that begin with no parameter can be
left out. All that they can do is break the run off.
-/

namespace AgentLaunch.Settings

/-- The path that a key is begins with a parameter. -/
def isOwn (key : String) : Bool :=
  Field.all.any fun f => (KeyPath.ofKey key).root = f.key

/-- The entries that begin with a parameter. -/
def ownOf (source : List (String × Tree)) : List (String × Tree) :=
  source.filter (isOwn ·.1)

/-- The parameters have the same values. -/
def SameParameters (root root' : List (String × Tree)) : Prop :=
  ∀ f : Field, Tree.get? f.key root = Tree.get? f.key root'

theorem isOwn_iff {key : String} :
    isOwn key = true ↔ ∃ f : Field, (KeyPath.ofKey key).root = f.key := by
  rw [isOwn, List.any_eq_true]
  constructor
  · rintro ⟨f, -, hf⟩
    exact ⟨f, of_decide_eq_true hf⟩
  · rintro ⟨f, hf⟩
    exact ⟨f, f.mem_all, decide_eq_true hf⟩

theorem SameParameters.ofTree_eq {root root' : List (String × Tree)}
    (h : SameParameters root root') : ofTree root = ofTree root' := by
  have hread : ∀ f : Field, readField root f = readField root' f :=
    fun f => by rw [readField, readField, h f]
  simp only [ofTree, hread]

section Set

variable {room : Nat} {root root' next : List (String × Tree)} {key : String} {t : Tree}

theorem SameParameters.set_foreign (h : SameParameters root root') (hkey : isOwn key = false)
    (hset : Tree.set room root (KeyPath.ofKey key) t = .ok next) : SameParameters next root' := by
  intro f
  have hne : (KeyPath.ofKey key).root ≠ f.key := by
    intro hroot
    rw [isOwn_iff.mpr ⟨f, hroot⟩] at hkey
    cases hkey
  rw [Tree.get?_set_of_root_ne hset hne, h f]

/-- What becomes of an entry that begins with a parameter depends on the parameters alone. -/
theorem SameParameters.set_own (h : SameParameters root root') (room : Nat)
    (hkey : isOwn key = true) :
    (∃ how, Tree.set room root (KeyPath.ofKey key) t = .error how ∧
      Tree.set room root' (KeyPath.ofKey key) t = .error how) ∨
    ∃ next next', Tree.set room root (KeyPath.ofKey key) t = .ok next ∧
      Tree.set room root' (KeyPath.ofKey key) t = .ok next' ∧ SameParameters next next' := by
  obtain ⟨f, hf⟩ := isOwn_iff.mp hkey
  have hvalue : Tree.get? (KeyPath.ofKey key).root root =
      Tree.get? (KeyPath.ofKey key).root root' := by
    rw [hf]
    exact h f
  cases hplace : Tree.place room t (KeyPath.ofKey key).steps
      (Tree.get? (KeyPath.ofKey key).root root) with
  | error how =>
    refine .inl ⟨how, ?_, ?_⟩
    · rw [Tree.set, hplace]
      rfl
    · rw [Tree.set, ← hvalue, hplace]
      rfl
  | ok placed =>
    refine .inr ⟨_, _, Tree.set_eq_ok_iff.mpr ⟨placed, hplace, rfl⟩,
      Tree.set_eq_ok_iff.mpr ⟨placed, hvalue ▸ hplace, rfl⟩, fun g => ?_⟩
    by_cases hg : g.key = (KeyPath.ofKey key).root
    · rw [hg, Tree.get?_put_self, Tree.get?_put_self]
    · rw [Tree.get?_put_of_ne hg, Tree.get?_put_of_ne hg, h g]

end Set

section AddSource

variable {room : Nat} {root root' next : List (String × Tree)} {source : List (String × Tree)}

theorem ownOf_cons (e : String × Tree) (rest : List (String × Tree)) :
    ownOf (e :: rest) = if isOwn e.1 then e :: ownOf rest else ownOf rest :=
  List.filter_cons

/-- A source that is merged gives the parameters what its own entries give them. -/
theorem SameParameters.addSource (h : SameParameters root root')
    (hadd : Tree.addSource room root source = .ok next) :
    ∃ next', Tree.addSource room root' (ownOf source) = .ok next' ∧ SameParameters next next' := by
  induction source generalizing root root' with
  | nil =>
    cases hadd
    exact ⟨root', rfl, h⟩
  | cons e rest ih =>
    rw [Tree.addSource_cons] at hadd
    obtain ⟨mid, hmid, hrest⟩ := exists_of_bind_ok hadd
    rw [ownOf_cons]
    cases hkey : isOwn e.1 with
    | false => exact ih (h.set_foreign hkey hmid) hrest
    | true =>
      rw [if_pos rfl, Tree.addSource_cons]
      obtain ⟨how, hhow, -⟩ | ⟨mid', next', hmid', hnext', hsame⟩ := h.set_own room hkey
      · cases hhow.symm.trans hmid
      · cases hmid'.symm.trans hmid
        rw [hnext', ok_bind]
        exact ih hsame hrest

/-- If there is room for all foreign entries, it is the own ones that break the run off. -/
theorem SameParameters.addSource_error (h : SameParameters root root')
    (hforeign : ∀ e ∈ source, isOwn e.1 = false → (KeyPath.ofKey e.1).IsCounted room)
    {how : Breakage} (hadd : Tree.addSource room root source = .error how) :
    Tree.addSource room root' (ownOf source) = .error how := by
  induction source generalizing root root' with
  | nil => cases hadd
  | cons e rest ih =>
    have hrest : ∀ e' ∈ rest, isOwn e'.1 = false → (KeyPath.ofKey e'.1).IsCounted room :=
      fun e' he' => hforeign e' (List.mem_cons_of_mem e he')
    rw [Tree.addSource_cons] at hadd
    rw [ownOf_cons]
    cases hkey : isOwn e.1 with
    | false =>
      obtain ⟨mid, hmid⟩ := Tree.exists_set (hforeign e List.mem_cons_self hkey) root e.2
      rw [hmid, ok_bind] at hadd
      exact ih (h.set_foreign hkey hmid) hrest hadd
    | true =>
      rw [if_pos rfl, Tree.addSource_cons]
      obtain ⟨how', hhow, hhow'⟩ | ⟨mid, mid', hmid, hmid', hsame⟩ := h.set_own room hkey
      · rw [hhow] at hadd
        rw [hhow']
        exact hadd
      · rw [hmid, ok_bind] at hadd
        rw [hmid', ok_bind]
        exact ih hsame hrest hadd

end AddSource

section Whole

variable {fs : FileSystem} {file : Option File} {bindings : List (String × String)}
  {entries environment : List (String × Tree)} {r : Reading}

/-- Finding settings does not break the run off. -/
def IsWhole (found : Except LoadError Settings) : Prop :=
  ∀ e, found = .error e → e.breakage? = none

theorem exists_merged_of_isWhole (h : IsWhole (ofSources entries environment r)) :
    ∃ root, merged entries environment r = .ok root := by
  cases hmerged : merged entries environment r with
  | ok root => exact ⟨root, rfl⟩
  | error how =>
    have hbroken : ofSources entries environment r = .error (.file (.brokenOff how)) := by
      rw [ofSources, hmerged]
      rfl
    cases h _ hbroken

theorem isWhole_of_merged {root : List (String × Tree)}
    (h : merged entries environment r = .ok root) : IsWhole (ofSources entries environment r) := by
  intro e he
  obtain ⟨how, hhow, -⟩ | ⟨_, f, form, origin, -, -, rfl⟩ := error_of_ofSources he
  · cases h.symm.trans hhow
  · rfl

/-- There is room for whatever the keys of the file and the names of the variables lead to. -/
structure HasRoom (room : Nat) (fs : FileSystem) (file : Option File)
    (bindings : List (String × String)) : Prop where
  file : ∀ entries, fileEntries fs file = .ok entries →
    ∀ e ∈ entries, (KeyPath.ofKey e.1).IsCounted room
  environment : ∀ e ∈ variableEntries bindings, (KeyPath.ofKey e.1).IsCounted room

/-- A run with room for everything and variables that are text is not broken off. -/
theorem HasRoom.isWhole_build (h : HasRoom r.room fs file bindings) (hlegible : r.legible = true) :
    IsWhole (build fs file bindings r) := by
  cases hfile : fileEntries fs file with
  | error e =>
    intro e' he'
    rw [build, hfile] at he'
    cases he'
    exact breakage?_of_fileEntries hfile
  | ok entries =>
    rw [build_of_entries hfile]
    obtain ⟨below, hbelow⟩ := Tree.exists_addSource_arrangedAll (h.file entries hfile) r.fileRank []
    have hlast : ∀ e ∈ Tree.lastOfEach (variableEntries bindings),
        (KeyPath.ofKey e.1).IsCounted r.room :=
      fun e he => h.environment e ((Tree.lastOfEach_sublist _).subset he)
    obtain ⟨root, hroot⟩ := Tree.exists_addSource_arrangedAll hlast (fun _ => r.variableRank) below
    exact isWhole_of_merged (merged_eq_ok_iff.mpr ⟨hlegible, below, hbelow, hroot⟩)

end Whole

section Sources

variable {file environment : List (String × Tree)} {r : Reading}

theorem ownOf_arrangedAll (rank : List String → String → Nat) (source : List (String × Tree)) :
    ownOf (Tree.arrangedAll rank [] source) = Tree.arrangedAll rank [] (ownOf source) :=
  Tree.filter_arrangedAll isOwn

theorem ownOf_lastOfEach (source : List (String × Tree)) :
    ownOf (Tree.lastOfEach source) = Tree.lastOfEach (ownOf source) :=
  Tree.filter_lastOfEach isOwn

theorem isCounted_of_mem_arrangedAll {room : Nat} {source : List (String × Tree)}
    {rank : List String → String → Nat}
    (h : ∀ e ∈ source, isOwn e.1 = false → (KeyPath.ofKey e.1).IsCounted room) :
    ∀ e ∈ Tree.arrangedAll rank [] source, isOwn e.1 = false →
      (KeyPath.ofKey e.1).IsCounted room := by
  intro e he
  obtain ⟨d, hd, rfl⟩ := Tree.mem_arrangedAll.mp he
  exact h d hd

/-- Of a file and of the environment, only what begins with a parameter counts, unless the run is
broken off. -/
theorem ofSources_own (h : IsWhole (ofSources file environment r)) :
    ofSources file environment r = ofSources (ownOf file) (ownOf environment) r := by
  obtain ⟨root, hmerged⟩ := exists_merged_of_isWhole h
  obtain ⟨hlegible, below, hbelow, hroot⟩ := merged_eq_ok_iff.mp hmerged
  have hempty : SameParameters [] [] := fun _ => rfl
  obtain ⟨below', hbelow', hlower⟩ := hempty.addSource hbelow
  obtain ⟨root', hroot', hsame⟩ := hlower.addSource hroot
  rw [ownOf_arrangedAll] at hbelow'
  rw [ownOf_arrangedAll, ownOf_lastOfEach] at hroot'
  have hmerged' := merged_eq_ok_iff.mpr ⟨hlegible, below', hbelow', hroot'⟩
  rw [ofSources, ofSources, hmerged, hmerged']
  exact hsame.ofTree_eq

/-- If there is room for whatever the foreign entries lead to, they cannot break the run off. -/
theorem ofSources_own_of_counted
    (hfile : ∀ e ∈ file, isOwn e.1 = false → (KeyPath.ofKey e.1).IsCounted r.room)
    (henvironment : ∀ e ∈ environment, isOwn e.1 = false → (KeyPath.ofKey e.1).IsCounted r.room) :
    ofSources file environment r = ofSources (ownOf file) (ownOf environment) r := by
  cases hmerged : merged file environment r with
  | ok root => exact ofSources_own (isWhole_of_merged hmerged)
  | error how =>
    have hempty : SameParameters [] [] := fun _ => rfl
    have hown : merged (ownOf file) (ownOf environment) r = .error how := by
      obtain hbelow | ⟨below, hbelow, hrest⟩ := exists_of_bind_error hmerged
      · have hbelow' := hempty.addSource_error (isCounted_of_mem_arrangedAll hfile) hbelow
        rw [ownOf_arrangedAll] at hbelow'
        rw [merged, hbelow']
        rfl
      · obtain ⟨below', hbelow', hlower⟩ := hempty.addSource hbelow
        rw [ownOf_arrangedAll] at hbelow'
        rw [merged, hbelow', ok_bind]
        split at hrest
        next hlegible =>
          have hlast := hlower.addSource_error (isCounted_of_mem_arrangedAll fun e he =>
            henvironment e ((Tree.lastOfEach_sublist environment).subset he)) hrest
          rw [ownOf_arrangedAll, ownOf_lastOfEach] at hlast
          rw [if_pos hlegible, hlast]
        next hlegible =>
          rw [if_neg hlegible]
          exact hrest
    rw [ofSources, ofSources, hmerged, hown]

end Sources

end AgentLaunch.Settings
