import Mathlib
import AgentLaunch.Proofs.Settings.Foreign

/-!
# Sources in which no order counts

Where no source gives a parameter more than once, it does not matter in which order the entries are
met: two runs come to the same settings or to the same error, unless one of them is broken off.
-/

namespace AgentLaunch

namespace Tree

/-- What of a value decides how it is read, and what it becomes under another one. -/
inductive Outline where
  | unset
  | text (s : String)
  | list (origin : Option String)
  | table (isEmpty : Bool)

namespace Outline

def origin? : Option Outline → Option String
  | some (.list origin) => origin
  | _ => none

/-- A table without entries leaves what it is laid over. -/
def laidOver : Outline → Option Outline → Outline
  | .table true, old => old.getD (.table true)
  | new, _ => new

/-- What a value becomes when another one is laid over what some steps lead to from it. -/
def placed (new : Outline) : List KeyPath.Step → Option Outline → Outline
  | [], old => new.laidOver old
  | .entry _ :: _, _ => .table false
  | .item _ :: _, old => .list (origin? old)

end Outline

def outline : Tree → Outline
  | .unset => .unset
  | .text s => .text s
  | .list origin _ => .list origin
  | .table es => .table es.isEmpty

section Outline

variable {room : Nat} {name : String} {new t : Tree} {old : Option Tree} {es : List (String × Tree)}

theorem outline_arranged (rank : List String → String → Nat) (above : List String) (t : Tree) :
    (t.arranged rank above).outline = t.outline := by
  cases t with
  | unset | text | list =>
    rw [arranged]
    rintro es ⟨⟩
  | table es =>
    rw [arranged, outline, outline, (arrangedAll_perm rank above es).isEmpty_eq, List.isEmpty_map]

theorem isEmpty_put : (put name t es).isEmpty = false := by
  cases es with
  | nil => rfl
  | cons e rest =>
    rw [put]
    split <;> rfl

theorem outline_laidOverAll (e : String × Tree) (rest : List (String × Tree)) (below : Tree) :
    (laidOverAll (e :: rest) below).outline = .table false := by
  induction rest generalizing e below with
  | nil => rw [laidOverAll, laidOverAll, outline, isEmpty_put]
  | cons d rest ih =>
    rw [laidOverAll]
    exact ih d _

theorem outline_laidOver (new : Tree) (old : Option Tree) :
    (new.laidOver old).outline = new.outline.laidOver (old.map outline) := by
  cases new with
  | unset | text | list =>
    rw [laidOver]
    · rfl
    · exact nofun
  | table es =>
    rw [laidOver]
    cases es with
    | nil =>
      rw [laidOverAll]
      cases old <;> rfl
    | cons e rest =>
      rw [outline_laidOverAll]
      rfl

theorem items_fst (old : Option Tree) : (items old).1 = Outline.origin? (old.map outline) := by
  cases old with
  | none => rfl
  | some t => cases t <;> rfl

theorem outline_place {steps : List KeyPath.Step} (ht : place room new steps old = .ok t) :
    t.outline = new.outline.placed steps (old.map outline) := by
  cases steps with
  | nil =>
    cases ht
    exact outline_laidOver new old
  | cons step rest =>
    cases step with
    | entry name =>
      obtain ⟨_, -, ht⟩ := exists_of_bind_ok ht
      cases ht
      rw [outline, isEmpty_put, Outline.placed]
    | item index =>
      obtain ⟨_, -, ht⟩ := exists_of_bind_ok ht
      obtain ⟨_, -, ht⟩ := exists_of_bind_ok ht
      cases ht
      exact congrArg Outline.list (items_fst old)

end Outline

section AddSource

variable {room : Nat} {name : String} {root root' : List (String × Tree)}
  {source : List (String × Tree)}

/-- The only entry of a source that begins with a name decides what becomes of that name. -/
theorem get?_addSource_alone {before after : List (String × Tree)} {e : String × Tree}
    (hadd : addSource room root (before ++ e :: after) = .ok root')
    (hroot : (KeyPath.ofKey e.1).root = name)
    (hbefore : ∀ e' ∈ before, (KeyPath.ofKey e'.1).root ≠ name)
    (hafter : ∀ e' ∈ after, (KeyPath.ofKey e'.1).root ≠ name) :
    ∃ t, place room e.2 (KeyPath.ofKey e.1).steps (get? name root) = .ok t ∧
      get? name root' = some t := by
  rw [addSource_append] at hadd
  obtain ⟨mid, hmid, hadd⟩ := exists_of_bind_ok hadd
  rw [addSource_cons] at hadd
  obtain ⟨next, hnext, hrest⟩ := exists_of_bind_ok hadd
  obtain ⟨t, ht, rfl⟩ := set_eq_ok_iff.mp hnext
  rw [hroot, get?_addSource_of_root_ne hmid hbefore] at ht
  refine ⟨t, ht, ?_⟩
  rw [get?_addSource_of_root_ne hrest hafter, hroot]
  exact get?_put_self name t mid

/-- The path that a key is begins with a name. -/
def beginsWith (name key : String) : Bool :=
  (KeyPath.ofKey key).root = name

theorem beginsWith_iff {key : String} :
    beginsWith name key = true ↔ (KeyPath.ofKey key).root = name :=
  decide_eq_true_iff

theorem countP_arrangedAll (rank : List String → String → Nat) :
    (arrangedAll rank [] source).countP (beginsWith name ·.1) =
      source.countP (beginsWith name ·.1) := by
  have hkey : ∀ e : String × Tree, (arrangedEntry rank [] e).1 = e.1 := fun _ => rfl
  simp only [(arrangedAll_perm rank [] source).countP_eq, List.countP_map, Function.comp_def, hkey]

theorem root_ne_of_countP (h : source.countP (beginsWith name ·.1) = 0) :
    ∀ e ∈ source, (KeyPath.ofKey e.1).root ≠ name :=
  fun e he hroot => List.countP_eq_zero.mp h e he (beginsWith_iff.mpr hroot)

/-- In whatever order a source is met that gives a name at most once, the name gets a value with the
same outline. -/
theorem outline_addSource {rank : List String → String → Nat}
    (honce : source.countP (beginsWith name ·.1) ≤ 1)
    (hadd : addSource room root (arrangedAll rank [] source) = .ok root') :
    (get? name root').map outline = match source.find? (beginsWith name ·.1) with
      | none => (get? name root).map outline
      | some e =>
        some (e.2.outline.placed (KeyPath.ofKey e.1).steps ((get? name root).map outline)) := by
  rw [← countP_arrangedAll rank] at honce
  cases hgiven : source.find? (beginsWith name ·.1) with
  | none =>
    have hnone := List.find?_eq_none.mp hgiven
    refine congrArg _ (get?_addSource_of_root_ne hadd fun e he hroot => ?_)
    obtain ⟨d, hd, rfl⟩ := mem_arrangedAll.mp he
    exact hnone d hd (beginsWith_iff.mpr hroot)
  | some e =>
    have hbegins := List.find?_some hgiven
    change beginsWith name (arrangedEntry rank [] e).1 = true at hbegins
    obtain ⟨before, after, hsplit⟩ := List.append_of_mem <|
      mem_arrangedAll.mpr ⟨e, List.mem_of_find?_eq_some hgiven, rfl⟩
    rw [hsplit, List.countP_append, List.countP_cons_of_pos (by exact hbegins)] at honce
    rw [hsplit] at hadd
    obtain ⟨t, ht, hvalue⟩ := get?_addSource_alone hadd (beginsWith_iff.mp hbegins)
      (root_ne_of_countP (by omega)) (root_ne_of_countP (by omega))
    have houtline := outline_place ht
    rw [arrangedEntry, outline_arranged] at houtline
    rw [hvalue, Option.map_some, houtline]

end AddSource

end Tree

namespace Settings

/-- No parameter is given more than once. -/
def IsUnambiguous (source : List (String × Tree)) : Prop :=
  ∀ f : Field, source.countP (Tree.beginsWith f.key ·.1) ≤ 1

theorem isUnambiguous_iff {source : List (String × Tree)} : IsUnambiguous source ↔
    ∀ f ∈ Field.all, source.countP (Tree.beginsWith f.key ·.1) ≤ 1 :=
  ⟨fun h f _ => h f, fun h f => h f f.mem_all⟩

instance (source : List (String × Tree)) : Decidable (IsUnambiguous source) :=
  decidable_of_iff _ isUnambiguous_iff.symm

/-- Neither the file nor the environment gives a parameter more than once. Variables whose names are
the same in small letters are one. -/
structure IsSettled (fs : FileSystem) (file : Option File) (bindings : List (String × String)) :
    Prop where
  file : ∀ entries, fileEntries fs file = .ok entries → IsUnambiguous entries
  environment : IsUnambiguous (Tree.lastOfEach (variableEntries bindings))

/-- Of a parameter's value only the outline is read. -/
theorem readField_eq (root : List (String × Tree)) (f : Field) :
    readField root f = match (Tree.get? f.key root).map Tree.outline with
      | none | some .unset => .ok none
      | some (.text s) => .ok (some s)
      | some (.list origin) => .error (.wrongType f .sequence origin)
      | some (.table _) => .error (.wrongType f .map none) := by
  rw [readField]
  cases Tree.get? f.key root with
  | none => rfl
  | some t => cases t <;> rfl

section Build

variable {fs : FileSystem} {file : Option File} {bindings : List (String × String)}
  {r r' : Reading}

/-- Where no order counts, two runs that are not broken off find the same. -/
theorem ofSources_settled {entries environment : List (String × Tree)}
    (hentries : IsUnambiguous entries)
    (henvironment : IsUnambiguous (Tree.lastOfEach environment))
    (hwhole : IsWhole (ofSources entries environment r))
    (hwhole' : IsWhole (ofSources entries environment r')) :
    ofSources entries environment r = ofSources entries environment r' := by
  obtain ⟨root, hmerged⟩ := exists_merged_of_isWhole hwhole
  obtain ⟨root', hmerged'⟩ := exists_merged_of_isWhole hwhole'
  obtain ⟨-, below, hbelow, hroot⟩ := merged_eq_ok_iff.mp hmerged
  obtain ⟨-, below', hbelow', hroot'⟩ := merged_eq_ok_iff.mp hmerged'
  have hread : ∀ f : Field, readField root f = readField root' f := by
    intro f
    rw [readField_eq, readField_eq, Tree.outline_addSource (henvironment f) hroot,
      Tree.outline_addSource (henvironment f) hroot', Tree.outline_addSource (hentries f) hbelow,
      Tree.outline_addSource (hentries f) hbelow']
  rw [ofSources, ofSources, hmerged, hmerged']
  change ofTree root = ofTree root'
  simp only [ofTree, hread]

theorem build_settled (h : IsSettled fs file bindings) (hwhole : IsWhole (build fs file bindings r))
    (hwhole' : IsWhole (build fs file bindings r')) :
    build fs file bindings r = build fs file bindings r' := by
  cases hfile : fileEntries fs file with
  | error e => rw [build, build, hfile, error_bind, error_bind]
  | ok entries =>
    rw [build_of_entries hfile] at hwhole hwhole' ⊢
    rw [build_of_entries hfile]
    exact ofSources_settled (h.file entries hfile) h.environment hwhole hwhole'

end Build

end Settings

end AgentLaunch
