import Mathlib
import AgentLaunch.Proofs.Bind
import AgentLaunch.Proofs.Settings.Order

/-!
# Merging the entries of a source

Which entries can be merged whatever is there already, and what becomes of a name at the top. Where
the entries of a source lead neither to the same place nor one into the value of another, each of
them decides alone: a plain one gives its value, and one that leads further makes a list or a table.
-/

namespace AgentLaunch

namespace KeyPath

/-- A path leads to where another one leads, or further on from there. -/
def IsWithin (p q : KeyPath) : Prop :=
  p.root = q.root ∧ q.steps <+: p.steps

/-- Neither of two paths leads into what the other one leads to. -/
def Apart (p q : KeyPath) : Prop :=
  ¬ p.IsWithin q ∧ ¬ q.IsWithin p

instance (p q : KeyPath) : Decidable (p.IsWithin q) :=
  inferInstanceAs (Decidable (p.root = q.root ∧ q.steps <+: p.steps))

instance (p q : KeyPath) : Decidable (p.Apart q) :=
  inferInstanceAs (Decidable (¬ p.IsWithin q ∧ ¬ q.IsWithin p))

theorem Apart.symm {p q : KeyPath} (h : p.Apart q) : q.Apart p :=
  ⟨h.2, h.1⟩

theorem Apart.root_ne {p q : KeyPath} (h : p.Apart q) (hp : p.steps = []) : q.root ≠ p.root := by
  intro hroot
  exact h.2 ⟨hroot, hp ▸ List.nil_prefix⟩

/-- An item counted from the front, for which there is room in any list. -/
def Step.IsCounted (room : Nat) : Step → Prop
  | .entry _ => True
  | .item index => 0 ≤ index ∧ index.toNat < room

instance (room : Nat) : DecidablePred (Step.IsCounted room)
  | .entry _ => inferInstanceAs (Decidable True)
  | .item index => inferInstanceAs (Decidable (0 ≤ index ∧ index.toNat < room))

/-- All items that a path leads through are counted from the front, and there is room for them. -/
def IsCounted (room : Nat) (p : KeyPath) : Prop :=
  ∀ step ∈ p.steps, step.IsCounted room

instance (room : Nat) (p : KeyPath) : Decidable (p.IsCounted room) :=
  inferInstanceAs (Decidable (∀ step ∈ p.steps, step.IsCounted room))

end KeyPath

namespace Tree

section Place

variable {room : Nat} {index : Int} {steps : List KeyPath.Step}

theorem placeOf_counted (h : 0 ≤ index ∧ index.toNat < room) (length : Nat) :
    placeOf room index length = .ok index.toNat := by
  rw [placeOf, if_neg (by omega), if_pos (.inr h.2)]

/-- In an empty list every other item is out of reach. -/
theorem placeOf_zero (h : ¬ (0 ≤ index ∧ index.toNat < room)) :
    ∃ how, placeOf room index 0 = .error how := by
  unfold placeOf
  split
  · rw [if_neg (by omega)]
    exact ⟨_, rfl⟩
  · rw [if_neg (by omega)]
    split <;> exact ⟨_, rfl⟩

theorem exists_place (h : ∀ step ∈ steps, step.IsCounted room) (new : Tree) (old : Option Tree) :
    ∃ t, place room new steps old = .ok t := by
  induction steps generalizing old with
  | nil => exact ⟨_, rfl⟩
  | cons step rest ih =>
    have hrest : ∀ step ∈ rest, step.IsCounted room :=
      fun step' hstep' => h step' (List.mem_cons_of_mem step hstep')
    cases step with
    | entry name =>
      obtain ⟨t, ht⟩ := ih hrest (get? name (entries old))
      rw [place, ht]
      exact ⟨_, rfl⟩
    | item index =>
      obtain ⟨t, ht⟩ := ih hrest (if rest = [] then none else (items old).2[index.toNat]?)
      simp only [place, placeOf_counted (h _ List.mem_cons_self), ok_bind, ht]
      exact ⟨_, rfl⟩

/-- Where nothing is there yet, nothing else can be placed. -/
theorem exists_place_error (h : ¬ ∀ step ∈ steps, step.IsCounted room) (new : Tree) :
    ∃ how, place room new steps none = .error how := by
  induction steps with
  | nil => exact absurd nofun h
  | cons step rest ih =>
    cases step with
    | entry name =>
      obtain ⟨how, hhow⟩ := ih fun hrest => h <| List.forall_mem_cons.mpr ⟨trivial, hrest⟩
      have hnone : get? name (entries none) = none := rfl
      rw [place, hnone, hhow]
      exact ⟨how, rfl⟩
    | item index =>
      have hitems : items none = (none, []) := rfl
      by_cases hindex : 0 ≤ index ∧ index.toNat < room
      · have hrest : ¬ ∀ step ∈ rest, step.IsCounted room :=
          fun hrest => h (List.forall_mem_cons.mpr ⟨hindex, hrest⟩)
        obtain ⟨how, hhow⟩ := ih hrest
        simp only [place, hitems, List.length_nil, placeOf_counted hindex, ok_bind,
          List.getElem?_nil, ite_self, hhow]
        exact ⟨how, rfl⟩
      · obtain ⟨how, hhow⟩ := placeOf_zero hindex
        simp only [place, hitems, List.length_nil, hhow]
        exact ⟨how, rfl⟩

end Place

/-- A list or a table. -/
def IsBranch : Tree → Prop
  | .list .. | .table .. => True
  | .unset | .text _ => False

/-- The name has a list or a table for its value. -/
def BranchesAt (name : String) (root : List (String × Tree)) : Prop :=
  ∃ t, get? name root = some t ∧ t.IsBranch

section Set

variable {room : Nat} {name : String} {root root' : List (String × Tree)} {path : KeyPath}
  {new : Tree}

theorem isBranch_place {steps : List KeyPath.Step} (h : steps ≠ []) {old : Option Tree} {t : Tree}
    (ht : place room new steps old = .ok t) : t.IsBranch := by
  cases steps with
  | nil => exact absurd rfl h
  | cons step rest =>
    cases step with
    | entry name =>
      obtain ⟨_, -, ht⟩ := exists_of_bind_ok ht
      cases ht
      exact trivial
    | item index =>
      obtain ⟨_, -, ht⟩ := exists_of_bind_ok ht
      obtain ⟨_, -, ht⟩ := exists_of_bind_ok ht
      cases ht
      exact trivial

theorem set_eq_ok_iff : set room root path new = .ok root' ↔
    ∃ t, place room new path.steps (get? path.root root) = .ok t ∧
      put path.root t root = root' := by
  constructor
  · intro h
    obtain ⟨t, ht, h⟩ := exists_of_bind_ok h
    exact ⟨t, ht, Except.ok.inj h⟩
  · rintro ⟨t, ht, rfl⟩
    rw [set, ht]
    rfl

theorem exists_set (h : path.IsCounted room) (root : List (String × Tree)) (new : Tree) :
    ∃ root', set room root path new = .ok root' := by
  obtain ⟨t, ht⟩ := exists_place h new (get? path.root root)
  exact ⟨_, set_eq_ok_iff.mpr ⟨t, ht, rfl⟩⟩

theorem get?_set_of_root_ne (h : set room root path new = .ok root') (hne : path.root ≠ name) :
    get? name root' = get? name root := by
  obtain ⟨t, -, rfl⟩ := set_eq_ok_iff.mp h
  exact get?_put_of_ne (Ne.symm hne) t root

theorem branchesAt_set (h : set room root path new = .ok root') (hroot : path.root = name)
    (hsteps : path.steps ≠ []) : BranchesAt name root' := by
  obtain ⟨t, ht, rfl⟩ := set_eq_ok_iff.mp h
  subst hroot
  exact ⟨t, get?_put_self _ _ root, isBranch_place hsteps ht⟩

theorem BranchesAt.set (hbranch : BranchesAt name root) (h : set room root path new = .ok root')
    (hsteps : path.root = name → path.steps ≠ []) : BranchesAt name root' := by
  by_cases hroot : path.root = name
  · exact branchesAt_set h hroot (hsteps hroot)
  · rw [BranchesAt, get?_set_of_root_ne h hroot]
    exact hbranch

end Set

section AddSource

variable {room : Nat} {name : String} {root root' : List (String × Tree)}
  {source : List (String × Tree)} {e : String × Tree}

theorem addSource_cons (root : List (String × Tree)) (e : String × Tree)
    (rest : List (String × Tree)) : addSource room root (e :: rest) =
      set room root (KeyPath.ofKey e.1) e.2 >>= fun mid => addSource room mid rest :=
  List.foldlM_cons

theorem addSource_append (root before after : List (String × Tree)) :
    addSource room root (before ++ after) =
      addSource room root before >>= fun mid => addSource room mid after :=
  List.foldlM_append

theorem exists_addSource (h : ∀ e ∈ source, (KeyPath.ofKey e.1).IsCounted room)
    (root : List (String × Tree)) : ∃ root', addSource room root source = .ok root' := by
  induction source generalizing root with
  | nil => exact ⟨root, rfl⟩
  | cons e rest ih =>
    obtain ⟨mid, hmid⟩ := exists_set (h e List.mem_cons_self) root e.2
    rw [addSource_cons, hmid, ok_bind]
    exact ih (fun e' he' => h e' (List.mem_cons_of_mem e he')) mid

theorem exists_addSource_arrangedAll (h : ∀ e ∈ source, (KeyPath.ofKey e.1).IsCounted room)
    (rank : List String → String → Nat) (root : List (String × Tree)) :
    ∃ root', addSource room root (arrangedAll rank [] source) = .ok root' := by
  refine exists_addSource (fun e he => ?_) root
  obtain ⟨d, hd, rfl⟩ := mem_arrangedAll.mp he
  exact h d hd

/-- A source leaves the names alone that none of its entries begins with. -/
theorem get?_addSource_of_root_ne (hadd : addSource room root source = .ok root')
    (h : ∀ e ∈ source, (KeyPath.ofKey e.1).root ≠ name) : get? name root' = get? name root := by
  induction source generalizing root with
  | nil =>
    cases hadd
    rfl
  | cons e rest ih =>
    rw [addSource_cons] at hadd
    obtain ⟨mid, hmid, hrest⟩ := exists_of_bind_ok hadd
    rw [ih hrest fun e' he' => h e' (List.mem_cons_of_mem e he'),
      get?_set_of_root_ne hmid (h e List.mem_cons_self)]

theorem BranchesAt.addSource (h : BranchesAt name root)
    (hadd : addSource room root source = .ok root')
    (hsource : ∀ e ∈ source, (KeyPath.ofKey e.1).root = name → (KeyPath.ofKey e.1).steps ≠ []) :
    BranchesAt name root' := by
  induction source generalizing root with
  | nil =>
    cases hadd
    exact h
  | cons e rest ih =>
    rw [addSource_cons] at hadd
    obtain ⟨mid, hmid, hrest⟩ := exists_of_bind_ok hadd
    exact ih (h.set hmid (hsource e List.mem_cons_self)) hrest fun e' he' =>
      hsource e' (List.mem_cons_of_mem e he')

/-- No item can be counted from the end where there is none yet. -/
theorem addSource_from_end {before after : List (String × Tree)} {index : Int}
    {steps : List KeyPath.Step} (hpath : KeyPath.ofKey e.1 = ⟨name, .item index :: steps⟩)
    (hindex : index < 0) (hroot : get? name root = none)
    (hbefore : ∀ d ∈ before, (KeyPath.ofKey d.1).root ≠ name ∧ (KeyPath.ofKey d.1).IsCounted room) :
    addSource room root (before ++ e :: after) = .error .panicked := by
  obtain ⟨mid, hmid⟩ := exists_addSource (fun d hd => (hbefore d hd).2) root
  have hnone : get? name mid = none :=
    (get?_addSource_of_root_ne hmid fun d hd => (hbefore d hd).1).trans hroot
  have hplace : placeOf room index 0 = .error .panicked := by
    rw [placeOf, if_pos hindex, if_neg (by omega)]
  have hset : set room mid (KeyPath.ofKey e.1) e.2 = .error .panicked := by
    have hitems : items none = (none, []) := rfl
    simp only [hpath, set, hnone, place, hitems, List.length_nil, hplace, error_bind]
  rw [addSource_append, hmid, ok_bind, addSource_cons, hset, error_bind]

/-- The last plain entry that a name has is its value. -/
theorem get?_addSource_plain {before after : List (String × Tree)} {s : String}
    (hadd : addSource room root (before ++ e :: after) = .ok root')
    (hpath : KeyPath.ofKey e.1 = ⟨name, []⟩) (htext : e.2 = .text s)
    (hafter : ∀ e' ∈ after, (KeyPath.ofKey e'.1).root ≠ name) :
    get? name root' = some (.text s) := by
  rw [addSource_append] at hadd
  obtain ⟨mid, -, hadd⟩ := exists_of_bind_ok hadd
  rw [addSource_cons] at hadd
  obtain ⟨next, hnext, hrest⟩ := exists_of_bind_ok hadd
  rw [get?_addSource_of_root_ne hrest hafter]
  obtain ⟨t, ht, rfl⟩ := set_eq_ok_iff.mp hnext
  rw [hpath, htext] at ht
  cases ht
  rw [hpath]
  exact get?_put_self _ _ _

end AddSource

/-- No entry of a source leads into the value of another one, or to the same place. -/
def IsScattered (source : List (String × Tree)) : Prop :=
  source.Pairwise fun d e => (KeyPath.ofKey d.1).Apart (KeyPath.ofKey e.1)

instance (source : List (String × Tree)) : Decidable (IsScattered source) :=
  inferInstanceAs (Decidable (source.Pairwise _))

section Scattered

variable {room : Nat} {name : String} {root root' : List (String × Tree)}
  {source : List (String × Tree)} {e : String × Tree}

theorem IsScattered.perm {source' : List (String × Tree)} (h : IsScattered source)
    (hperm : source'.Perm source) : IsScattered source' :=
  hperm.symm.pairwise h fun hde => hde.symm

theorem IsScattered.nodup_keys (h : IsScattered source) : (source.map (·.1)).Nodup := by
  refine List.pairwise_map.mpr (h.imp fun {d e} hapart hkey => ?_)
  rw [hkey] at hapart
  exact hapart.1 ⟨rfl, List.prefix_rfl⟩

/-- The entry that is met at some point lies apart from all that are met after it. -/
theorem IsScattered.apart_after {before after : List (String × Tree)}
    (h : IsScattered (before ++ e :: after)) :
    ∀ e' ∈ after, (KeyPath.ofKey e.1).Apart (KeyPath.ofKey e'.1) :=
  (List.pairwise_cons.mp (List.pairwise_append.mp h).2.1).1

/-- A plain entry takes the place of whatever was there. -/
theorem IsScattered.get?_plain (h : IsScattered source)
    (hadd : addSource room root source = .ok root') {s : String} (he : e ∈ source)
    (hpath : KeyPath.ofKey e.1 = ⟨name, []⟩) (htext : e.2 = .text s) :
    get? name root' = some (.text s) := by
  obtain ⟨before, after, rfl⟩ := List.append_of_mem he
  refine get?_addSource_plain hadd hpath htext fun e' he' => ?_
  have hapart := h.apart_after e' he'
  rw [hpath] at hapart
  exact hapart.root_ne rfl

/-- An entry that leads further makes a list or a table of the name at its top. -/
theorem IsScattered.branchesAt (h : IsScattered source)
    (hadd : addSource room root source = .ok root') (he : e ∈ source)
    (hroot : (KeyPath.ofKey e.1).root = name) (hsteps : (KeyPath.ofKey e.1).steps ≠ []) :
    BranchesAt name root' := by
  obtain ⟨before, after, rfl⟩ := List.append_of_mem he
  rw [addSource_append] at hadd
  obtain ⟨mid, -, hadd⟩ := exists_of_bind_ok hadd
  rw [addSource_cons] at hadd
  obtain ⟨next, hnext, hrest⟩ := exists_of_bind_ok hadd
  refine (branchesAt_set hnext hroot hsteps).addSource hrest fun e' he' hroot' hplain => ?_
  exact (h.apart_after e' he').symm.root_ne hplain (hroot.trans hroot'.symm)

end Scattered

end Tree

end AgentLaunch
