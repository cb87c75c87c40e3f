import Mathlib
import AgentLaunch.Proofs.Bind
import AgentLaunch.Shell.State

/-!
# What is in file trees

A path is found where something is, and a directory lists what is there. A tree is sound if there
are directories above all that it holds; it stays so whatever files a script opens.
-/

namespace AgentLaunch

namespace FileTree

section Get

variable {t : FileTree} {place other : List String} {node : Node}

/-- A place holds something if it is the root or lies on the way to an entry. -/
theorem isSome_get?_iff :
    (t.get? place).isSome ↔ place = [] ∨ ∃ e ∈ t.entries, place <+: e.1 := by
  unfold get?
  split
  next e hfind =>
    have hmem := List.mem_of_find?_eq_some hfind
    have hplace : e.1 = place := by simpa using List.find?_some hfind
    exact iff_of_true rfl (.inr ⟨e, List.mem_reverse.mp hmem, hplace ▸ List.prefix_refl e.1⟩)
  next =>
    split
    next h => simpa using h
    next h => simpa using h

theorem find?_replace (hne : other ≠ place) :
    (t.replace place node).entries.reverse.find? (fun e => e.1 = other) =
      t.entries.reverse.find? fun e => e.1 = other := by
  simp only [replace, List.reverse_append, List.reverse_singleton, List.singleton_append,
    List.find?_cons, Ne.symm hne, decide_false, ← List.filter_reverse, List.find?_filter]
  congr 1
  funext e
  by_cases he : e.1 = other
  · simp [he, hne]
  · simp [he]

/-- Putting something at a place changes nothing elsewhere, but that the places above are there. -/
theorem get?_replace (t : FileTree) (place other : List String) (node : Node) :
    (t.replace place node).get? other =
      if other = place then some node
      else if other <+: place then some ((t.get? other).getD .directory)
      else t.get? other := by
  split
  next heq =>
    subst heq
    simp [get?, replace]
  next hne =>
    rw [get?, find?_replace hne, get?]
    cases hfind : t.entries.reverse.find? (fun e => e.1 = other) with
    | some e => simp
    | none =>
      by_cases hfront : other <+: place
      · have hany : (t.replace place node).entries.any (fun e => other.isPrefixOf e.1) = true := by
          simp [replace, hfront]
        rw [if_pos (.inr hany), if_pos hfront]
        dsimp only
        split <;> rfl
      · have hbelow : other.isPrefixOf place = false := by simpa [Bool.eq_false_iff] using hfront
        have hkept : ∀ e : List String × Node,
            (!decide (e.1 = place) && other.isPrefixOf e.1) = other.isPrefixOf e.1 := by
          intro e
          by_cases he : e.1 = place <;> simp [he, hbelow]
        have hany : (t.replace place node).entries.any (fun e => other.isPrefixOf e.1) =
            t.entries.any fun e => other.isPrefixOf e.1 := by
          simp [replace, List.any_filter, hkept, hbelow]
        rw [hany, if_neg hfront]

/-- The names in a directory are those of the places below it that hold something. -/
theorem mem_names_iff {w : String} : w ∈ t.names place ↔ (t.get? (place ++ [w])).isSome := by
  have hsplit : ∀ place' : List String,
      place <+: place' ∧ place'[place.length]? = some w ↔ place ++ [w] <+: place' := by
    intro place'
    constructor
    · rintro ⟨⟨rest, rfl⟩, hw⟩
      rw [List.getElem?_append_right (Nat.le_refl _), Nat.sub_self] at hw
      cases rest with
      | nil => cases hw
      | cons v rest =>
        cases hw
        exact (List.prefix_append_right_inj place).mpr (List.prefix_append [w] rest)
    · rintro ⟨rest, rfl⟩
      exact ⟨⟨w :: rest, by simp⟩, by simp⟩
  rw [isSome_get?_iff, names]
  simp [List.mem_eraseDups, hsplit]

end Get

section Lookup

variable {t : FileTree} {followLast : Bool} {place found : List String} {words : List String}
  {node : Node} {n : Nat}

/-- What the words of a path lead to is there. -/
theorem get?_of_walk (h : t.walk followLast place words = .ok (.found found node)) :
    t.get? found = some node := by
  induction words generalizing place with
  | nil =>
    rw [walk] at h
    cases hget : t.get? place with
    | none =>
      rw [hget] at h
      cases h
    | some there =>
      rw [hget] at h
      cases h
      exact hget
  | cons w rest ih =>
    rw [walk] at h
    split at h
    next => cases h
    next =>
      split at h
      next => exact ih h
      split at h
      next => exact ih h
      split at h
      next => cases h
      split at h
      next target htarget =>
        split at h
        next =>
          cases h
          exact htarget
        next => cases h
      next => exact ih h
    next => cases h

theorem get?_of_follow (h : t.follow followLast place words n = .ok (found, node)) :
    t.get? found = some node := by
  induction n generalizing place words with
  | zero => cases h
  | succ n ih =>
    obtain ⟨step, hstep, h⟩ := exists_of_bind_ok h
    cases step with
    | found there what =>
      cases h
      exact get?_of_walk hstep
    | link directory target rest => exact ih h

/-- A path is found where something is. -/
theorem get?_of_lookup {workingDirectory path : String}
    (h : t.lookup workingDirectory path = .ok (found, node)) : t.get? found = some node := by
  obtain ⟨words, -, h⟩ := exists_of_bind_ok h
  exact get?_of_follow h

/-- A new file has a directory that is there, and it takes the place of none. -/
structure IsRoomFor (t : FileTree) (place directory : List String) (name : String) : Prop where
  place_eq : place = directory ++ [name]
  directory : t.get? directory = some .directory
  free : t.get? place ≠ some .directory

theorem exists_isRoomFor_of_placeFrom (h : t.placeFrom followLast place words n = .ok found) :
    ∃ directory name, t.IsRoomFor found directory name := by
  induction n generalizing place words with
  | zero => cases h
  | succ n ih =>
    rw [placeFrom] at h
    obtain ⟨⟨directory, what⟩, hfollow, h⟩ := exists_of_bind_ok h
    have hdirectory := get?_of_follow hfollow
    split at h
    next name heq _ =>
      cases heq
      dsimp only at h
      split at h
      next => cases h
      split at h
      next => cases h
      next target htarget =>
        split at h
        next =>
          cases h
          exact ⟨directory, name, rfl, hdirectory, by simp [htarget]⟩
        next => exact ih h
      next hfree _ =>
        cases h
        exact ⟨directory, name, rfl, hdirectory, hfree⟩
    next => cases h

end Lookup

/-- All places above one that holds anything are directories. -/
def IsSound (t : FileTree) : Prop :=
  ∀ place name, (t.get? (place ++ [name])).isSome → t.get? place = some .directory

namespace IsSound

variable {t : FileTree} {place directory other : List String} {name : String} {node : Node}

theorem get?_of_prefix (h : t.IsSound) (hother : (t.get? other).isSome) (hfront : place <+: other)
    (hne : place ≠ other) : t.get? place = some .directory := by
  obtain ⟨rest, rfl⟩ := hfront
  cases rest with
  | nil => exact absurd (List.append_nil place).symm hne
  | cons w rest =>
    apply h place w
    rw [isSome_get?_iff] at hother ⊢
    obtain hroot | ⟨e, he, hbelow⟩ := hother
    · simp at hroot
    · exact .inr ⟨e, he, List.IsPrefix.trans ⟨rest, by simp⟩ hbelow⟩

/-- Putting something where there is room keeps the tree sound. -/
theorem replace (h : t.IsSound) (hroom : t.IsRoomFor place directory name) (node : Node) :
    (t.replace place node).IsSound := by
  obtain ⟨rfl, hdirectory, hfree⟩ := hroom
  intro above w hbelow
  rw [get?_replace] at hbelow ⊢
  have hne : above ++ [w] <+: directory ++ [name] → above ≠ directory ++ [name] := by
    rintro hfront rfl
    have hlength := hfront.length_le
    simp at hlength
  by_cases hway : above ++ [w] <+: directory ++ [name]
  · -- The place above is the directory of the new file, or above that one.
    have habove : above <+: directory := by
      obtain heq | hinner := List.prefix_concat_iff.mp hway
      · exact (List.append_inj_left' heq rfl) ▸ List.prefix_refl above
      · exact (List.prefix_append above [w]).trans hinner
    have hthere : t.get? above = some .directory := by
      by_cases heq : above = directory
      · rw [heq, hdirectory]
      · exact h.get?_of_prefix (by simp [hdirectory]) habove heq
    rw [if_neg (hne hway), if_pos (habove.trans (List.prefix_append _ _)), hthere]
    rfl
  · have hnot : above ++ [w] ≠ directory ++ [name] := fun heq => hway (heq ▸ List.prefix_refl _)
    rw [if_neg hnot, if_neg hway] at hbelow
    have hthere := h above w hbelow
    have hfile : above ≠ directory ++ [name] := fun heq => hfree (heq ▸ hthere)
    rw [if_neg hfile, hthere]
    split <;> rfl

end IsSound

end FileTree

namespace Shell.State

/-- Wherever output is led to, the tree stays sound. -/
theorem isSound_openForWriting? {s t : State} {descriptor : Nat} {append : Bool} {path : String}
    (h : s.system.files.IsSound) (hopen : s.openForWriting? descriptor append path = some t) :
    t.system.files.IsSound := by
  rw [openForWriting?] at hopen
  split at hopen
  next => cases hopen
  next place hplace =>
    obtain ⟨words, -, hfrom⟩ := exists_of_bind_ok hplace
    obtain ⟨directory, name, hroom⟩ := FileTree.exists_isRoomFor_of_placeFrom hfrom
    split at hopen
    next =>
      cases hopen
      exact h
    next => cases hopen
    next =>
      cases hopen
      simp only [connect]
      split
      next => exact h
      next => exact h.replace hroom _

end Shell.State
end AgentLaunch
