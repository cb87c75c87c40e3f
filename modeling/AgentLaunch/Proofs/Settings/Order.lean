import Mathlib
import AgentLaunch.Settings.Tree

/-!
# The order of entries

In whatever order the entries of a source are met, they are the same entries. Leaving some keys out
does not change the order of the others, and any entry can come first.
-/

namespace AgentLaunch.Tree

section Insert

variable {rank : String → Nat} {e : String × Tree} {es : List (String × Tree)}

theorem insertByRank_perm (rank : String → Nat) (e : String × Tree) (es : List (String × Tree)) :
    (insertByRank rank e es).Perm (e :: es) := by
  induction es with
  | nil => exact List.Perm.refl _
  | cons d rest ih =>
    rw [insertByRank]
    split
    · exact List.Perm.refl _
    · exact (ih.cons d).trans (List.Perm.swap e d rest)

/-- The entries are met in the order of their ranks. -/
def IsRanked (rank : String → Nat) (es : List (String × Tree)) : Prop :=
  es.Pairwise fun d e => rank d.1 ≤ rank e.1

theorem IsRanked.insert (h : IsRanked rank es) (e : String × Tree) :
    IsRanked rank (insertByRank rank e es) := by
  induction es with
  | nil => exact List.pairwise_singleton _ _
  | cons d rest ih =>
    obtain ⟨hd, hrest⟩ := List.pairwise_cons.mp h
    rw [insertByRank]
    split
    next hle =>
      refine List.pairwise_cons.mpr ⟨fun d' hd' => ?_, h⟩
      obtain rfl | hd' := List.mem_cons.mp hd'
      · exact hle
      · exact hle.trans (hd d' hd')
    next hlt =>
      refine List.pairwise_cons.mpr ⟨fun d' hd' => ?_, ih hrest⟩
      obtain rfl | hd' := List.mem_cons.mp ((insertByRank_perm rank e rest).mem_iff.mp hd')
      · exact (Nat.lt_of_not_le hlt).le
      · exact hd d' hd'

/-- An entry that is met before all others is put in front. -/
theorem insertByRank_eq_cons (h : ∀ d ∈ es, rank e.1 ≤ rank d.1) :
    insertByRank rank e es = e :: es := by
  cases es with
  | nil => rfl
  | cons d rest => rw [insertByRank, if_pos (h d List.mem_cons_self)]

theorem filter_insertByRank (h : IsRanked rank es) (keep : String × Tree → Bool) :
    (insertByRank rank e es).filter keep =
      if keep e then insertByRank rank e (es.filter keep) else es.filter keep := by
  induction es with
  | nil => cases he : keep e <;> simp [insertByRank, he]
  | cons d rest ih =>
    obtain ⟨hd, hrest⟩ := List.pairwise_cons.mp h
    rw [insertByRank]
    by_cases hle : rank e.1 ≤ rank d.1
    · rw [if_pos hle]
      cases he : keep e with
      | false => simp [he]
      | true =>
        -- What is kept of the rest is not met before `d`, and so not before the new entry.
        have hfront : ∀ d' ∈ (d :: rest).filter keep, rank e.1 ≤ rank d'.1 := by
          intro d' hd'
          obtain rfl | hmem := List.mem_cons.mp (List.mem_filter.mp hd').1
          · exact hle
          · exact hle.trans (hd d' hmem)
        rw [List.filter_cons_of_pos he, insertByRank_eq_cons hfront, if_pos rfl]
    · rw [if_neg hle]
      cases hkeep : keep d with
      | false =>
        rw [List.filter_cons_of_neg (by simp [hkeep]), List.filter_cons_of_neg (by simp [hkeep]),
          ih hrest]
      | true =>
        rw [List.filter_cons_of_pos hkeep, List.filter_cons_of_pos hkeep, ih hrest]
        cases he : keep e <;> simp [insertByRank, hle]

end Insert

section Arranged

variable {rank : List String → String → Nat} {above : List String} {source : List (String × Tree)}

/-- An entry with its own tables in order. -/
def arrangedEntry (rank : List String → String → Nat) (above : List String)
    (e : String × Tree) : String × Tree :=
  (e.1, e.2.arranged rank (above ++ [e.1]))

theorem arrangedAll_cons (e : String × Tree) :
    arrangedAll rank above (e :: source) =
      insertByRank (rank above) (arrangedEntry rank above e) (arrangedAll rank above source) := by
  rw [arrangedAll]
  rfl

theorem arrangedAll_perm (rank : List String → String → Nat) (above : List String)
    (source : List (String × Tree)) :
    (arrangedAll rank above source).Perm (source.map (arrangedEntry rank above)) := by
  induction source with
  | nil =>
    rw [arrangedAll]
    rfl
  | cons e rest ih =>
    rw [arrangedAll_cons]
    exact (insertByRank_perm _ _ _).trans (ih.cons _)

theorem isRanked_arrangedAll : IsRanked (rank above) (arrangedAll rank above source) := by
  induction source with
  | nil =>
    rw [arrangedAll]
    exact List.Pairwise.nil
  | cons e rest ih =>
    rw [arrangedAll_cons]
    exact ih.insert _

theorem mem_arrangedAll {e : String × Tree} :
    e ∈ arrangedAll rank above source ↔ ∃ d ∈ source, arrangedEntry rank above d = e := by
  rw [(arrangedAll_perm rank above source).mem_iff, List.mem_map]

/-- Leaving keys out does not change the order of the others. -/
theorem filter_arrangedAll (keep : String → Bool) :
    (arrangedAll rank above source).filter (keep ·.1) =
      arrangedAll rank above (source.filter (keep ·.1)) := by
  induction source with
  | nil => simp [arrangedAll]
  | cons e rest ih =>
    rw [arrangedAll_cons, filter_insertByRank isRanked_arrangedAll, ih]
    rw [List.filter_cons]
    change (if keep e.1 then _ else _) = _
    split
    · rw [arrangedAll_cons]
    · rfl

/-- Any entry with a key of its own comes first in some order. -/
theorem exists_arrangedAll_eq_cons {e : String × Tree} (above : List String) (he : e ∈ source)
    (hkeys : (source.map (·.1)).Nodup) :
    ∃ (ranks : String → Nat) (rest : List (String × Tree)),
      arrangedAll (fun _ => ranks) above source =
        arrangedEntry (fun _ => ranks) above e :: rest := by
  let ranks : String → Nat := fun key => if key = e.1 then 0 else 1
  have hfirst : ranks e.1 = 0 := if_pos rfl
  refine ⟨ranks, ?_⟩
  induction source with
  | nil => cases he
  | cons d rest ih =>
    obtain ⟨hd, hrest⟩ := List.nodup_cons.mp hkeys
    rw [arrangedAll_cons]
    obtain rfl | he := List.mem_cons.mp he
    · refine ⟨_, insertByRank_eq_cons fun d' _ => ?_⟩
      change ranks e.1 ≤ _
      rw [hfirst]
      exact Nat.zero_le _
    · obtain ⟨rest', hrest'⟩ := ih he hrest
      have hne : d.1 ≠ e.1 := fun h => hd (List.mem_map.mpr ⟨e, he, h.symm⟩)
      have hlast : ¬ ranks d.1 ≤ ranks e.1 := by
        rw [hfirst, show ranks d.1 = 1 from if_neg hne]
        exact Nat.not_succ_le_zero 0
      refine ⟨insertByRank ranks (arrangedEntry (fun _ => ranks) above d) rest', ?_⟩
      rw [hrest', insertByRank]
      exact if_neg hlast

end Arranged

section LastOfEach

variable {source : List (String × Tree)}

theorem lastOfEach_sublist (source : List (String × Tree)) :
    (lastOfEach source).Sublist source := by
  induction source with
  | nil => exact List.Sublist.refl _
  | cons e rest ih =>
    rw [lastOfEach]
    split
    · exact ih.cons e
    · exact ih.cons_cons e

theorem exists_mem_lastOfEach {e : String × Tree} (he : e ∈ source) :
    ∃ d ∈ lastOfEach source, d.1 = e.1 := by
  induction source generalizing e with
  | nil => cases he
  | cons d rest ih =>
    rw [lastOfEach]
    split
    next hany =>
      obtain rfl | he := List.mem_cons.mp he
      · obtain ⟨later, hlater, hkey⟩ := List.any_eq_true.mp hany
        obtain ⟨d', hd', hkey'⟩ := ih hlater
        exact ⟨d', hd', hkey'.trans (of_decide_eq_true hkey)⟩
      · exact ih he
    · obtain rfl | he := List.mem_cons.mp he
      · exact ⟨e, List.mem_cons_self, rfl⟩
      · obtain ⟨d', hd', hkey⟩ := ih he
        exact ⟨d', List.mem_cons_of_mem d hd', hkey⟩

theorem lastOfEach_eq_self (h : (source.map (·.1)).Nodup) : lastOfEach source = source := by
  induction source with
  | nil => rfl
  | cons e rest ih =>
    obtain ⟨he, hrest⟩ := List.nodup_cons.mp h
    have hnone : ¬ (rest.any fun d => d.1 = e.1) = true := by
      intro hany
      obtain ⟨d, hd, hkey⟩ := List.any_eq_true.mp hany
      exact he (List.mem_map.mpr ⟨d, hd, of_decide_eq_true hkey⟩)
    rw [lastOfEach, if_neg hnone, ih hrest]

theorem filter_lastOfEach (keep : String → Bool) :
    (lastOfEach source).filter (keep ·.1) = lastOfEach (source.filter (keep ·.1)) := by
  induction source with
  | nil => rfl
  | cons e rest ih =>
    rw [lastOfEach, List.filter_cons]
    by_cases he : keep e.1
    · -- Entries with the key of a kept one are kept too.
      have hany : ((rest.filter (keep ·.1)).any fun d => d.1 = e.1) =
          rest.any fun d => d.1 = e.1 := by
        rw [List.any_filter]
        congr 1
        funext d
        by_cases hd : d.1 = e.1 <;> simp [hd, he]
      rw [if_pos he, lastOfEach, hany]
      split
      · exact ih
      · rw [List.filter_cons, if_pos he, ih]
    · rw [if_neg he, ← ih]
      split
      · rfl
      · rw [List.filter_cons, if_neg he]

end LastOfEach

end AgentLaunch.Tree
