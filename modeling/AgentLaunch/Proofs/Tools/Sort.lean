import Mathlib
import AgentLaunch.Proofs.Tools.Lines
import AgentLaunch.Tools.Sort

/-!
# Sorted lines

Lines are compared by a total preorder, whatever the keys are. Sorting keeps all lines, or one of
each kind, and leaves them in the order that a check asks for.
-/

namespace AgentLaunch.Tools.Sort

open Std (OrientedCmp TransCmp)

section Orders

variable {α β : Type}

theorem transCmp_compareOn [Ord β] [Std.TransOrd β] (f : α → β) :
    TransCmp fun a b => compare (f a) (f b) where
  eq_swap := OrientedCmp.eq_swap
  isLE_trans := TransCmp.isLE_trans

theorem transCmp_swap {cmp : α → α → Ordering} (h : TransCmp cmp) :
    TransCmp fun a b => (cmp a b).swap where
  eq_swap := congrArg Ordering.swap OrientedCmp.eq_swap
  isLE_trans hab hbc := by
    rw [← OrientedCmp.eq_swap] at hab hbc ⊢
    exact TransCmp.isLE_trans hbc hab

theorem transCmp_then {first second : α → α → Ordering} (h : TransCmp first)
    (h' : TransCmp second) : TransCmp fun a b => (first a b).then (second a b) :=
  inferInstanceAs (TransCmp (compareLex first second))

/-- Comparisons one after another, until one of them tells apart. -/
theorem transCmp_foldl {ks : List β} {cmp : β → α → α → Ordering} (h : ∀ k, TransCmp (cmp k))
    {before : α → α → Ordering} (hbefore : TransCmp before) :
    TransCmp fun a b => ks.foldl (fun found k => found.then (cmp k a b)) (before a b) := by
  induction ks generalizing before with
  | nil => exact hbefore
  | cons k ks ih => exact ih (transCmp_then hbefore (h k))

theorem transCmp_compareTexts : TransCmp compareTexts :=
  transCmp_compareOn String.ofList

theorem transCmp_compareParts (order : List Char) : TransCmp (compareParts order) := by
  unfold compareParts
  split_ifs <;> exact transCmp_compareOn _

theorem transCmp_compareKeys (p : Plan) : TransCmp p.compareKeys := by
  unfold Plan.compareKeys
  split_ifs
  · exact transCmp_swap transCmp_compareTexts
  · exact transCmp_compareTexts
  · refine transCmp_foldl (fun k => ?_) (transCmp_compareOn fun _ => ())
    have hpart : TransCmp fun a b =>
        compareParts k.order (part p.separator k a) (part p.separator k b) := by
      have := transCmp_compareParts k.order
      exact { eq_swap := OrientedCmp.eq_swap, isLE_trans := TransCmp.isLE_trans }
    split_ifs
    · exact transCmp_swap hpart
    · exact hpart

/-- Lines are compared by a total preorder. -/
theorem transCmp_compare (p : Plan) : TransCmp p.compare := by
  have hkeys := transCmp_compareKeys p
  unfold Plan.compare
  split_ifs
  · exact hkeys
  · exact transCmp_then hkeys (transCmp_swap transCmp_compareTexts)
  · exact transCmp_then hkeys transCmp_compareTexts

end Orders

section Sorted

variable {p : Plan} {ls : List (List Char)}

theorem bne_gt (o : Ordering) : (o != .gt) = o.isLE := by
  cases o <;> rfl

theorem pairwise_mergeSort (p : Plan) (ls : List (List Char)) :
    (ls.mergeSort fun a b => p.compare a b != .gt).Pairwise fun a b =>
      (p.compare a b).isLE = true := by
  have := transCmp_compare p
  simp only [bne_gt]
  refine List.pairwise_mergeSort (fun _ _ _ => TransCmp.isLE_trans) (fun a b => ?_) ls
  have hswap : p.compare b a = (p.compare a b).swap := OrientedCmp.eq_swap
  rw [hswap]
  cases p.compare a b <;> rfl

theorem compare_eq_compareKeys (h : p.unique = true) (a b : List Char) :
    p.compare a b = p.compareKeys a b := by
  rw [Plan.compare, if_pos (.inr (.inr h))]

theorem sublist_distinct (p : Plan) (ls : List (List Char)) : (p.distinct ls).Sublist ls := by
  induction ls with
  | nil => exact .slnil
  | cons l rest ih =>
    rw [Plan.distinct]
    cases hrest : p.distinct rest with
    | nil => exact (List.nil_sublist rest).cons_cons l
    | cons m more =>
      rw [hrest] at ih
      dsimp only
      split
      · exact ((List.sublist_cons_self m more).trans ih).cons_cons l
      · exact ih.cons_cons l

/-- Of each kind of lines one is left. -/
theorem exists_mem_distinct (p : Plan) {l : List Char} (h : l ∈ ls) :
    ∃ m ∈ p.distinct ls, p.compareKeys m l = .eq := by
  have := transCmp_compareKeys p
  induction ls with
  | nil => cases h
  | cons k rest ih =>
    rw [Plan.distinct]
    cases hrest : p.distinct rest with
    | nil =>
      rw [hrest] at ih
      obtain rfl | h := List.mem_cons.mp h
      · exact ⟨l, List.mem_cons_self, Std.ReflCmp.compare_self⟩
      · obtain ⟨m, hm, -⟩ := ih h
        cases hm
    | cons m more =>
      rw [hrest] at ih
      dsimp only
      split
      next hsame =>
        obtain rfl | h := List.mem_cons.mp h
        · exact ⟨l, List.mem_cons_self, Std.ReflCmp.compare_self⟩
        obtain ⟨x, hx, hxl⟩ := ih h
        obtain rfl | hx := List.mem_cons.mp hx
        · exact ⟨k, List.mem_cons_self, TransCmp.eq_trans hsame hxl⟩
        · exact ⟨x, List.mem_cons_of_mem k hx, hxl⟩
      next =>
        obtain rfl | h := List.mem_cons.mp h
        · exact ⟨l, List.mem_cons_self, Std.ReflCmp.compare_self⟩
        obtain ⟨x, hx, hxl⟩ := ih h
        exact ⟨x, List.mem_cons_of_mem k hx, hxl⟩

/-- Lines in order from which equal ones are left out are in strict order. -/
theorem pairwise_distinct (h : ls.Pairwise fun a b => (p.compareKeys a b).isLE = true) :
    (p.distinct ls).Pairwise fun a b => p.compareKeys a b = .lt := by
  have := transCmp_compareKeys p
  induction ls with
  | nil => exact .nil
  | cons l rest ih =>
    obtain ⟨hl, hrest⟩ := List.pairwise_cons.mp h
    have hstrict := ih hrest
    rw [Plan.distinct]
    cases hmore : p.distinct rest with
    | nil => exact List.pairwise_singleton _ l
    | cons m more =>
      rw [hmore] at hstrict
      obtain ⟨hm, hstrict'⟩ := List.pairwise_cons.mp hstrict
      dsimp only
      split
      next hsame =>
        exact hstrict'.cons fun x hx => TransCmp.lt_of_eq_of_lt hsame (hm x hx)
      next hother =>
        have hmem : m ∈ rest := (sublist_distinct p rest).subset (hmore ▸ List.mem_cons_self)
        have hlt : p.compareKeys l m = .lt :=
          (Ordering.isLE_iff_eq_lt_or_eq_eq.mp (hl m hmem)).resolve_right hother
        refine hstrict.cons fun x hx => ?_
        obtain rfl | hx := List.mem_cons.mp hx
        · exact hlt
        · exact TransCmp.lt_trans hlt (hm x hx)

theorem distinct_of_pairwise (h : ls.Pairwise fun a b => p.compareKeys a b = .lt) :
    p.distinct ls = ls := by
  induction ls with
  | nil => rfl
  | cons l rest ih =>
    obtain ⟨hl, hrest⟩ := List.pairwise_cons.mp h
    rw [Plan.distinct, ih hrest]
    cases rest with
    | nil => rfl
    | cons m more =>
      have hlt : p.compareKeys l m ≠ .eq := by
        rw [hl m List.mem_cons_self]
        decide
      exact if_neg hlt

/-- Whether one line may stand in front of another one. -/
def Plan.Precedes (p : Plan) (a b : List Char) : Prop :=
  p.compare a b = .lt ∨ p.compare a b = .eq ∧ p.unique = false

theorem Plan.Precedes.trans {a b c : List Char} (hab : p.Precedes a b) (hbc : p.Precedes b c) :
    p.Precedes a c := by
  have := transCmp_compare p
  obtain hab | ⟨hab, hall⟩ := hab
  · obtain hbc | ⟨hbc, -⟩ := hbc
    · exact .inl (TransCmp.lt_trans hab hbc)
    · exact .inl (TransCmp.lt_of_lt_of_eq hab hbc)
  · obtain hbc | ⟨hbc, -⟩ := hbc
    · exact .inl (TransCmp.lt_of_eq_of_lt hab hbc)
    · exact .inr ⟨TransCmp.eq_trans hab hbc, hall⟩

theorem inOrder_iff_isChain : p.inOrder ls = true ↔ ls.IsChain p.Precedes := by
  induction ls with
  | nil => simp [Plan.inOrder]
  | cons l rest ih =>
    cases rest with
    | nil => simp [Plan.inOrder]
    | cons m more =>
      rw [List.isChain_cons_cons, ← ih]
      simp [Plan.inOrder, Plan.Precedes]

theorem inOrder_iff_pairwise : p.inOrder ls = true ↔ ls.Pairwise p.Precedes := by
  have : Trans p.Precedes p.Precedes p.Precedes := ⟨Plan.Precedes.trans⟩
  rw [inOrder_iff_isChain, List.isChain_iff_pairwise]

theorem pairwise_sorted (p : Plan) (ls : List (List Char)) :
    (p.sorted ls).Pairwise p.Precedes := by
  have hsorted := pairwise_mergeSort p ls
  rw [Plan.sorted]
  split
  next hunique =>
    have hcompare := compare_eq_compareKeys hunique
    have hkeys := hsorted.imp fun {a b} hle => hcompare a b ▸ hle
    exact (pairwise_distinct hkeys).imp fun hlt => .inl ((hcompare _ _).trans hlt)
  next hall =>
    refine hsorted.imp fun hle => ?_
    exact (Ordering.isLE_iff_eq_lt_or_eq_eq.mp hle).imp_right fun heq => ⟨heq, by simpa using hall⟩

/-- The lines that a check accepts are those that sorting leaves as they are. -/
theorem inOrder_iff_sorted_eq : p.inOrder ls = true ↔ p.sorted ls = ls := by
  rw [inOrder_iff_pairwise]
  constructor
  · intro h
    have hsorted : (ls.mergeSort fun a b => p.compare a b != .gt) = ls := by
      refine List.mergeSort_of_pairwise (h.imp fun {a b} hab => ?_)
      obtain hlt | ⟨heq, -⟩ := hab
      · simp [hlt]
      · simp [heq]
    rw [Plan.sorted, hsorted]
    split
    next hunique =>
      refine distinct_of_pairwise (h.imp fun {a b} hab => ?_)
      rw [← compare_eq_compareKeys hunique]
      exact hab.resolve_right (by simp [hunique])
    next => rfl
  · intro h
    exact h ▸ pairwise_sorted p ls

/-- No line is lost, unless an equal one is left. -/
theorem exists_mem_sorted (p : Plan) {l : List Char} (h : l ∈ ls) :
    ∃ m ∈ p.sorted ls, p.compareKeys m l = .eq := by
  have := transCmp_compareKeys p
  have hmem : l ∈ ls.mergeSort fun a b => p.compare a b != .gt :=
    (List.mergeSort_perm ls _).mem_iff.mpr h
  rw [Plan.sorted]
  split
  · exact exists_mem_distinct p hmem
  · exact ⟨l, hmem, Std.ReflCmp.compare_self⟩

theorem mem_of_mem_sorted {l : List Char} (h : l ∈ p.sorted ls) : l ∈ ls := by
  refine (List.mergeSort_perm ls fun a b => p.compare a b != .gt).mem_iff.mp ?_
  rw [Plan.sorted] at h
  split at h
  · exact (sublist_distinct p _).subset h
  · exact h

theorem perm_sorted (h : p.unique = false) : (p.sorted ls).Perm ls := by
  rw [Plan.sorted, if_neg (by simp [h])]
  exact List.mergeSort_perm ls _

/-- What is written for a text is accepted when it is checked. -/
theorem inOrder_written (p : Plan) (mark : Char) (t : List Char) :
    p.inOrder (partsAt mark (joined mark (p.sorted (partsAt mark t))).toList) = true := by
  rw [partsAt_joined fun l hl => not_mem_of_mem_partsAt (mem_of_mem_sorted hl),
    inOrder_iff_pairwise]
  exact pairwise_sorted p _

end Sorted

end AgentLaunch.Tools.Sort
