import Mathlib
import AgentLaunch.Tools.Lines

/-!
# Texts as lines

Taking a text apart at its marks and joining the lines again gives the text back, with a mark at its
end. What is shown from the front and what is shown from there on make up the text.
-/

namespace AgentLaunch.Tools

section Parts

variable {mark : Char}

/-- The lines between marks, the last one as it comes. -/
theorem foldr_eq_splitOn (mark : Char) (t : List Char) :
    (t.foldr (fun c (part, later) =>
      if c = mark then ([], part :: later) else (c :: part, later)) ([], [])).1 ::
    (t.foldr (fun c (part, later) =>
      if c = mark then ([], part :: later) else (c :: part, later)) ([], [])).2 =
      t.splitOn mark := by
  induction t with
  | nil => simp
  | cons c t ih =>
    rw [List.foldr_cons, List.splitOn_cons_eq_if_modifyHead, ← ih]
    by_cases hc : c = mark <;> simp [hc]

theorem partsAt_eq (mark : Char) (t : List Char) : partsAt mark t =
    if (t.splitOn mark).getLast? = some [] then (t.splitOn mark).dropLast
    else t.splitOn mark := by
  rw [← foldr_eq_splitOn]
  rfl

theorem not_mem_of_mem_splitOn {t l : List Char} (h : l ∈ t.splitOn mark) : mark ∉ l := by
  induction t generalizing l with
  | nil =>
    rw [List.splitOn_nil, List.mem_singleton] at h
    exact h ▸ List.not_mem_nil
  | cons c t ih =>
    rw [List.splitOn_cons_eq_if_modifyHead] at h
    split at h
    next =>
      obtain rfl | h := List.mem_cons.mp h
      · exact List.not_mem_nil
      · exact ih h
    next hc =>
      cases hparts : t.splitOn mark with
      | nil => simp [hparts] at h
      | cons part later =>
        rw [hparts, List.modifyHead_cons] at h
        rw [hparts] at ih
        obtain rfl | h := List.mem_cons.mp h
        · rintro (_ | ⟨_, hmem⟩)
          · simp at hc
          · exact ih List.mem_cons_self hmem
        · exact ih (List.mem_cons_of_mem part h)

/-- No line holds the mark. -/
theorem not_mem_of_mem_partsAt {t l : List Char} (h : l ∈ partsAt mark t) : mark ∉ l := by
  rw [partsAt_eq] at h
  split at h
  · exact not_mem_of_mem_splitOn (List.mem_of_mem_dropLast h)
  · exact not_mem_of_mem_splitOn h

theorem toList_joined (mark : Char) (ls : List (List Char)) :
    (joined mark ls).toList = ls.flatMap (· ++ [mark]) :=
  String.toList_ofList

theorem intercalate_concat (mark : Char) (front : List (List Char)) (last : List Char) :
    [mark].intercalate (front ++ [last]) = front.flatMap (· ++ [mark]) ++ last := by
  induction front with
  | nil => simp
  | cons l front ih =>
    rw [List.cons_append, List.intercalate_cons_of_ne_nil (by simp), ih]
    simp

/-- Lines that are joined are found again. -/
theorem partsAt_joined {ls : List (List Char)} (h : ∀ l ∈ ls, mark ∉ l) :
    partsAt mark (joined mark ls).toList = ls := by
  have hsplit : (ls.flatMap (· ++ [mark])).splitOn mark = ls ++ [[]] := by
    rw [← List.append_nil (ls.flatMap _), ← intercalate_concat, List.splitOn_intercalate]
    · intro l hl
      obtain hl | hl := List.mem_append.mp hl
      · exact h l hl
      · exact List.mem_singleton.mp hl ▸ List.not_mem_nil
    · simp
  rw [toList_joined, partsAt_eq, hsplit, List.getLast?_concat, if_pos rfl, List.dropLast_concat]

/-- The line in front of a mark is the first one. -/
theorem partsAt_append_cons {l : List Char} (h : mark ∉ l) (rest : List Char) :
    partsAt mark (l ++ mark :: rest) = l :: partsAt mark rest := by
  have hsplit : (l ++ mark :: rest).splitOn mark = l :: rest.splitOn mark := by
    rw [List.splitOn_append_cons_self, List.splitOn_eq_singleton h, List.singleton_append]
  obtain ⟨part, later, hrest⟩ := List.exists_cons_of_ne_nil (List.splitOn_ne_nil mark rest)
  rw [partsAt_eq, partsAt_eq, hsplit, hrest, List.getLast?_cons_cons, List.dropLast_cons_cons]
  split <;> rfl

theorem partsAt_of_not_mem {l : List Char} (h : mark ∉ l) (hne : l ≠ []) :
    partsAt mark l = [l] := by
  rw [partsAt_eq, List.splitOn_eq_singleton h, List.getLast?_singleton, if_neg (by simp [hne])]

/-- A text that is taken apart and joined again has a mark at its end, and is the same before
that. -/
theorem joined_partsAt (mark : Char) (t : List Char) : (joined mark (partsAt mark t)).toList =
    if t = [] ∨ t.getLast? = some mark then t else t ++ [mark] := by
  obtain ⟨front, last, hparts⟩ :=
    (List.eq_nil_or_concat' (t.splitOn mark)).resolve_left (List.splitOn_ne_nil mark t)
  have htext : t = front.flatMap (· ++ [mark]) ++ last := by
    rw [← intercalate_concat, ← hparts, List.intercalate_splitOn]
  have hlast : mark ∉ last := not_mem_of_mem_splitOn (hparts ▸ List.mem_concat_self)
  rw [toList_joined, partsAt_eq, hparts, List.getLast?_concat, List.dropLast_concat]
  by_cases hempty : last = []
  · subst hempty
    rw [List.append_nil] at htext
    rw [if_pos rfl, ← htext, if_pos]
    obtain rfl | ⟨before, l, rfl⟩ := List.eq_nil_or_concat' front
    · exact .inl htext
    · exact .inr (by simp [htext])
  · have hne : t ≠ [] := by simp [htext, hempty]
    have hend : t.getLast? ≠ some mark := by
      rw [htext, List.getLast?_append_of_ne_nil _ hempty]
      exact fun hmark => hlast (List.mem_of_getLast? hmark)
    rw [if_neg (fun h => hempty (Option.some.inj h)), if_neg (by simp [hne, hend]),
      List.flatMap_append, List.flatMap_singleton, ← List.append_assoc, ← htext]

theorem toList_joined_append (mark : Char) (front behind : List (List Char)) :
    (joined mark (front ++ behind)).toList =
      (joined mark front).toList ++ (joined mark behind).toList := by
  simp [toList_joined]

theorem toList_joined_eq_nil {ls : List (List Char)} :
    (joined mark ls).toList = [] ↔ ls = [] := by
  cases ls <;> simp [toList_joined]

/-- Lines that are shown in two parts, the last one without an end if it has none. -/
theorem shown_append_shown {t : List Char} {kept rest : List (List Char)}
    (hparts : partsAt mark t = kept ++ rest) :
    (if kept.length = (partsAt mark t).length ∧ t.getLast? ≠ some mark
      then (joined mark kept).toList.dropLast else (joined mark kept).toList) ++
    (if t.getLast? = some mark ∨ (joined mark rest).toList = [] then (joined mark rest).toList
      else (joined mark rest).toList.dropLast) = t := by
  have hjoined := joined_partsAt mark t
  have hall : kept.length = (partsAt mark t).length ↔ rest = [] := by
    simp [hparts]
  rw [hparts, toList_joined_append] at hjoined
  simp only [hall, toList_joined_eq_nil]
  by_cases hend : t.getLast? = some mark
  · rw [if_neg (fun h => h.2 hend), if_pos (.inl hend), hjoined, if_pos (.inr hend)]
  have hdropped : ((joined mark kept).toList ++ (joined mark rest).toList).dropLast = t := by
    rw [hjoined]
    by_cases ht : t = [] <;> simp [ht, hend]
  by_cases hrest : rest = []
  · have hnone : (joined mark rest).toList = [] := toList_joined_eq_nil.mpr hrest
    rw [if_pos ⟨hrest, hend⟩, if_pos (.inr hrest), hnone, List.append_nil]
    rwa [hnone, List.append_nil] at hdropped
  · have hsome : (joined mark rest).toList ≠ [] := mt toList_joined_eq_nil.mp hrest
    rw [if_neg (fun h => hrest h.1), if_neg (fun h => h.elim hend hrest),
      ← List.dropLast_append_of_ne_nil hsome, hdropped]

end Parts

section Ends

/-- What to show from the front, and what from the end, so that every line is shown once. -/
def Complementary (front : Bool × Nat) (behind : Option Char × Nat) : Prop :=
  if front.1 then behind.1 ≠ some '+' ∧ behind.2 = front.2
  else behind.1 = some '+' ∧ behind.2 = front.2 + 1

theorem Complementary.taken_append {α : Type} {front : Bool × Nat} {behind : Option Char × Nat}
    (h : Complementary front behind) (xs : List α) :
    Head.taken front xs ++ Tail.taken behind xs = xs := by
  obtain ⟨leaves, n⟩ := front
  cases leaves with
  | true =>
    obtain ⟨hsign, hcount⟩ := h
    rw [Head.taken, Tail.taken, if_pos rfl, if_neg hsign, hcount, List.take_append_drop]
  | false =>
    obtain ⟨hsign, hcount⟩ := h
    rw [Head.taken, Tail.taken, if_neg Bool.false_ne_true, if_pos hsign, hcount,
      Nat.add_sub_cancel, List.take_append_drop]

variable {r r' : Reading}

/-- The lines at the front and the lines from there on make up a text, whether or not its last line
has an end. -/
theorem text_append_text (hlines : r.last? ["c", "n"] ≠ some "c")
    (hlines' : r'.last? ["c", "n"] ≠ some "c") (hmark : lineMark r' "z" = lineMark r "z")
    (hcounts : Complementary
      ((((r.last? ["c", "n"]).bind r.value?).bind Head.amount?).getD (false, 10))
      ((((r'.last? ["c", "n"]).bind r'.value?).bind Tail.amount?).getD (none, 10)))
    (t : List Char) : (Head.text r t ++ Tail.text r' t).toList = t := by
  have hparts := hcounts.taken_append (partsAt (lineMark r "z") t)
  rw [Head.text, Tail.text, if_neg hlines, if_neg hlines', hmark, String.toList_append,
    ← apply_ite String.ofList]
  simp only [String.toList_ofList]
  exact shown_append_shown hparts.symm

end Ends

end AgentLaunch.Tools
