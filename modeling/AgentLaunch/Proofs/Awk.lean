import Mathlib
import AgentLaunch.Awk.Machine
import AgentLaunch.Proofs.Tools.Lines

/-!
# Records and fields

Records are the parts of a text between separators, and fields are those of a record. A record that
is put together from its fields is the same one, and a field is found as it was set.
-/

namespace AgentLaunch.Awk

namespace Machine

section Records

variable {c : Char} {t : List Char}

theorem cut_singleton (c : Char) (t : List Char) : cut [c] t =
    if t = [] then none
    else some (t.takeWhile (· ≠ c), t.drop ((t.takeWhile (· ≠ c)).length + 1)) :=
  rfl

theorem takeWhile_eq_or_exists (c : Char) (t : List Char) : t.takeWhile (· ≠ c) = t ∨
    ∃ behind, t = t.takeWhile (· ≠ c) ++ c :: behind := by
  have htext : t.takeWhile (· ≠ c) ++ t.dropWhile (· ≠ c) = t := List.takeWhile_append_dropWhile
  cases hbehind : t.dropWhile (· ≠ c) with
  | nil => exact .inl (by rwa [hbehind, List.append_nil] at htext)
  | cons d behind =>
    have hd : d = c := by
      have hhead := List.head_dropWhile_not (· ≠ c) (l := t)
        (by rw [hbehind]; exact List.cons_ne_nil d behind)
      simp only [hbehind, List.head_cons] at hhead
      simpa using hhead
    rw [hbehind, hd] at htext
    exact .inr ⟨behind, htext.symm⟩

/-- Records are taken one after another until none is left: they are the parts of the text. -/
theorem partsAt_of_cut {record rest : List Char} (h : cut [c] t = some (record, rest)) :
    Tools.partsAt c t = record :: Tools.partsAt c rest ∧ rest.length < t.length := by
  rw [cut_singleton] at h
  split at h
  next => cases h
  next ht =>
    cases h
    have hrecord : c ∉ t.takeWhile (· ≠ c) := fun hmem => by
      simpa using List.mem_takeWhile_imp hmem
    obtain hall | ⟨behind, htext⟩ := takeWhile_eq_or_exists c t
    · rw [hall] at hrecord ⊢
      rw [List.drop_eq_nil_of_le (by omega)]
      exact ⟨Tools.partsAt_of_not_mem hrecord ht, List.length_pos_iff.mpr ht⟩
    · generalize t.takeWhile (· ≠ c) = record at *
      subst htext
      have hbehind : (record ++ c :: behind).drop (record.length + 1) = behind := by
        rw [← List.drop_drop, List.drop_left, List.drop_one, List.tail_cons]
      rw [hbehind]
      exact ⟨Tools.partsAt_append_cons hrecord behind, by simp; omega⟩

theorem cut_eq_none_iff : cut [c] t = none ↔ t = [] := by
  rw [cut_singleton]
  split <;> simp [*]

end Records

section Fields

variable {m : Machine}

theorem separated_eq (c : Char) (t : List Char) : separated c t = t.splitOn c :=
  Tools.foldr_eq_splitOn c t

theorem stored_withFields (m : Machine) (t : List Char) (fields : List Value) (name : String) :
    { m with record := t, fields := fields }.stored name = m.stored name := by
  unfold stored cell
  dsimp only
  generalize ((m.locals.find? fun l => l.1 = name) <|> m.globals.find? fun g => g.1 = name) = found
  cases found <;> rfl

theorem textNamed_withFields (m : Machine) (t : List Char) (fields : List Value) (name : String) :
    { m with record := t, fields := fields }.textNamed name = m.textNamed name := by
  simp only [textNamed, textOf, format, stored_withFields]

/-- A record whose fields are put together with the separator that it was taken apart with is the
same. -/
theorem record_rebuilt {c : Char} (hfs : m.textNamed "FS" = [c]) (hofs : m.textNamed "OFS" = [c])
    (hblank : c ≠ ' ') (hrs : m.textNamed "RS" ≠ []) (t : List Char) :
    (m.withRecord t).rebuilt.record = t := by
  have hparts : parts [c] t = some (if t = [] then [] else separated c t) := by
    unfold parts
    split
    next h => exact absurd (List.singleton_inj.mp h) hblank
    next h => cases h
    next h => cases h; rfl
    next hsingle => exact absurd rfl (hsingle c)
  have hrecord : m.withRecord t =
      { m with record := t, fields := (if t = [] then [] else separated c t).map .outer } := by
    simp only [withRecord, hfs, hrs, false_and, if_false, hparts]
  have htexts (ps : List (List Char)) :
      (ps.map Value.outer).map { m with record := t, fields := ps.map .outer }.textOf = ps := by
    rw [List.map_map]
    exact List.map_id ps
  rw [hrecord, rebuilt, textNamed_withFields, hofs, htexts]
  split
  next ht => rw [ht, List.intercalate_nil]
  next => rw [separated_eq, List.intercalate_splitOn]

/-- A field is found as it was set. Those in front of it that were not there are empty, and the
others are as they were. -/
theorem field_setField {k j : Nat} (hk : 0 < k) (hj : 0 < j) (v : Value) :
    (m.setField k v).field j =
      if j = k then v else if m.fields.length < j ∧ j < k then .outer [] else m.field j := by
  have hfields : (m.setField k v).fields =
      (m.fields ++ List.replicate (max k m.fields.length - m.fields.length) (Value.outer [])).set
        (k - 1) v := by
    rw [setField, if_neg hk.ne']
    rfl
  rw [field, field, if_neg hj.ne', if_neg hj.ne', hfields, List.getElem?_set]
  grind

theorem length_setField {k : Nat} (hk : 0 < k) (v : Value) :
    (m.setField k v).fields.length = max k m.fields.length := by
  rw [setField, if_neg hk.ne', rebuilt]
  simp

end Fields

section Tables

variable {items : List (List Char × Value)} {key : List Char} {v : Value}

theorem itemsWith_eq (key : List Char) (v : Value) (items : List (List Char × Value)) :
    itemsWith key v items = if key ∈ items.map (·.1)
      then items.map fun i => if i.1 = key then (key, v) else i else items ++ [(key, v)] := by
  rw [itemsWith]
  exact if_congr (by simp) rfl rfl

theorem key_replaced (key : List Char) (v : Value) (i : List Char × Value) :
    (if i.1 = key then (key, v) else i).1 = i.1 := by
  split
  next h => exact h.symm
  next => rfl

/-- The item of a key is the one that was put there last. -/
theorem find?_itemsWith (key other : List Char) (v : Value) (items : List (List Char × Value)) :
    ((itemsWith key v items).find? fun i => i.1 = other) =
      if other = key then some (key, v) else items.find? fun i => i.1 = other := by
  rw [itemsWith_eq]
  split
  next hmem =>
    rw [List.find?_map]
    simp only [Function.comp_def, key_replaced]
    cases hfound : items.find? fun i => i.1 = other with
    | none =>
      have hother : other ≠ key := by
        rintro rfl
        obtain ⟨i, hi, hkey⟩ := List.mem_map.mp hmem
        exact List.find?_eq_none.mp hfound i hi (decide_eq_true hkey)
      rw [if_neg hother, Option.map_none]
    | some i =>
      have hi : i.1 = other := by simpa using List.find?_some hfound
      rw [Option.map_some, hi]
      split <;> rfl
  next hfresh =>
    rw [List.find?_append]
    split
    next hother =>
      have hnone : (items.find? fun i => i.1 = other) = none := by
        refine List.find?_eq_none.mpr fun i hi hkey => hfresh ?_
        exact hother ▸ List.mem_map.mpr ⟨i, hi, of_decide_eq_true hkey⟩
      rw [hnone, hother]
      simp
    next hother => simp [Ne.symm hother]

theorem nodup_itemsWith (h : (items.map (·.1)).Nodup) :
    ((itemsWith key v items).map (·.1)).Nodup := by
  rw [itemsWith_eq]
  split
  next =>
    have hkeys : (items.map fun i => if i.1 = key then (key, v) else i).map (·.1) =
        items.map (·.1) := by
      rw [List.map_map]
      exact List.map_congr_left fun i _ => key_replaced key v i
    rwa [hkeys]
  next hfresh =>
    rw [List.map_append, List.map_singleton]
    refine List.nodup_append.mpr ⟨h, List.nodup_singleton key, fun k hk j hj heq => hfresh ?_⟩
    rwa [heq, List.mem_singleton.mp hj] at hk

end Tables

end Machine

end AgentLaunch.Awk
