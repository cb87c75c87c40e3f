import Mathlib
import AgentLaunch.Recorder

/-!
# Accounts by name

A table answers with the account that was added last under a name, as a dictionary does in which a
new entry replaces the one of the same name. Accounts of other names play no part, nor does their
place among those of the name.
-/

namespace AgentLaunch

namespace AccountTable

/-- The last account of a name in a list. -/
def IsLast (as : List Account) (name : String) (a : Account) : Prop :=
  a.name = name ∧ ∃ before after, as = before ++ a :: after ∧ ∀ b ∈ after, b.name ≠ name

/-- The accounts of a list under their names; a later one replaces an earlier one. -/
def dictionary (as : List Account) : Std.HashMap String Account :=
  as.foldl (fun d a => d.insert a.name a) ∅

/-- Lists in which accounts of different names have been moved past each other. -/
inductive Reordered : List Account → List Account → Prop where
  | refl (as : List Account) : Reordered as as
  | swap {a b : Account} (front rest : List Account) (different : a.name ≠ b.name) :
      Reordered (front ++ a :: b :: rest) (front ++ b :: a :: rest)
  | trans {as bs cs : List Account} : Reordered as bs → Reordered bs cs → Reordered as cs

section Find

variable {as bs : List Account} {a : Account} {name : String}

theorem ofList_concat (as : List Account) (a : Account) :
    ofList (as ++ [a]) = (ofList as).add a := by
  rw [ofList, List.foldl_append]
  rfl

theorem find?_ofList (as : List Account) (name : String) :
    (ofList as).find? name = as.reverse.find? fun a => a.name = name := by
  induction as using List.reverseRecOn with
  | nil => rfl
  | append_singleton as a ih =>
    rw [ofList_concat, find?_add, ih, List.reverse_append, List.reverse_singleton,
      List.singleton_append, List.find?_cons]
    by_cases h : a.name = name <;> simp [h]

theorem getElem?_dictionary (as : List Account) (name : String) :
    (dictionary as)[name]? = (ofList as).find? name := by
  induction as using List.reverseRecOn with
  | nil => exact Std.HashMap.getElem?_empty
  | append_singleton as a ih =>
    have hinsert : dictionary (as ++ [a]) = (dictionary as).insert a.name a := by
      rw [dictionary, List.foldl_append]
      rfl
    rw [hinsert, Std.HashMap.getElem?_insert, ofList_concat, find?_add, ih]
    by_cases h : a.name = name <;> simp [h]

theorem find?_ofList_eq_some_iff : (ofList as).find? name = some a ↔ IsLast as name a := by
  rw [find?_ofList, List.find?_eq_some_iff_append, decide_eq_true_iff]
  constructor
  · rintro ⟨hname, after, before, hreverse, hafter⟩
    refine ⟨hname, before.reverse, after.reverse, ?_, ?_⟩
    · rw [← List.reverse_reverse as, hreverse]
      simp
    · intro b hb
      simpa using hafter b (List.mem_reverse.mp hb)
  · rintro ⟨hname, before, after, rfl, hafter⟩
    refine ⟨hname, after.reverse, before.reverse, by simp, ?_⟩
    intro b hb
    simpa using hafter b (List.mem_reverse.mp hb)

theorem find?_ofList_eq_none_iff : (ofList as).find? name = none ↔ ∀ a ∈ as, a.name ≠ name := by
  rw [find?_ofList, List.find?_eq_none]
  simp

/-- Only the accounts of a name count for it. -/
theorem find?_ofList_congr
    (h : (as.filter fun a => a.name = name) = bs.filter fun a => a.name = name) :
    (ofList as).find? name = (ofList bs).find? name := by
  rw [find?_ofList, find?_ofList, ← List.head?_filter, ← List.head?_filter, List.filter_reverse,
    List.filter_reverse, h]

theorem Reordered.filter_eq (h : Reordered as bs) (name : String) :
    (as.filter fun a => a.name = name) = bs.filter fun a => a.name = name := by
  induction h with
  | refl as => rfl
  | @swap a b front rest different =>
    by_cases ha : a.name = name
    · have hb : b.name ≠ name := fun hb => different (ha.trans hb.symm)
      simp [ha, hb]
    · by_cases hb : b.name = name <;> simp [ha, hb]
  | trans _ _ ih ih' => exact ih.trans ih'

theorem resolve_eq_ok_iff {t : AccountTable} : t.resolve name = .ok a ↔ t.find? name = some a := by
  rw [resolve]
  cases t.find? name <;> simp

theorem resolve_eq_error_iff {t : AccountTable} {e : LookupError} :
    t.resolve name = .error e ↔ e = .unknownUser name ∧ t.find? name = none := by
  rw [resolve]
  cases t.find? name <;> simp [eq_comm]

theorem resolve_congr {t u : AccountTable} (h : t.find? name = u.find? name) :
    t.resolve name = u.resolve name := by
  rw [resolve, resolve, h]

end Find

/-- A table that is filled from a list answers with the last account of a name, and says that there
is none for a name that does not occur. It answers like a dictionary, and neither other accounts nor
the order of accounts of different names change an answer. -/
theorem resolve_last (as : List Account) (name : String) :
    (∀ a, (ofList as).resolve name = .ok a ↔ IsLast as name a) ∧
    (∀ e, (ofList as).resolve name = .error e ↔
      e = .unknownUser name ∧ ∀ a ∈ as, a.name ≠ name) ∧
    ((ofList as).resolve name = match (dictionary as)[name]? with
      | some a => .ok a
      | none => .error (.unknownUser name)) ∧
    (∀ bs : List Account,
      (as.filter fun a => a.name = name) = (bs.filter fun a => a.name = name) →
      (ofList as).resolve name = (ofList bs).resolve name) ∧
    ∀ bs, Reordered as bs → (ofList as).resolve name = (ofList bs).resolve name := by
  refine ⟨?_, ?_, ?_, ?_, ?_⟩
  · intro a
    rw [resolve_eq_ok_iff, find?_ofList_eq_some_iff]
  · intro e
    rw [resolve_eq_error_iff, find?_ofList_eq_none_iff]
  · rw [getElem?_dictionary]
    rfl
  · intro bs h
    exact resolve_congr (find?_ofList_congr h)
  · intro bs h
    exact resolve_congr (find?_ofList_congr (h.filter_eq name))

/-- An account of another name can go, or move from between two of the name. -/
theorem resolve_last_between :
    let as : List Account := [⟨"a", 1, 1⟩, ⟨"b", 2, 2⟩, ⟨"a", 3, 3⟩]
    (ofList [⟨"a", 1, 1⟩, ⟨"a", 3, 3⟩]).resolve "a" = .ok ⟨"a", 3, 3⟩ ∧
      (ofList [⟨"a", 1, 1⟩, ⟨"a", 3, 3⟩, ⟨"b", 2, 2⟩]).resolve "a" = .ok ⟨"a", 3, 3⟩ ∧
      (ofList as).resolve "a" = .ok ⟨"a", 3, 3⟩ := by
  intro as
  obtain ⟨hlast, -, -, hothers, horder⟩ := resolve_last as "a"
  have hresolve : (ofList as).resolve "a" = .ok ⟨"a", 3, 3⟩ :=
    (hlast _).mpr ⟨rfl, [⟨"a", 1, 1⟩, ⟨"b", 2, 2⟩], [], rfl, nofun⟩
  have hmoved : Reordered as [⟨"a", 1, 1⟩, ⟨"a", 3, 3⟩, ⟨"b", 2, 2⟩] :=
    .swap [⟨"a", 1, 1⟩] [] (by decide)
  refine ⟨?_, ?_, hresolve⟩
  · rw [← hothers _ (by decide), hresolve]
  · rw [← horder _ hmoved, hresolve]

/-- Among accounts of one name the order does count. -/
example : (ofList [⟨"a", 1, 1⟩, ⟨"a", 2, 2⟩]).resolve "a" ≠
    (ofList [⟨"a", 2, 2⟩, ⟨"a", 1, 1⟩]).resolve "a" := by
  decide

end AccountTable

end AgentLaunch
