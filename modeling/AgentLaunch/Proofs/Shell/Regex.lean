import Mathlib
import AgentLaunch.Shell.Regex

/-!
# What expressions fit

An expression fits a part of the text that begins where it is looked for: matching goes through the
text from a place on, whatever follows the expression.
-/

namespace AgentLaunch.Shell.Regex

section Places

variable {α : Type} {p q e : Spot} {fold : Bool} {r : Regex} {n : Nat}

/-- Whether a place comes behind a part of the text that begins at another one. -/
def Spot.Reaches (p q : Spot) : Prop :=
  ∃ t, p.rest = t ++ q.rest ∧ q.before = t.reverse ++ p.before

theorem Spot.Reaches.refl (p : Spot) : p.Reaches p :=
  ⟨[], rfl, rfl⟩

theorem Spot.Reaches.trans (h : p.Reaches q) (h' : q.Reaches e) : p.Reaches e := by
  obtain ⟨t, hrest, hbefore⟩ := h
  obtain ⟨u, hrest', hbefore'⟩ := h'
  refine ⟨t ++ u, by rw [hrest, hrest', List.append_assoc], ?_⟩
  rw [hbefore', hbefore, List.reverse_append, List.append_assoc]

theorem Spot.reaches_step (p : Spot) : p.Reaches p.step := by
  obtain ⟨before, rest, groups⟩ := p
  refine ⟨rest.take 1, (List.take_append_drop 1 rest).symm, ?_⟩
  cases rest <;> rfl

theorem Spot.Reaches.suffix (h : p.Reaches q) : q.rest <:+ p.rest := by
  obtain ⟨t, hrest, -⟩ := h
  exact ⟨t, hrest.symm⟩

/-- What is fitted is the part between the places. -/
theorem Spot.Reaches.take_append (h : p.Reaches q) :
    p.rest.take (p.rest.length - q.rest.length) ++ q.rest = p.rest := by
  obtain ⟨t, hrest, -⟩ := h
  rw [hrest, List.length_append, Nat.add_sub_cancel, List.take_left]

/-- What follows is asked at a place that is reached. -/
theorem exists_reaches_of_run {goOn : Spot → Option α} {a : α}
    (h : run fold n r p goOn = some a) : ∃ q, p.Reaches q ∧ goOn q = some a := by
  induction n generalizing r p goOn a with
  | zero => cases h
  | succ n ih =>
    cases r with
    | any =>
      rw [run] at h
      split at h
      next => cases h
      next => exact ⟨p.step, p.reaches_step, h⟩
    | oneOf negated ranges =>
      rw [run] at h
      split at h
      next =>
        dsimp only at h
        split at h
        next => exact ⟨p.step, p.reaches_step, h⟩
        next => cases h
      next => cases h
    | edge e =>
      rw [run] at h
      split at h
      next => exact ⟨p, .refl p, h⟩
      next => cases h
    | group k r =>
      obtain ⟨q, hq, hgoOn⟩ := ih h
      exact ⟨{ q with groups := (k, p.rest.take (p.rest.length - q.rest.length)) ::
        q.groups.filter fun g => g.1 ≠ k }, hq, hgoOn⟩
    | again k =>
      rw [run] at h
      split at h
      next => cases h
      next =>
        dsimp only at h
        split at h
        next => exact ⟨_, ⟨_, (List.take_append_drop _ _).symm, rfl⟩, h⟩
        next => cases h
    | sequence parts =>
      cases parts with
      | nil => exact ⟨p, .refl p, h⟩
      | cons r rest =>
        obtain ⟨q, hq, hrest⟩ := ih h
        obtain ⟨e, he, hgoOn⟩ := ih hrest
        exact ⟨e, hq.trans he, hgoOn⟩
    | alternatives branches =>
      obtain ⟨r, -, hr⟩ := List.exists_of_findSome?_eq_some h
      exact ih hr
    | repeated r least most =>
      rw [run] at h
      split at h
      next found honce =>
        split at honce
        next => cases honce
        next =>
          obtain ⟨q, hq, hmore⟩ := ih honce
          split at hmore
          next =>
            obtain ⟨e, he, hgoOn⟩ := ih hmore
            exact ⟨e, hq.trans he, h ▸ hgoOn⟩
          next => cases hmore
      next =>
        split at h
        next => exact ⟨p, .refl p, h⟩
        next => cases h

/-- The longest text that an expression fits is a part of the text. -/
theorem reaches_of_longest? (h : longest? fold r p = some q) : p.Reaches q := by
  rw [longest?] at h
  split at h
  next => cases h
  next found hfound =>
    obtain ⟨e, he, heq⟩ := exists_reaches_of_run hfound
    cases heq
    cases hends : (List.range found.rest.length).findSome? fun k =>
        run fold (enough p) r p fun q => if q.rest.length = k then some q else none with
    | none =>
      rw [hends] at h
      cases h
      exact he
    | some q' =>
      rw [hends] at h
      cases h
      obtain ⟨k, -, hk⟩ := List.exists_of_findSome?_eq_some hends
      obtain ⟨e', he', heq⟩ := exists_reaches_of_run hk
      split at heq
      next =>
        cases heq
        exact he'
      next => cases heq

/-- The place where an expression fits first lies in the text, and so does the part. -/
theorem reaches_of_search? (h : search? fold r n p = some (q, e)) :
    p.Reaches q ∧ q.Reaches e ∧ longest? fold r q = some e := by
  induction n generalizing p with
  | zero => cases h
  | succ n ih =>
    rw [search?] at h
    split at h
    next hfits =>
      cases h
      exact ⟨.refl _, reaches_of_longest? hfits, hfits⟩
    next =>
      split at h
      next => cases h
      next =>
        obtain ⟨hq, he, hfits⟩ := ih h
        exact ⟨p.reaches_step.trans hq, he, hfits⟩

/-- The parts of a line that an expression fits are parts of it, and none is empty. -/
theorem infix_of_mem_parts {t : List Char} (h : t ∈ parts fold r n p) : t <:+: p.rest ∧ t ≠ [] := by
  induction n generalizing p with
  | zero => cases h
  | succ n ih =>
    rw [parts] at h
    split at h
    next => cases h
    next q e hfound =>
      obtain ⟨hq, he, -⟩ := reaches_of_search? hfound
      dsimp only at h
      split at h
      next =>
        split at h
        next => cases h
        next =>
          obtain ⟨hpart, hne⟩ := ih h
          exact ⟨hpart.trans (hq.trans q.reaches_step).suffix.isInfix, hne⟩
      next hne =>
        obtain rfl | h := List.mem_cons.mp h
        · exact ⟨(List.take_prefix _ q.rest).isInfix.trans hq.suffix.isInfix, hne⟩
        · obtain ⟨hpart, hne⟩ := ih h
          exact ⟨hpart.trans (hq.trans he).suffix.isInfix, hne⟩

end Places

end AgentLaunch.Shell.Regex
