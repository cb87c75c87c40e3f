import Mathlib
import AgentLaunch.Arguments.Parse
import AgentLaunch.Proofs.Bind

/-!
# Single words

The ways in which one word of a command line is taken. There are no others.
-/

namespace AgentLaunch.Arguments

variable {scope : Scope} {p q : Progress} {w : String}

/-- The ways in which a word is taken. -/
inductive Takes (scope : Scope) (p : Progress) (w : String) : Progress → Prop where
  | doubleDash (form : Form.of w = .doubleDash) : Takes scope p w { p with trailing := true }
  | attached {flag value : String} {o : ValueOption} {q r : Progress}
      (form : Form.of w = .long flag (some value))
      (known : Flag.ofLong? scope flag = some (.value o)) (settled : p.settle = .ok q)
      (recorded : q.record o value = .ok r) : Takes scope p w r
  | option {flag : String} {o : ValueOption} {q : Progress} (form : Form.of w = .long flag none)
      (known : Flag.ofLong? scope flag = some (.value o)) (settled : p.settle = .ok q) :
      Takes scope p w { q with pending := .awaiting o }
  | switch {flag : String} {s : Switch} {q r : Progress} (form : Form.of w = .long flag none)
      (known : Flag.ofLong? scope flag = some (.switch s)) (settled : p.settle = .ok q)
      (switched : q.switch scope s = .ok r) : Takes scope p w r
  | letter {c : Char} {s : Switch} {q r : Progress} (form : Form.of w = .short c)
      (known : Switch.ofLetter? scope c = some s) (settled : p.settle = .ok q)
      (switched : q.switch scope s = .ok r) : Takes scope p w r
  | value {o : ValueOption} (form : Form.of w = .word) (awaited : p.pending = .awaiting o) :
      Takes scope p w { p with pending := .filled o w }

theorem takes_of_step (h : step scope p w = .ok q) : Takes scope p w q := by
  unfold step at h
  split at h
  · cases h
  · cases hform : Form.of w with
    | doubleDash =>
      simp only [hform] at h
      cases h
      exact .doubleDash hform
    | long flag attached =>
      simp only [hform] at h
      split at h
      · cases h
      next hknown =>
        obtain ⟨r, hsettle, hrecord⟩ := exists_of_bind_ok h
        exact .attached hform hknown hsettle hrecord
      next hknown =>
        obtain ⟨r, hsettle, hpending⟩ := exists_of_bind_ok h
        cases hpending
        exact .option hform hknown hsettle
      · cases h
      next hknown =>
        obtain ⟨r, hsettle, hswitch⟩ := exists_of_bind_ok h
        exact .switch hform hknown hsettle hswitch
    | short c =>
      simp only [hform] at h
      split at h
      · cases h
      next hknown =>
        obtain ⟨r, hsettle, hswitch⟩ := exists_of_bind_ok h
        exact .letter hform hknown hsettle hswitch
    | word =>
      simp only [hform] at h
      split at h
      next hawaited =>
        cases h
        exact .value hform hawaited
      · cases h

theorem step_of_takes (hopen : p.trailing = false) (h : Takes scope p w q) :
    step scope p w = .ok q := by
  rw [step, if_neg (by simp [hopen])]
  cases h with
  | doubleDash form => simp only [form]
  | attached form known settled recorded =>
    simp only [form, known, settled, ok_bind, recorded]
  | option form known settled =>
    simp only [form, known, settled, ok_bind]
    rfl
  | switch form known settled switched => simp only [form, known, settled, ok_bind, switched]
  | letter form known settled switched => simp only [form, known, settled, ok_bind, switched]
  | value form awaited => simp only [form, awaited]

theorem open_of_step (h : step scope p w = .ok q) : p.trailing = false := by
  cases hclosed : p.trailing with
  | true =>
    rw [step, if_pos hclosed] at h
    cases h
  | false => rfl

end AgentLaunch.Arguments
