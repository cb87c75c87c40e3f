import Mathlib
import AgentLaunch.Perl.Functions

/-!
# Variables of scripts

A variable that a block hides is as it was when the block has ended, whatever the block does with it
and with others, and the variables that it does not hide stay as it leaves them.
-/

namespace AgentLaunch.Perl

/-- The kind and the name of a hidden variable. -/
def Shadow.key : Shadow → Char × String
  | .scalar n _ => ('$', n)
  | .array n _ => ('@', n)
  | .table n _ => ('%', n)

namespace Machine

section Look

variable {α β : Type} [DecidableEq α] {k : α} {vs : List (α × β)}

theorem look_filter (k n : α) (vs : List (α × β)) :
    look k (vs.filter fun e => e.1 ≠ n) = if k = n then none else look k vs := by
  rw [look, List.find?_filter]
  simp only [decide_eq_true_eq]
  split
  next h =>
    have hnone : (vs.find? fun e => decide (e.1 ≠ n ∧ e.1 = k)) = none := by
      rw [List.find?_eq_none]
      simp +contextual [h]
    rw [hnone, Option.map_none]
  next h =>
    have hsame : (fun e : α × β => decide (e.1 ≠ n ∧ e.1 = k)) = fun e => decide (e.1 = k) := by
      funext e
      by_cases he : e.1 = k <;> simp [he, h]
    rw [hsame, look]

theorem look_put (k n : α) (v : β) (vs : List (α × β)) :
    look k (put n v vs) = if k = n then some v else look k vs := by
  rw [put, look, List.find?_cons]
  split
  next h => simp_all
  next h =>
    have hne : k ≠ n := fun heq => by simp [heq] at h
    rw [if_neg hne, ← look, look_filter, if_neg hne]

end Look

section Blocks

variable {m : Machine} {h h' : Shadow}

/-- Whether the variable of a shadow is as the shadow says. -/
def Agrees (m : Machine) : Shadow → Prop
  | .scalar n old => look n m.scalars = old
  | .array n old => look n m.arrays = old
  | .table n old => look n m.tables = old

/-- The machine with the variable of a shadow as the shadow says. -/
def restored (m : Machine) : Shadow → Machine
  | .scalar n (some v) => { m with scalars := put n v m.scalars }
  | .scalar n none => { m with scalars := m.scalars.filter fun e => e.1 ≠ n }
  | .array n (some v) => m.setArray n v
  | .array n none => { m with arrays := m.arrays.filter fun e => e.1 ≠ n }
  | .table n (some v) => m.setTable n v
  | .table n none => { m with tables := m.tables.filter fun e => e.1 ≠ n }

theorem bringBack_eq (m : Machine) (depth : Nat) : m.bringBack depth =
    (m.shadows.take (m.shadows.length - depth)).foldl restored
      { m with shadows := m.shadows.drop (m.shadows.take (m.shadows.length - depth)).length } := by
  rw [bringBack]
  congr 1

theorem agrees_restored (m : Machine) (h : Shadow) : (m.restored h).Agrees h := by
  cases h with
  | scalar n old | array n old | table n old =>
    cases old with
    | none => exact (look_filter n n _).trans (if_pos rfl)
    | some v => exact (look_put n n v _).trans (if_pos rfl)

theorem agrees_restored_iff (hkey : h'.key ≠ h.key) : (m.restored h).Agrees h' ↔ m.Agrees h' := by
  cases h with
  | scalar n old =>
    cases h' with
    | scalar k _ =>
      have hk : k ≠ n := fun heq => hkey (congrArg (Prod.mk '$') heq)
      cases old <;> simp only [restored, Agrees, look_put, look_filter, if_neg hk]
    | array | table => cases old <;> exact Iff.rfl
  | array n old =>
    cases h' with
    | array k _ =>
      have hk : k ≠ n := fun heq => hkey (congrArg (Prod.mk '@') heq)
      cases old <;> simp only [restored, Agrees, setArray, look_put, look_filter, if_neg hk]
    | scalar | table => cases old <;> exact Iff.rfl
  | table n old =>
    cases h' with
    | table k _ =>
      have hk : k ≠ n := fun heq => hkey (congrArg (Prod.mk '%') heq)
      cases old <;> simp only [restored, Agrees, setTable, look_put, look_filter, if_neg hk]
    | scalar | array => cases old <;> exact Iff.rfl

theorem shadows_restored (m : Machine) (h : Shadow) : (m.restored h).shadows = m.shadows := by
  cases h with
  | scalar n old | array n old | table n old => cases old <;> rfl

theorem shadows_foldl_restored (m : Machine) (hs : List Shadow) :
    (hs.foldl restored m).shadows = m.shadows := by
  induction hs generalizing m with
  | nil => rfl
  | cons h hs ih => rw [List.foldl_cons, ih, shadows_restored]

/-- What is brought back for other variables does not count. -/
theorem agrees_foldl_iff {hs : List Shadow} (hkeys : ∀ h' ∈ hs, h.key ≠ h'.key) :
    (hs.foldl restored m).Agrees h ↔ m.Agrees h := by
  induction hs generalizing m with
  | nil => rfl
  | cons h' hs ih =>
    rw [List.foldl_cons, ih fun k hk => hkeys k (List.mem_cons_of_mem h' hk),
      agrees_restored_iff (hkeys h' List.mem_cons_self)]

theorem bringBack_append {hidden rest : List Shadow} (hshadows : m.shadows = hidden ++ rest) :
    m.bringBack rest.length = hidden.foldl restored { m with shadows := rest } := by
  have htaken : m.shadows.take (m.shadows.length - rest.length) = hidden := by
    rw [hshadows, List.length_append, Nat.add_sub_cancel, List.take_left]
  rw [bringBack_eq, htaken, hshadows, List.drop_left]

/-- Of the shadows of a variable the first one counts, and variables without one stay. -/
theorem agrees_bringBack {newer older rest : List Shadow}
    (hshadows : m.shadows = newer ++ h :: older ++ rest)
    (hfirst : ∀ h' ∈ older, h.key ≠ h'.key) : (m.bringBack rest.length).Agrees h := by
  rw [bringBack_append hshadows, List.foldl_append, List.foldl_cons, agrees_foldl_iff hfirst]
  exact agrees_restored _ h

theorem agrees_bringBack_iff {hidden rest : List Shadow} (hshadows : m.shadows = hidden ++ rest)
    (hkeys : ∀ h' ∈ hidden, h.key ≠ h'.key) :
    (m.bringBack rest.length).Agrees h ↔ m.Agrees h := by
  rw [bringBack_append hshadows, agrees_foldl_iff hkeys]
  cases h <;> rfl

/-- What happens within a block: variables are hidden, and all else but what is hidden changes. -/
inductive Within : Machine → Machine → Prop
  | refl (m : Machine) : Within m m
  | hide {m m' : Machine} (before : Within m m') (keeps : Bool) (e : Expr) :
      Within m (m'.hide keeps e)
  | change {m m' after : Machine} (before : Within m m') (same : after.shadows = m'.shadows) :
      Within m after

/-- What is kept of a variable that is hidden. -/
def shadow? (m : Machine) : Expr → Option Shadow
  | .scalar n => some (.scalar n (look n m.scalars))
  | .array n => some (.array n (look n m.arrays))
  | .table n => some (.table n (look n m.tables))
  | _ => none

theorem agrees_iff {e : Expr} (he : m.shadow? e = some h) (m' : Machine) :
    m'.Agrees h ↔ m'.shadow? e = some h := by
  cases e with
  | scalar n | array n | table n =>
    cases he
    simp [Agrees, shadow?]
  | _ => cases he

theorem shadows_set (m : Machine) (n : String) (v : Value) : (m.set n v).shadows = m.shadows := by
  unfold set
  split <;> rfl

theorem shadows_hide (m : Machine) (keeps : Bool) (e : Expr) :
    (m.hide keeps e).shadows = (m.shadow? e).toList ++ m.shadows := by
  cases e with
  | scalar n =>
    cases keeps with
    | true => rfl
    | false => exact shadows_set _ n .undefined
  | array n | table n => cases keeps <;> rfl
  | _ => rfl

theorem Within.exists_shadows {m m' : Machine} (h : Within m m') :
    ∃ newer, m'.shadows = newer ++ m.shadows := by
  induction h with
  | refl => exact ⟨[], rfl⟩
  | hide before keeps e ih =>
    obtain ⟨newer, ih⟩ := ih
    exact ⟨_ ++ newer, by rw [shadows_hide, ih, List.append_assoc]⟩
  | change before same ih =>
    obtain ⟨newer, ih⟩ := ih
    exact ⟨newer, same.trans ih⟩

/-- A variable that a block hides is as it was when the block has ended. -/
theorem shadow?_bringBack {m' : Machine} {keeps : Bool} {e : Expr}
    (hwithin : Within (m.hide keeps e) m') :
    (m'.bringBack m.shadows.length).shadow? e = m.shadow? e ∧
      (m'.bringBack m.shadows.length).shadows = m.shadows := by
  obtain ⟨newer, hshadows⟩ := hwithin.exists_shadows
  rw [shadows_hide, ← List.append_assoc] at hshadows
  refine ⟨?_, ?_⟩
  · cases he : m.shadow? e with
    | none =>
      cases e with
      | scalar | array | table => cases he
      | _ => rfl
    | some h =>
      have hall : m'.shadows = newer ++ h :: [] ++ m.shadows := by rw [hshadows, he]; rfl
      rw [← agrees_iff he]
      exact agrees_bringBack hall fun h' hmem => absurd hmem List.not_mem_nil
  · rw [bringBack_append hshadows, shadows_foldl_restored]

end Blocks

section Texts

/-- A text is found where it begins first, from the start on. -/
theorem position?_eq_some_iff {t part : List Char} {start k : Nat} :
    position? t part start = some k ↔
      (start ≤ k ∧ k ≤ t.length ∧ part <+: t.drop k) ∧
        ∀ j, start ≤ j → j < k → ¬ part <+: t.drop j := by
  have hrange : (List.range (t.length + 1)).drop start =
      List.range' start (t.length + 1 - start) := by
    rw [List.range_eq_range', List.drop_range']
    simp
  rw [position?, hrange, List.find?_range'_eq_some, List.mem_range'_1]
  simp only [List.isPrefixOf_iff_prefix, Bool.not_eq_true', ← Bool.not_eq_true]
  constructor
  · rintro ⟨hpart, ⟨hstart, hend⟩, hfirst⟩
    exact ⟨⟨hstart, by omega, hpart⟩, hfirst⟩
  · rintro ⟨⟨hstart, hend, hpart⟩, hfirst⟩
    exact ⟨hpart, ⟨hstart, by omega⟩, hfirst⟩

/-- What a start and a length tell of a text is a part of it. -/
theorem le_of_extent? {length first last : Nat} {start : Int} {count : Option Int}
    (h : extent? length start count = some (first, last)) : first ≤ last ∧ last ≤ length := by
  obtain ⟨a, b, hextent⟩ : ∃ a b : Int, extent? length start count =
      if a > length ∨ a < 0 ∧ b < 0 then none
      else some ((max a 0).toNat, (max (max a 0) (min b length)).toNat) := ⟨_, _, rfl⟩
  rw [hextent] at h
  split at h
  next => cases h
  next hinside =>
    cases h
    omega

end Texts

end Machine

end AgentLaunch.Perl
