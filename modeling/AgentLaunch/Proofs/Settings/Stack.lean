import Mathlib.Data.List.Induction
import AgentLaunch.Settings

/-!
# Stacks of layers

Layers laid over one another, the lowest one first. Each parameter comes from the last layer that
sets it, whatever the layers say about the other parameters. So it does not matter in which groups
the layers are merged.
-/

namespace AgentLaunch.Settings

section Overlay

variable {s t : Settings}

theorem ext_get (h : ∀ f, s.get f = t.get f) : s = t := by
  rw [← ofFields_get s, ← ofFields_get t, funext h]

@[simp] theorem get_empty (f : Field) : empty.get f = none :=
  get_ofFields _ f

theorem overlay_assoc (a b c : Settings) :
    (a.overlay b).overlay c = a.overlay (b.overlay c) := by
  apply ext_get
  intro f
  simp only [get_overlay, Option.or_assoc]

@[simp] theorem empty_overlay (s : Settings) : empty.overlay s = s := by
  apply ext_get
  intro f
  rw [get_overlay, get_empty, Option.or_none]

@[simp] theorem overlay_empty (s : Settings) : s.overlay empty = s := by
  apply ext_get
  intro f
  rw [get_overlay, get_empty, Option.none_or]

@[simp] theorem overlay_self (s : Settings) : s.overlay s = s := by
  apply ext_get
  intro f
  rw [get_overlay, Option.or_self]

instance : Std.Associative overlay := ⟨overlay_assoc⟩

end Overlay

/-- The settings that a stack of layers comes to. -/
def merge (layers : List Settings) : Settings :=
  layers.foldl overlay empty

/-- The last layer that sets a parameter sets it to this text. -/
def LastSets (layers : List Settings) (f : Field) (text : String) : Prop :=
  ∃ below top above, layers = below ++ top :: above ∧ top.get f = some text ∧
    ∀ s ∈ above, s.get f = none

section Merge

variable {layers : List Settings} {top : Settings} {f : Field} {text : String}

theorem merge_concat (layers : List Settings) (top : Settings) :
    merge (layers ++ [top]) = (merge layers).overlay top := by
  rw [merge, List.foldl_append]
  rfl

/-- One more layer decides what it sets, and nothing else. -/
theorem lastSets_concat : LastSets (layers ++ [top]) f text ↔
    top.get f = some text ∨ top.get f = none ∧ LastSets layers f text := by
  constructor
  · rintro ⟨below, s, above, hlayers, hs, habove⟩
    -- The layer that decides is the top one just when nothing lies above it.
    cases above using List.reverseRecOn with
    | nil =>
      obtain ⟨-, htop⟩ := List.append_inj' hlayers rfl
      cases htop
      exact .inl hs
    | append_singleton above last =>
      rw [← List.cons_append, ← List.append_assoc] at hlayers
      obtain ⟨hbelow, htop⟩ := List.append_inj' hlayers rfl
      cases htop
      refine .inr ⟨habove top (by simp), below, s, above, hbelow, hs, ?_⟩
      intro t ht
      exact habove t (List.mem_append_left _ ht)
  · rintro (htop | ⟨htop, below, s, above, rfl, hs, habove⟩)
    · exact ⟨layers, top, [], rfl, htop, nofun⟩
    · refine ⟨below, s, above ++ [top], by simp, hs, ?_⟩
      intro t ht
      rcases List.mem_append.mp ht with ht | ht
      · exact habove t ht
      · rw [List.mem_singleton.mp ht, htop]

theorem get_merge_eq_some_iff : (merge layers).get f = some text ↔ LastSets layers f text := by
  induction layers using List.reverseRecOn with
  | nil => simp [merge, LastSets]
  | append_singleton layers top ih =>
    rw [merge_concat, get_overlay, Option.or_eq_some_iff, ih, lastSets_concat]

theorem get_merge_eq_none_iff : (merge layers).get f = none ↔ ∀ s ∈ layers, s.get f = none := by
  induction layers using List.reverseRecOn with
  | nil => simp [merge]
  | append_singleton layers top ih =>
    rw [merge_concat, get_overlay, Option.or_eq_none_iff, ih]
    simp [or_imp, forall_and, and_comm]

/-- Laying the layers of a stack one by one over settings is laying the merged stack over them. -/
theorem foldl_overlay (s : Settings) (layers : List Settings) :
    layers.foldl overlay s = s.overlay (merge layers) :=
  calc layers.foldl overlay s
    _ = layers.foldl overlay (s.overlay empty) := by rw [overlay_empty]
    _ = s.overlay (merge layers) := List.foldl_assoc

theorem merge_append (lower upper : List Settings) :
    merge (lower ++ upper) = (merge lower).overlay (merge upper) := by
  rw [merge, List.foldl_append, foldl_overlay]
  rfl

theorem merge_flatten (groups : List (List Settings)) :
    merge groups.flatten = merge (groups.map merge) := by
  induction groups using List.reverseRecOn with
  | nil => rfl
  | append_singleton groups group ih =>
    rw [List.flatten_append, merge_append, ih, List.map_append, List.map_singleton, merge_concat,
      List.flatten_singleton]

theorem merge_repeated (below above : List Settings) (s : Settings) :
    merge (below ++ s :: s :: above) = merge (below ++ s :: above) := by
  have hpair : merge (s :: s :: above) = merge (s :: above) := by
    rw [merge, List.foldl_cons, List.foldl_cons, empty_overlay, overlay_self]
    simp [merge]
  rw [merge_append, hpair, merge_append]

end Merge

/-- Settings in which every parameter is what the last layer of a stack sets it to, if any does. -/
structure IsMerged (layers : List Settings) (merged : Settings) : Prop where
  set_iff : ∀ f text, merged.get f = some text ↔ LastSets layers f text
  unset_iff : ∀ f, merged.get f = none ↔ ∀ s ∈ layers, s.get f = none

/-- What a stack of layers comes to, one parameter at a time, and the laws of overlaying. -/
theorem merge_laws :
    (∀ layers, IsMerged layers (merge layers)) ∧
    (∀ a b c : Settings, (a.overlay b).overlay c = a.overlay (b.overlay c)) ∧
    (∀ s, empty.overlay s = s ∧ s.overlay empty = s) ∧
    (∀ lower upper, merge (lower ++ upper) = (merge lower).overlay (merge upper) ∧
      merge (lower ++ upper) = upper.foldl overlay (merge lower)) ∧
    (∀ groups : List (List Settings), merge groups.flatten = merge (groups.map merge)) ∧
    ∀ below s above, merge (below ++ s :: s :: above) = merge (below ++ s :: above) := by
  refine ⟨?_, overlay_assoc, ?_, ?_, merge_flatten, ?_⟩
  · intro layers
    exact ⟨fun _ _ => get_merge_eq_some_iff, fun _ => get_merge_eq_none_iff⟩
  · intro s
    exact ⟨empty_overlay s, overlay_empty s⟩
  · intro lower upper
    rw [foldl_overlay]
    exact ⟨merge_append lower upper, merge_append lower upper⟩
  · intro below s above
    exact merge_repeated below above s

/-- A version that is set to nothing hides the version below. -/
example : (merge [⟨some "/opt", some "1", none, none, none⟩, ⟨none, some "", none, none, none⟩]) =
    ⟨some "/opt", some "", none, none, none⟩ := by
  rfl

end AgentLaunch.Settings
