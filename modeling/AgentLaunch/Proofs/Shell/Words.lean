import Mathlib
import AgentLaunch.Shell.Run

/-!
# Words in quotes

A word in quotes stands for its text, whatever that holds: it is neither split, nor is it a pattern.
The word for all arguments stands for each of them.
-/

namespace AgentLaunch.Shell

namespace Glob

/-- A pattern all of whose characters are quoted. -/
def quoted (t : List Char) : List Marked :=
  t.map (·, true)

theorem isPattern_quoted (t : List Char) : isPattern (quoted t) = false := by
  simp [isPattern, quoted]

theorem matchesAtoms_characters (t s : List Char) :
    matchesAtoms (t.map .character) s = true ↔ s = t := by
  induction t generalizing s with
  | nil => simp [matchesAtoms]
  | cons c t ih =>
    cases s with
    | nil => simp [matchesAtoms]
    | cons d s =>
      rw [List.map_cons, matchesAtoms, Bool.and_eq_true, decide_eq_true_iff, ih, List.cons.injEq,
        eq_comm (a := c)]

theorem atoms_quoted (t : List Char) : atoms t.length (quoted t) = t.map .character := by
  induction t with
  | nil => rfl
  | cons c t ih => rw [List.map_cons, ← ih]; rfl

/-- What is quoted fits nothing but itself. -/
theorem fits_quoted (t s : List Char) : fits (quoted t) s = true ↔ s = t := by
  have hlength : (quoted t).length = t.length := List.length_map _
  rw [fits, hlength, atoms_quoted, matchesAtoms_characters]

end Glob

namespace Piece

open Glob (Marked quoted)

theorem fieldsFrom_characters (begun : List Marked) (t : List Char) (rest : List Piece) :
    fieldsFrom (some begun) false (t.map (fun c => .character c true) ++ rest) =
      fieldsFrom (some (begun ++ quoted t)) false rest := by
  induction t generalizing begun with
  | nil => simp [quoted]
  | cons c t ih =>
    rw [List.map_cons, List.cons_append, fieldsFrom, Option.getD_some, ih]
    simp [quoted]

/-- A quoted text is one field, or goes on with the one that is begun. -/
theorem fieldsFrom_whole (begun : Option (List Marked)) (closed : Bool) (t : List Char)
    (rest : List Piece) : fieldsFrom begun closed (whole true t ++ rest) =
      fieldsFrom (some (begun.getD [] ++ quoted t)) false rest := by
  have hwhole : whole true t = .present :: t.map fun c => .character c true := rfl
  rw [hwhole, List.cons_append, fieldsFrom, fieldsFrom_characters]

theorem fieldsFrom_intersperse (t : List Char) (ts : List (List Char)) (closed : Bool) :
    fieldsFrom none closed (((t :: ts).map (whole true)).intersperse [.separator]).flatten =
      (t :: ts).map quoted := by
  induction ts generalizing t closed with
  | nil =>
    rw [List.map_singleton, List.intersperse_singleton, List.flatten_singleton,
      ← List.append_nil (whole true t), fieldsFrom_whole]
    rfl
  | cons u ts ih =>
    rw [List.map_cons, List.map_cons, List.intersperse_cons_cons, List.flatten_cons,
      fieldsFrom_whole, List.flatten_cons, List.singleton_append, fieldsFrom, ← List.map_cons, ih]
    rfl

/-- Quoted texts with separators between them are a field each. -/
theorem fields_intersperse (ts : List (List Char)) :
    fields ((ts.map (whole true)).intersperse [.separator]).flatten = ts.map quoted := by
  cases ts with
  | nil => rfl
  | cons t ts => exact fieldsFrom_intersperse t ts false

/-- Quoted texts without separators are one field together. -/
theorem fieldsFrom_flatten (begun : Option (List Marked)) (ts : List (List Char))
    (h : begun.isSome ∨ ts ≠ []) :
    fieldsFrom begun false (ts.map (whole true)).flatten =
      [begun.getD [] ++ quoted ts.flatten] := by
  induction ts generalizing begun with
  | nil =>
    obtain hbegun | hne := h
    · obtain ⟨w, rfl⟩ := Option.isSome_iff_exists.mp hbegun
      simp [fieldsFrom, quoted]
    · exact absurd rfl hne
  | cons t ts ih =>
    rw [List.map_cons, List.flatten_cons, fieldsFrom_whole, ih _ (.inl rfl)]
    simp [quoted]

end Piece

section Expand

variable {s : State} {n : Nat} {t : List Char}

/-- What a part of a word in quotes stands for, if that is one text. -/
def Part.quotedText? (s : State) : Part → Option (List Char)
  | .literal t true => some t
  | .parameter name true => if name = "@" then none else (s.parameter? name).map String.toList
  | _ => none

theorem paths_quoted (s : State) (t : List Char) :
    s.paths (Glob.quoted t) = [String.ofList t] := by
  have htext : (Glob.quoted t).map (·.1) = t := by
    rw [Glob.quoted, List.map_map]
    exact List.map_id t
  rw [State.paths, Glob.isPattern_quoted, htext]
  simp

theorem piece_quoted {part : Part} (h : part.quotedText? s = some t) :
    piece (n + 1) true false part s = (Piece.whole true t, s) := by
  cases part with
  | literal u quoted =>
    cases quoted with
    | true =>
      cases h
      rfl
    | false => cases h
  | parameter name quoted =>
    cases quoted with
    | true =>
      rw [Part.quotedText?] at h
      split at h
      next => cases h
      next hname =>
        obtain ⟨value, hvalue, rfl⟩ := Option.map_eq_some_iff.mp h
        simp [piece, hvalue, State.parameterPieces, State.valuePieces, hname]
    | false => cases h
  | _ => cases h

/-- A fold that puts something behind what it has found, and leaves the state as it is. -/
theorem foldl_found {α β γ : Type} {f : List γ × State → α → List γ × State} {R : α → β → Prop}
    {g : β → List γ} (hstep : ∀ a b front, R a b → f (front, s) a = (front ++ g b, s))
    {as : List α} {bs : List β} (h : List.Forall₂ R as bs) (front : List γ) :
    as.foldl f (front, s) = (front ++ (bs.map g).flatten, s) := by
  induction h generalizing front with
  | nil => simp
  | cons hab _ ih => rw [List.foldl_cons, hstep _ _ front hab, ih, List.map_cons, List.flatten_cons,
      List.append_assoc]

theorem pieces_quoted {word : Word} {ts : List (List Char)} (hs : s.leaving = none)
    (h : List.Forall₂ (fun part t => part.quotedText? s = some t) word ts) :
    pieces (n + 2) true false word s = ((ts.map (Piece.whole true)).flatten, s) := by
  rw [pieces, foldl_found ?_ h, List.nil_append]
  intro part t front hpart
  simp [hs, piece_quoted hpart]

/-- What a word in quotes stands for: one text, or each of the arguments. -/
inductive Word.Says (s : State) : Word → List String → Prop
  | arguments : Word.Says s [.parameter "@" true] s.arguments
  | text {word : Word} {ts : List (List Char)} (parts : word ≠ [])
      (texts : List.Forall₂ (fun part t => part.quotedText? s = some t) word ts) :
      Word.Says s word [String.ofList ts.flatten]

theorem piece_arguments (n : Nat) (s : State) : piece (n + 1) true false (.parameter "@" true) s =
    (((s.arguments.map fun a => Piece.whole true a.toList).intersperse [.separator]).flatten,
      s) := by
  cases hargs : s.arguments with
  | nil => simp [piece, State.parameter?, hargs, State.mayMiss]
  | cons a rest =>
    simp [piece, State.parameter?, hargs, State.parameterPieces, State.valuePieces]

theorem flatMap_paths_quoted (s : State) (ts : List (List Char)) :
    (ts.map Glob.quoted).flatMap s.paths = ts.map String.ofList := by
  rw [List.flatMap_map, List.flatMap_congr fun t _ => paths_quoted s t, List.map_eq_flatMap]

/-- The pieces of a word in quotes make up the fields that it stands for. -/
theorem Word.Says.fields_eq {word : Word} {found : List String} (hs : s.leaving = none)
    (h : word.Says s found) : ∃ ps, pieces (n + 2) true false word s = (ps, s) ∧
      (Piece.fields ps).flatMap s.paths = found := by
  cases h with
  | arguments =>
    refine ⟨((s.arguments.map fun a => Piece.whole true a.toList).intersperse [.separator]).flatten,
      by simp [pieces, hs, piece_arguments], ?_⟩
    have hwhole : (s.arguments.map fun a => Piece.whole true a.toList) =
        (s.arguments.map String.toList).map (Piece.whole true) := by simp
    rw [hwhole, Piece.fields_intersperse, flatMap_paths_quoted]
    simp
  | @text _ ts hparts htexts =>
    have hne : ts ≠ [] := by
      rintro rfl
      exact hparts (List.forall₂_nil_right_iff.mp htexts)
    refine ⟨_, pieces_quoted hs htexts, ?_⟩
    rw [Piece.fields, Piece.fieldsFrom_flatten none ts (.inr hne)]
    exact (List.flatMap_singleton _ _).trans (paths_quoted s ts.flatten)

theorem fields_of_words {words : List Word} {found : List (List String)} (hs : s.leaving = none)
    (h : List.Forall₂ (Word.Says s) words found) :
    fields (n + 3) words s = (found.flatten, s) := by
  rw [fields, foldl_found (g := id) ?_ h, List.nil_append, List.map_id]
  intro word texts front hsays
  obtain ⟨ps, hps, hfields⟩ := hsays.fields_eq (n := n) hs
  simp [hs, hps, hfields]

end Expand

end AgentLaunch.Shell
