import Mathlib
import AgentLaunch.Proofs.Bind
import AgentLaunch.Proofs.Credentials
import AgentLaunch.Proofs.Shell.Words

/-!
# Scripts as agents

What a machine runs for a command has the arguments of the command behind whatever its header puts
in front. A script sees exactly these arguments, so that it can write them down or hand them on.
-/

namespace AgentLaunch

namespace Image

variable {files : FileTree} {directory path : String} {room n : Nat} {argv : List String}
  {image : Image}

/-- Interpreters are called with more arguments in front, and with none behind. -/
theorem suffix_of_follow (h : follow files directory room n path argv = .ok image) :
    argv.tail <:+ image.args := by
  induction n generalizing path argv with
  | zero =>
    obtain ⟨node, -, h⟩ := exists_of_bind_ok h
    cases h
  | succ n ih =>
    obtain ⟨node, -, h⟩ := exists_of_bind_ok h
    cases node with
    | program name =>
      dsimp only at h
      split at h
      next =>
        cases h
        exact List.suffix_refl argv.tail
      next => cases h
    | file contents executable =>
      dsimp only at h
      split at h
      next => cases h
      split at h
      next => cases h
      next header _ =>
        split at h
        next => cases h
        split at h
        next => cases h
        have hsuffix := ih h
        rw [List.cons_append, List.tail_cons] at hsuffix
        exact (List.suffix_cons path argv.tail).trans ((List.suffix_append _ _).trans hsuffix)
    | directory | device | link | fifo => cases h

end Image

namespace Host

variable {h : Host} {program : String} {args : List String} {image : Image}

theorem suffix_of_image {path name : String} (himage : h.image path name args = .ok image) :
    args <:+ image.args :=
  Image.suffix_of_follow himage

theorem suffix_of_search {name : String} {denied : Bool} {last : OsError}
    {directories : List String} (hsearch : h.search name args denied last directories = .ok image) :
    args <:+ image.args := by
  induction directories generalizing denied last with
  | nil => cases hsearch
  | cons directory rest ih =>
    rw [search] at hsearch
    split at hsearch
    next himage =>
      cases hsearch
      exact suffix_of_image himage
    next =>
      split at hsearch
      next => exact ih hsearch
      split at hsearch
      next => exact ih hsearch
      next => cases hsearch

/-- What runs for a command has its arguments last. -/
theorem suffix_of_find (hfind : h.find program args = .ok image) : args <:+ image.args := by
  rw [find] at hfind
  split at hfind
  next => cases hfind
  split at hfind
  next => exact suffix_of_image hfind
  next => exact suffix_of_search hfind

end Host

namespace Shell

section Script

variable {s : State} {n : Nat} {program name path text : String} {args : List String}

/-- A path that no shell takes for switches. -/
def IsOperand (path : String) : Prop :=
  ∀ c rest, path.toList = c :: rest → c ≠ '-' ∧ c ≠ '+'

theorem shellArguments?_operand (hpath : IsOperand path) (a : State.ShellArguments) :
    State.shellArguments? a (path :: args) = some { a with rest := path :: args } := by
  rw [State.shellArguments?]
  split
  next heq => exact absurd rfl (hpath _ _ heq).1
  next heq => exact absurd rfl (hpath _ _ heq).1
  next heq => rw [if_pos (hpath _ _ heq)]
  next => rfl

/-- The state in which a script begins. -/
def State.called (s : State) (path : String) (args : List String) : State :=
  { s.asShell with name := path, arguments := args }

theorem beginProgram_script (hshell : program ∈ Tools.Catalog.shells)
    (hnarrow : ¬ (program = "bash" ∨ program = "rbash")) (hpath : IsOperand path)
    (htext : s.asShell.textOf? path = some text) :
    beginProgram (n + 2) ⟨program, name, path :: args⟩ s =
      finish n (runText n text.toList (s.called path args)) := by
  rw [beginProgram, if_pos (List.contains_iff_mem.mpr hshell), runShell]
  simp [hnarrow, shellArguments?_operand hpath, htext, State.called]

end Script

end Shell

namespace Host

open Shell

/-- A script that runs for a command is called by its path, and `"$@"` hands on the arguments of the
command behind any quoted texts, whatever they hold. -/
theorem script_of_runs {h : Host} {credentials : UInt32 × UInt32} {process : Process}
    {program shell name path text : String} {args : List String}
    (hruns : h.Runs credentials program args process)
    (hfind : h.find program args = .ok ⟨shell, name, path :: args⟩)
    (hshell : shell ∈ Tools.Catalog.shells) (hnarrow : ¬ (shell = "bash" ∨ shell = "rbash"))
    (hpath : IsOperand path)
    (htext : ∀ s : State, s.system.files = h.files → s.directory = h.workingDirectory →
      s.textOf? path = some text) :
    ∃ begun : State, begun.name = path ∧
      process.ending =
        (finish (callDepth - 2) (runText (callDepth - 2) text.toList begun)).ending ∧
      ∀ (n : Nat) (front : List (List Char)),
        fields (n + 3) (front.map (fun t => [Part.literal t true]) ++ [[.parameter "@" true]])
          begun = (front.map String.ofList ++ args, begun) := by
  obtain ⟨image, himage, hending⟩ := hruns
  cases hfind.symm.trans himage
  let called := (((h.under credentials).begin (h.lastPid + 1)).renewed program
    ⟨shell, name, path :: args⟩).called path args
  refine ⟨called, rfl, ?_, fun n front => ?_⟩
  · rw [hending, show callDepth = callDepth - 2 + 2 from rfl,
      beginProgram_script hshell hnarrow hpath (htext _ rfl rfl)]
    rfl
  · have hleaving : called.leaving = none := rfl
    have hfront : List.Forall₂ (Word.Says called) (front.map fun t => [Part.literal t true])
        (front.map fun t => [String.ofList t]) := by
      induction front with
      | nil => exact .nil
      | cons t front ih =>
        have ht : Word.Says called [Part.literal t true] [String.ofList t] := by
          have := Word.Says.text (s := called) (List.cons_ne_nil (Part.literal t true) [])
            (.cons rfl .nil)
          rwa [List.flatten_singleton] at this
        exact .cons ht ih
    have hsays := List.rel_append hfront (.cons .arguments .nil)
    have hfound : (front.map fun t => [String.ofList t]).flatten = front.map String.ofList := by
      rw [← List.flatMap_def, ← List.map_eq_flatMap]
    rw [fields_of_words hleaving hsays, List.flatten_append, hfound, List.flatten_singleton]
    rfl

end Host

end AgentLaunch
