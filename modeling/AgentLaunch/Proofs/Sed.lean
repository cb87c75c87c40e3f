import Mathlib
import AgentLaunch.Proofs.Shell.Regex
import AgentLaunch.Proofs.Tools.Lines
import AgentLaunch.Sed.Run

/-!
# Scripts that rewrite lines

Commands that neither read, write nor jump change the line and the text that is kept beside it, and
nothing else. A script of such commands writes one line for each one that it reads, in order. A
substitution that puts what it finds in its own place changes nothing.
-/

namespace AgentLaunch.Sed

open Tools (Launch)

/-- What is made of a line and of the text that is kept beside it. -/
abbrev Rewriting := List Char × List Char → List Char × List Char

/-- The rewriting of an action, if that is all it does. -/
def Action.rewriting? : Action → Option Rewriting
  | .block | .close | .label _ | .nothing => some id
  | .translate pairs => some fun (t, kept) =>
      (t.map fun c => ((pairs.find? fun p => p.1 = c).map (·.2)).getD c, kept)
  | .empty => some fun (_, kept) => ([], kept)
  | .getHold => some fun (_, kept) => (kept, kept)
  | .appendHold => some fun (t, kept) => (t ++ '\n' :: kept, kept)
  | .keep => some fun (t, _) => (t, t)
  | .appendKeep => some fun (t, kept) => (t, kept ++ '\n' :: t)
  | .exchange => some fun (t, kept) => (kept, t)
  | _ => none

/-- What a command makes of every line. -/
def Command.rewriting? (c : Command) : Option Rewriting :=
  match c.selection, c.negated with
  | .all, false => c.action.rewriting?
  | _, _ => none

/-- What commands make one after another. -/
def inTurn (fs : List Rewriting) : Rewriting := fun spaces =>
  fs.foldl (fun spaces f => f spaces) spaces

/-- The lines that are made of lines, with a text that is kept from one to the next. -/
def rewritten (f : Rewriting) : List Char → List (List Char) → List (List Char)
  | _, [] => []
  | kept, l :: ls => (f (l, kept)).1 :: rewritten f (f (l, kept)).2 ls

namespace Editor

variable {launch : Launch} {g : EditOptions} {script : List Command} {e : Editor}

/-- The editor with another line and another text that is kept. -/
def withSpaces (e : Editor) (spaces : List Char × List Char) : Editor :=
  { e with space := spaces.1, hold := spaces.2 }

/-- The step of a command that rewrites lines. -/
theorem act_rewriting {c : Command} {f : Rewriting} (k : Nat)
    (h : c.action.rewriting? = some f) :
    act launch g script k c e = (.onto (k + 1), e.withSpaces (f (e.space, e.hold))) := by
  obtain ⟨selection, negated, action⟩ := c
  cases action <;> cases h <;> rfl

theorem runFrom_rewriting {c : Command} {f : Rewriting}
    {k : Nat} (n : Nat) (hc : script[k]? = some c) (h : c.rewriting? = some f)
    (hcode : e.code = 0) : runFrom launch g script (n + 1) k e =
      runFrom launch g script n (k + 1) (e.withSpaces (f (e.space, e.hold))) := by
  obtain ⟨selection, negated, action⟩ := c
  cases selection <;> cases negated <;> try cases h
  have hact : act launch g script k ⟨.all, false, action⟩ e =
      (.onto (k + 1), e.withSpaces (f (e.space, e.hold))) := act_rewriting k h
  rw [runFrom, hc]
  simp [isSelected, hcode, hact, withSpaces]

/-- The run of the commands from one on. -/
theorem runFrom_of_rewritings {fs : List Rewriting}
    {n k : Nat} (h : (script.drop k).map Command.rewriting? = fs.map some) (hcode : e.code = 0)
    (hn : fs.length < n) : runFrom launch g script n k e =
      (.done true, e.withSpaces (inTurn fs (e.space, e.hold))) := by
  induction fs generalizing n k e with
  | nil =>
    obtain ⟨n, rfl⟩ := Nat.exists_eq_add_one_of_ne_zero (Nat.ne_zero_of_lt hn)
    have hend : script.length ≤ k := by simpa using h
    rw [runFrom, List.getElem?_eq_none hend]
    rfl
  | cons f fs ih =>
    obtain ⟨n, rfl⟩ := Nat.exists_eq_add_one_of_ne_zero (Nat.ne_zero_of_lt hn)
    cases hdrop : script.drop k with
    | nil => simp [hdrop] at h
    | cons c rest =>
      obtain ⟨hc, hrest⟩ := List.cons.inj (hdrop ▸ h)
      have hk : script[k]? = some c := by
        rw [← Nat.add_zero k, ← List.getElem?_drop, hdrop, List.getElem?_cons_zero]
      have hnext : script.drop (k + 1) = rest := by
        rw [← List.drop_drop, hdrop, List.drop_one, List.tail_cons]
      rw [runFrom_rewriting n hk hc hcode]
      exact ih (hnext ▸ hrest) hcode (Nat.lt_of_succ_lt_succ hn)

/-- What was written, to the output or to the file that is changed. -/
def written (e : Editor) : Shell.State × Option (List Char) :=
  (e.shell, e.result)

theorem written_sayLine {e e' : Editor} (h : e.written = e'.written) (l : List Char) :
    (e.sayLine g l).written = (e'.sayLine g l).written := by
  obtain ⟨hshell, hresult⟩ := Prod.mk.inj h
  rw [sayLine, sayLine, say, say, hshell, hresult]
  split <;> simp [written]

theorem written_foldl {e e' : Editor} (h : e.written = e'.written) (ls : List (List Char)) :
    (ls.foldl (sayLine g) e).written = (ls.foldl (sayLine g) e').written := by
  induction ls generalizing e e' with
  | nil => exact h
  | cons l ls ih => exact ih (written_sayLine h l)

/-- An editor in its last file, without a failure and with nothing to write. -/
structure IsReading (e : Editor) : Prop where
  files : e.files = []
  queue : e.queue = []
  code : e.code = 0

theorem IsReading.sayLine (h : e.IsReading) (l : List Char) : (e.sayLine g l).IsReading := by
  rw [Editor.sayLine, say]
  split <;> exact ⟨h.files, h.queue, h.code⟩

theorem hold_sayLine (e : Editor) (l : List Char) : (e.sayLine g l).hold = e.hold := by
  rw [sayLine, say]
  split <;> rfl

theorem lines_sayLine (e : Editor) (l : List Char) : (e.sayLine g l).lines = e.lines := by
  rw [sayLine, say]
  split <;> rfl

theorem IsReading.ready_eq (h : e.IsReading) (passes : Bool) : e.ready g passes = e := by
  rw [ready, h.files, openFiles]
  split
  next => rfl
  next => rw [h.files]

theorem IsReading.takeLine?_nil (h : e.IsReading) (hlines : e.lines = []) :
    e.takeLine? g = (none, e) := by
  rw [takeLine?, h.ready_eq, hlines]

theorem IsReading.takeLine?_cons (h : e.IsReading) {l : List Char} {rest : List (List Char)}
    (hlines : e.lines = l :: rest) :
    e.takeLine? g = (some l, { e with lines := rest, lineNumber := e.lineNumber + 1 }) := by
  rw [takeLine?, h.ready_eq, hlines]
  simp [h.code]

theorem IsReading.writeQueue_eq (h : e.IsReading) : e.writeQueue = e := by
  rw [writeQueue, h.queue, List.foldl_nil, ← h.queue]

/-- The editor with a line that it has read. -/
def begun (e : Editor) (l : List Char) (rest : List (List Char)) : Editor :=
  { e with space := l, lines := rest, lineNumber := e.lineNumber + 1, changed := false }

theorem IsReading.begun (h : e.IsReading) (l : List Char) (rest : List (List Char))
    (spaces : List Char × List Char) : ((e.begun l rest).withSpaces spaces).IsReading :=
  ⟨h.files, h.queue, h.code⟩

variable {fs : List Rewriting} {n : Nat}

/-- The cycle of one line. -/
theorem cycles_of_rewritings {l : List Char} {rest : List (List Char)}
    (hscript : script.map Command.rewriting? = fs.map some) (hlength : fs.length < maxSteps)
    (hsilent : g.silent = false) (h : e.IsReading) (hlines : e.lines = l :: rest) :
    cycles launch g script (n + 1) true e =
      let spaces := inTurn fs (l, e.hold)
      cycles launch g script n true (((e.begun l rest).withSpaces spaces).sayLine g spaces.1) := by
  have hrun : runFrom launch g script maxSteps 0 (e.begun l rest) =
      (.done true, (e.begun l rest).withSpaces (inTurn fs (l, e.hold))) :=
    runFrom_of_rewritings (by rwa [List.drop_zero]) h.code hlength
  rw [begun] at hrun
  rw [cycles, if_pos rfl, h.takeLine?_cons hlines]
  simp only [if_true, hrun, hsilent]
  exact congrArg _ ((h.begun l rest _).sayLine _).writeQueue_eq

/-- A script of rewriting commands writes what it makes of each line. -/
theorem written_cycles (hscript : script.map Command.rewriting? = fs.map some)
    (hlength : fs.length < maxSteps) (hsilent : g.silent = false) (h : e.IsReading)
    (hn : e.lines.length < n) :
    (cycles launch g script n true e).written =
      ((rewritten (inTurn fs) e.hold e.lines).foldl (sayLine g) e).written := by
  induction n generalizing e with
  | zero => cases hn
  | succ n ih =>
    cases hlines : e.lines with
    | nil =>
      rw [cycles, if_pos rfl, h.takeLine?_nil hlines]
      rfl
    | cons l rest =>
      rw [cycles_of_rewritings hscript hlength hsilent h hlines]
      dsimp only
      generalize hspaces : inTurn fs (l, e.hold) = spaces
      let next := (e.begun l rest).withSpaces spaces
      have hshorter : (next.sayLine g spaces.1).lines.length < n := by
        rw [hlines] at hn
        rw [lines_sayLine]
        exact Nat.lt_of_succ_lt_succ hn
      have hwritten : next.written = e.written := rfl
      rw [ih ((h.begun l rest spaces).sayLine spaces.1) hshorter,
        written_foldl (written_sayLine hwritten spaces.1), lines_sayLine, hold_sayLine, rewritten,
        List.foldl_cons, hspaces]
      rfl

theorem result_foldl {t : List Char} (h : e.result = some t) (ls : List (List Char)) :
    (ls.foldl (sayLine g) e).result = some (t ++ (Tools.joined g.mark ls).toList) := by
  induction ls generalizing e t with
  | nil => simpa [Tools.toList_joined] using h
  | cons l ls ih =>
    have hl : (e.sayLine g l).result = some (t ++ (l ++ [g.mark])) := by
      rw [sayLine, say, h]
    rw [List.foldl_cons, ih hl, Tools.toList_joined, Tools.toList_joined, List.flatMap_cons,
      List.append_assoc]

/-- A file that is changed becomes the rewritten lines. -/
theorem result_cycles {t : List Char} (hscript : script.map Command.rewriting? = fs.map some)
    (hlength : fs.length < maxSteps) (hsilent : g.silent = false) (h : e.IsReading)
    (hn : e.lines.length < n) (hresult : e.result = some t) :
    (cycles launch g script n true e).result = some (t ++ (Tools.joined g.mark
      (rewritten (inTurn fs) e.hold e.lines)).toList) :=
  (congrArg Prod.snd (written_cycles hscript hlength hsilent h hn)).trans (result_foldl hresult _)

section Substitutions

open Shell (Regex)

variable {r : Regex} {s : Substitution}

theorem Draft.add_asIs {d : Draft} (hmode : d.mode = .asIs) (honce : d.once = .asIs)
    (t : List Char) : d.add t = { d with text := d.text ++ t } := by
  cases t with
  | nil => simp [Draft.add]
  | cons c t => simp [Draft.add, hmode, honce]

theorem replacement_whole (fitted : List Char) (q : Regex.Spot) :
    replacement [.group 0] fitted q = fitted :=
  congrArg Draft.text (Draft.add_asIs (d := ⟨[], .asIs, .asIs⟩) rfl rfl fitted)

/-- What is replaced by itself leaves the text as it is, however often and from where on. -/
theorem replaced_whole (hs : s.replacement = [.group 0]) (n skip : Nat) (behind : Bool)
    (p : Regex.Spot) : (replaced r s n skip behind p).1 = p.rest := by
  induction n generalizing skip behind p with
  | zero => rfl
  | succ n ih =>
    have hnext (c : Char) (rest : List Char) (h : p.rest = c :: rest) (k : Nat) :
        c :: (replaced r s n k false p.step).1 = p.rest := by
      rw [ih, Regex.Spot.step, h]
      rfl
    rw [replaced]
    dsimp only
    split
    next =>
      split
      next c rest h => exact hnext c rest h skip
      next h => exact h.symm
    next q hq =>
      have htext := (Regex.reaches_of_longest? hq).take_append
      rw [hs, replacement_whole]
      split
      next =>
        split
        next c rest h => exact hnext c rest h skip
        next h => exact h.symm
      next =>
        split
        next =>
          split
          next =>
            split
            next c rest h => exact hnext c rest h (skip - 1)
            next h => exact h.symm
          next => rw [ih]; exact htext
        next =>
          split
          next => exact htext
          next =>
            split
            next hempty =>
              split
              next c rest h => rw [hempty]; exact hnext c rest h 0
              next h => rw [hempty, h]
            next => rw [ih]; exact htext

end Substitutions

end Editor

end AgentLaunch.Sed
