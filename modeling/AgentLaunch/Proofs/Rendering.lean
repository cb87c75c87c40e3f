import AgentLaunch.Proofs.AgentCommand
import AgentLaunch.Proofs.Outcome

/-!
# How commands are shown

A command is shown in two forms. The JSON form loses nothing, and it never breaks a line. The plain
form joins the words with spaces, so that splitting it at the spaces gives the words back just when
no word holds a space.
-/

namespace AgentLaunch

namespace Text

/-- The pieces of a text between its spaces. -/
def pieces (s : String) : List String :=
  (s.split ' ').toList.map (·.copy)

theorem pieces_eq (s : String) : pieces s = (s.toList.splitOn ' ').map String.ofList :=
  String.toList_split_char

theorem pieces_of_not_mem {s : String} (h : ' ' ∉ s.toList) : pieces s = [s] := by
  rw [pieces_eq, List.splitOn_eq_singleton h]
  simp

theorem pieces_append (a b : String) : pieces (a ++ " " ++ b) = pieces a ++ pieces b := by
  simp [pieces_eq, List.splitOn_append_cons_self]

theorem length_pieces (s : String) : (pieces s).length = s.toList.count ' ' + 1 := by
  rw [pieces_eq, List.length_map]
  induction s.toList with
  | nil => rfl
  | cons c r ih =>
    rw [List.splitOn_cons_eq_if_modifyHead, List.count_cons]
    split <;> simp [ih]

end Text

namespace Command

section Plain

variable {c : Command}

/-- Splitting goes through a joined text word by word. -/
theorem pieces_display (c : Command) : Text.pieces c.display = c.argv.flatMap Text.pieces := by
  have hjoined : ∀ (w : String) (ws : List String),
      Text.pieces (String.intercalate " " (w :: ws)) = (w :: ws).flatMap Text.pieces := by
    intro w ws
    induction ws generalizing w with
    | nil => simp
    | cons v ws ih =>
      rw [String.intercalate_cons_cons, Text.pieces_append, ih]
      rfl
  exact hjoined c.program c.args

theorem length_pieces_display (c : Command) : (Text.pieces c.display).length =
    c.argv.length + (c.argv.map fun w => w.toList.count ' ').sum := by
  rw [pieces_display, List.length_flatMap]
  induction c.argv with
  | nil => rfl
  | cons w ws ih =>
    rw [List.map_cons, List.sum_cons, ih, Text.length_pieces, List.map_cons, List.sum_cons,
      List.length_cons]
    omega

/-- A space in a word makes pieces that are no words. -/
theorem length_lt_of_space (h : ∃ w ∈ c.argv, ' ' ∈ w.toList) :
    c.argv.length < (Text.pieces c.display).length := by
  rw [length_pieces_display]
  exact Nat.lt_add_of_pos_right (sum_count_pos_iff.mpr h)

theorem pieces_display_eq_iff :
    Text.pieces c.display = c.argv ↔ ∀ w ∈ c.argv, ' ' ∉ w.toList := by
  constructor
  · intro h w hw hspace
    have hlonger := length_lt_of_space ⟨w, hw, hspace⟩
    rw [h] at hlonger
    exact Nat.lt_irrefl _ hlonger
  · intro h
    have hword : c.argv.flatMap Text.pieces = c.argv.flatMap fun w => [w] :=
      List.flatMap_congr fun w hw => Text.pieces_of_not_mem (h w hw)
    rw [pieces_display, hword, List.flatMap_singleton']

theorem render_plain (c : Command) : c.render false = c.display := rfl

theorem pieces_display_forAgent_iff {s : Spec} :
    Text.pieces (forAgent s).display = (forAgent s).argv ↔
      ∀ f, f ≠ .runAsUser → ' ' ∉ (s.get f).toList := by
  have hfixed : ∀ w ∈ fixedWords, ' ' ∉ w.toList := by decide
  have hspaces := not_congr (mem_argv_forAgent_iff (s := s) hfixed)
  push Not at hspaces
  rw [pieces_display_eq_iff, hspaces]

end Plain

end Command

namespace Program

open Arguments (Invocation)
open Settings (Reading)

section Printed

variable {σ : Type} {p : Platform σ} {now : Int} {fs : FileSystem} {env : Environment}
  {words : List String} {s : σ} {i : Invocation} {r : Reading} {spec : Spec}

/-- A run that was asked to print a command, and did not fail. -/
structure Prints (p : Platform σ) (now : Int) (fs : FileSystem) (env : Environment)
    (words : List String) (s : σ) (i : Invocation) (r : Reading) : Prop where
  understood : Arguments.parse env words = .ok i
  verb : i.verb = .print
  done : (run p now fs env words s r).1.exitCode = 0

theorem Prints.stdout_eq (h : Prints p now fs env words s i r) :
    ∃ spec, (resolve fs env i r).value = .ok spec ∧
      (run p now fs env words s r).1.stdout = (Command.forAgent spec).render i.json ++ "\n" := by
  cases hfilter : LogFilter.ofEnvironment? env with
  | none =>
    have hdone := h.done
    rw [run_of_torn h.understood hfilter] at hdone
    cases hdone
  | some filter =>
    exact (discipline_of_filter h.understood hfilter).printed i h.understood h.verb h.done

theorem Prints.of_resolve {filter : LogFilter} (hi : Arguments.parse env words = .ok i)
    (hverb : i.verb = .print) (hfilter : LogFilter.ofEnvironment? env = some filter)
    (hspec : (resolve fs env i r).value = .ok spec) : Prints p now fs env words s i r where
  understood := hi
  verb := hverb
  done := by
    rw [run_of_filter hi hfilter, perform_print p now s hspec hverb]
    rfl

end Printed

theorem resolve_sample (json : Bool) :
    (resolve bareFiles bareEnvironment
      ⟨.print, json, none, ⟨some "/opt", some "1.4.0", none, none, none⟩⟩).value =
        .ok ⟨"/opt", "1.4.0", "cygnus.conf", "orionagent", "root"⟩ := by
  cbv

theorem prints_sample (json : Bool) :
    Prints (Recorder.platform .accept AccountTable.superuser.resolve) 0 bareFiles bareEnvironment
      (Arguments.printWords json ++ sampleOptions) .initial
      ⟨.print, json, none, ⟨some "/opt", some "1.4.0", none, none, none⟩⟩ .steady := by
  have hi : Arguments.parse bareEnvironment (Arguments.printWords json ++ sampleOptions) =
      .ok ⟨.print, json, none, ⟨some "/opt", some "1.4.0", none, none, none⟩⟩ := by
    cases json <;> rfl
  have hfilter : LogFilter.ofEnvironment? bareEnvironment = some .standard := rfl
  exact .of_resolve hi rfl hfilter (resolve_sample json)

end Program

namespace Command

open Program (Prints bareFiles bareEnvironment sampleOptions)

/-- The JSON form of a command is one line from which the words are read back, so that no two
commands share it. What is printed in this form is that line. -/
theorem json_lossless :
    (∀ c : Command, Text.Json.decodeList (c.render true) = some c.argv ∧
      ∀ ch ∈ (c.render true).toList, 0x20 ≤ ch.toNat) ∧
    (∀ c d : Command, c.render true = d.render true ↔ c.argv = d.argv) ∧
    ∀ {σ : Type} (p : Platform σ) (now : Int) (fs : FileSystem) (env : Environment)
      (words : List String) (s : σ) (i : Arguments.Invocation) (r : Settings.Reading),
      Prints p now fs env words s i r → i.json = true →
      ∃ spec line, (Program.resolve fs env i r).value = .ok spec ∧
        (Program.run p now fs env words s r).1.stdout = line ++ "\n" ∧ '\n' ∉ line.toList ∧
        Text.Json.decodeList line = some (forAgent spec).argv := by
  have hread : ∀ c : Command, Text.Json.decodeList (c.render true) = some c.argv :=
    decodeList_toJson
  have hcontrol : ∀ c : Command, ∀ ch ∈ (c.render true).toList, 0x20 ≤ ch.toNat :=
    fun c => Text.Json.le_toNat_of_mem_encodeList c.argv
  refine ⟨fun c => ⟨hread c, hcontrol c⟩, fun c d => ⟨fun h => ?_, fun h => ?_⟩, ?_⟩
  · have hsame := hread c
    rw [h, hread d] at hsame
    exact (Option.some.inj hsame).symm
  · rw [argv_inj.mp h]
  · intro σ p now fs env words s i r hprints hjson
    obtain ⟨spec, hspec, hstdout⟩ := hprints.stdout_eq
    rw [hjson] at hstdout
    refine ⟨spec, (forAgent spec).render true, hspec, hstdout, fun hbreak => ?_, hread _⟩
    exact absurd (hcontrol _ _ hbreak) (by decide)

theorem json_lossless_sample : ∃ line,
    (Program.run (Recorder.platform .accept AccountTable.superuser.resolve) 0 bareFiles
      bareEnvironment ("print" :: "--json" :: sampleOptions) .initial).1.stdout = line ++ "\n" ∧
    '\n' ∉ line.toList ∧ Text.Json.decodeList line =
      some (forAgent ⟨"/opt", "1.4.0", "cygnus.conf", "orionagent", "root"⟩).argv := by
  obtain ⟨spec, line, hspec, hline⟩ :=
    json_lossless.2.2 _ _ _ _ _ _ _ _ (Program.prints_sample true) rfl
  cases (Program.resolve_sample true).symm.trans hspec
  exact ⟨line, hline⟩

/-- Splitting the plain form at its spaces gives the words back just when none of them holds a
space, and more pieces than words otherwise. For agents this is up to the fields. -/
theorem plain_faithful :
    (∀ c : Command, Text.pieces c.display = c.argv ↔ ∀ w ∈ c.argv, ' ' ∉ w.toList) ∧
    (∀ c : Command, (Text.pieces c.display).length =
      c.argv.length + (c.argv.map fun w => w.toList.count ' ').sum) ∧
    (∀ c : Command, (∃ w ∈ c.argv, ' ' ∈ w.toList) →
      c.argv.length < (Text.pieces c.display).length) ∧
    (∀ spec : Spec,
      let directory := spec.installRoot ++ "/" ++ ("apache-flume-" ++ spec.version ++ "-bin")
      Text.pieces ((forAgent spec).render false) =
        [directory ++ "/bin/flume-ng", "agent", "--conf", directory ++ "/conf", "-f",
          directory ++ "/conf" ++ "/" ++ spec.configFileName, "-n", spec.agentName,
          "-Dflume.root.logger=INFO,LOGFILE"] ↔
      ∀ f, f ≠ .runAsUser → ' ' ∉ (spec.get f).toList) ∧
    ∀ {σ : Type} (p : Platform σ) (now : Int) (fs : FileSystem) (env : Environment)
      (words : List String) (s : σ) (i : Arguments.Invocation) (r : Settings.Reading),
      Prints p now fs env words s i r → i.json = false →
      ∃ spec text, (Program.resolve fs env i r).value = .ok spec ∧
        (Program.run p now fs env words s r).1.stdout = text ++ "\n" ∧
        (Text.pieces text = (forAgent spec).argv ↔
          ∀ f, f ≠ .runAsUser → ' ' ∉ (spec.get f).toList) := by
  have hagent : ∀ spec : Spec, Text.pieces ((forAgent spec).render false) = (forAgent spec).argv ↔
      ∀ f, f ≠ .runAsUser → ' ' ∉ (spec.get f).toList := by
    intro spec
    rw [render_plain, pieces_display_forAgent_iff]
  refine ⟨?_, length_pieces_display, ?_, ?_, ?_⟩
  · intro c
    exact pieces_display_eq_iff
  · intro c hspace
    exact length_lt_of_space hspace
  · intro spec directory
    rw [← hagent, argv_forAgent]
    rfl
  · intro σ p now fs env words s i r hprints hjson
    obtain ⟨spec, hspec, hstdout⟩ := hprints.stdout_eq
    rw [hjson] at hstdout
    exact ⟨spec, (forAgent spec).render false, hspec, hstdout, hagent spec⟩

/-- An empty word keeps its place between two spaces, a word with a space loses its own, and what is
printed for an agent without spaces is split into its nine words. -/
theorem plain_faithful_sample :
    Text.pieces (Command.mk "" ["", "x"]).display = ["", "", "x"] ∧
    3 < (Text.pieces (Command.mk "" [" ", "x"]).display).length ∧
    ∃ text, (Program.run (Recorder.platform .accept AccountTable.superuser.resolve) 0 bareFiles
        bareEnvironment ("print" :: sampleOptions) .initial).1.stdout = text ++ "\n" ∧
      Text.pieces text =
        (forAgent ⟨"/opt", "1.4.0", "cygnus.conf", "orionagent", "root"⟩).argv := by
  refine ⟨(plain_faithful.1 ⟨"", ["", "x"]⟩).mpr (by decide),
    plain_faithful.2.2.1 ⟨"", [" ", "x"]⟩ (by decide), ?_⟩
  obtain ⟨spec, text, hspec, hstdout, hpieces⟩ :=
    plain_faithful.2.2.2.2 _ _ _ _ _ _ _ _ (Program.prints_sample false) rfl
  cases (Program.resolve_sample false).symm.trans hspec
  refine ⟨text, hstdout, hpieces.mpr fun f _ => ?_⟩
  cases f <;> decide

end Command

end AgentLaunch
