import Mathlib
import AgentLaunch.Command

/-!
# What the command of an agent tells

Each field of a spec has its own places among the nine words of the agent's command, and the user
has none. The command tells the distribution directory, the configuration file and the name of the
agent. The directory tells the install root and the version if the version holds no slash; a version
with a slash can spell a distribution below another one.
-/

namespace AgentLaunch

/-- The places of a field among the words of an agent's command. -/
def Field.slots : Field → List Nat
  | .installRoot | .version => [0, 3, 5]
  | .configFileName => [5]
  | .agentName => [7]
  | .runAsUser => []

namespace Layout

section Distribution

variable {root version root' version' : String}

theorem eq_of_append_cons_eq {α : Type} {c : α} {a b x y : List α} (hx : c ∉ x) (hy : c ∉ y)
    (h : a ++ c :: x = b ++ c :: y) : a = b ∧ x = y := by
  obtain ⟨k, hb, hk⟩ | ⟨k, ha, hk⟩ := List.append_eq_append_iff.mp h
  · cases k with
    | nil =>
      rw [List.append_nil] at hb
      exact ⟨hb.symm, (List.cons.inj hk).2⟩
    | cons d k =>
      have hmem : c ∈ x := (List.cons.inj hk).2 ▸ List.mem_append_right k List.mem_cons_self
      exact absurd hmem hx
  · cases k with
    | nil =>
      rw [List.append_nil] at ha
      exact ⟨ha, (List.cons.inj hk).2.symm⟩
    | cons d k =>
      have hmem : c ∈ y := (List.cons.inj hk).2 ▸ List.mem_append_right k List.mem_cons_self
      exact absurd hmem hy

theorem distributionName_inj :
    distributionName version = distributionName version' ↔ version = version' := by
  simp [distributionName]

theorem slash_not_mem_distributionName (h : '/' ∉ version.toList) :
    '/' ∉ (distributionName version).toList := by
  simp [distributionName, h]

theorem toList_distribution : (distribution root version).toList =
    root.toList ++ '/' :: (distributionName version).toList := by
  simp [distribution]

/-- The directory of a distribution tells the root and the version, if no version holds a slash. -/
theorem distribution_inj (h : '/' ∉ version.toList) (h' : '/' ∉ version'.toList) :
    distribution root version = distribution root' version' ↔
      root = root' ∧ version = version' := by
  constructor
  · intro heq
    have hlist := congrArg String.toList heq
    rw [toList_distribution, toList_distribution] at hlist
    -- The slash in front of the name of the directory is the last one.
    obtain ⟨hroot, hname⟩ := eq_of_append_cons_eq (slash_not_mem_distributionName h)
      (slash_not_mem_distributionName h') hlist
    exact ⟨String.toList_inj.mp hroot, distributionName_inj.mp (String.toList_inj.mp hname)⟩
  · rintro ⟨rfl, rfl⟩
    rfl

end Distribution

end Layout

namespace Command

theorem argv_inj {a b : Command} : a.argv = b.argv ↔ a = b := by
  cases a
  cases b
  simp [argv]

section Agent

variable {s t : Spec} {f : Field} {i : Nat}

theorem argv_forAgent (s : Spec) :
    let directory := Layout.distribution s.installRoot s.version
    (forAgent s).argv =
      [directory ++ "/bin/flume-ng", "agent", "--conf", directory ++ "/conf", "-f",
        directory ++ "/conf" ++ "/" ++ s.configFileName, "-n", s.agentName,
        "-Dflume.root.logger=INFO,LOGFILE"] :=
  rfl

theorem forAgent_eq_iff : forAgent s = forAgent t ↔
    Layout.distribution s.installRoot s.version = Layout.distribution t.installRoot t.version ∧
      s.configFileName = t.configFileName ∧ s.agentName = t.agentName := by
  rw [← argv_inj, argv_forAgent, argv_forAgent]
  constructor
  · intro h
    obtain ⟨hprogram, -, -, -, -, hfile, -, hname, -⟩ := by
      simpa only [List.cons.injEq] using h
    have hdirectory := (String.append_left_inj _).mp hprogram
    rw [hdirectory] at hfile
    exact ⟨hdirectory, (String.append_right_inj _).mp hfile, hname⟩
  · rintro ⟨hdirectory, hfile, hname⟩
    rw [hdirectory, hfile, hname]

theorem getElem?_argv_congr (h : ∀ f, i ∈ f.slots → s.get f = t.get f) :
    (forAgent s).argv[i]? = (forAgent t).argv[i]? := by
  have hroot : i ∈ [0, 3, 5] → s.installRoot = t.installRoot := h .installRoot
  have hversion : i ∈ [0, 3, 5] → s.version = t.version := h .version
  have hfile : i ∈ [5] → s.configFileName = t.configFileName := h .configFileName
  have hname : i ∈ [7] → s.agentName = t.agentName := h .agentName
  rw [argv_forAgent, argv_forAgent]
  match i with
  | 0 | 3 => simp [hroot, hversion]
  | 5 => simp [hroot, hversion, hfile]
  | 7 => simp [hname]
  | 1 | 2 | 4 | 6 | 8 | _ + 9 => rfl

/-- A word tells each field that has a place there, once the others are known. -/
theorem get_eq_of_getElem?_argv (hi : i ∈ f.slots) (hsame : ∀ g, g ≠ f → s.get g = t.get g)
    (h : (forAgent s).argv[i]? = (forAgent t).argv[i]?) : s.get f = t.get f := by
  rw [argv_forAgent, argv_forAgent] at h
  cases f with
  | installRoot =>
    change s.installRoot = t.installRoot
    have hversion : s.version = t.version := hsame .version (by decide)
    have hfile : s.configFileName = t.configFileName := hsame .configFileName (by decide)
    simp only [Field.slots, List.mem_cons, List.not_mem_nil, or_false] at hi
    obtain rfl | rfl | rfl := hi <;> simpa [hversion, hfile, Layout.distribution] using h
  | version =>
    change s.version = t.version
    have hroot : s.installRoot = t.installRoot := hsame .installRoot (by decide)
    have hfile : s.configFileName = t.configFileName := hsame .configFileName (by decide)
    simp only [Field.slots, List.mem_cons, List.not_mem_nil, or_false] at hi
    obtain rfl | rfl | rfl := hi <;>
      simpa [hroot, hfile, Layout.distribution, Layout.distributionName_inj] using h
  | configFileName =>
    change s.configFileName = t.configFileName
    have hroot : s.installRoot = t.installRoot := hsame .installRoot (by decide)
    have hversion : s.version = t.version := hsame .version (by decide)
    cases List.mem_singleton.mp hi
    simpa [hroot, hversion] using h
  | agentName =>
    change s.agentName = t.agentName
    cases List.mem_singleton.mp hi
    simpa using h
  | runAsUser => cases hi

/-- Two specs that differ in one field have other words at its places and the same words at all
others. -/
theorem getElem?_argv_eq_iff (hsame : ∀ g, g ≠ f → s.get g = t.get g)
    (hother : s.get f ≠ t.get f) :
    (forAgent s).argv[i]? = (forAgent t).argv[i]? ↔ i ∉ f.slots := by
  constructor
  · intro h hi
    exact hother (get_eq_of_getElem?_argv hi hsame h)
  · intro hi
    refine getElem?_argv_congr fun g hg => hsame g ?_
    rintro rfl
    exact hi hg

/-- Where the fields of a spec stand in its command. -/
structure Placed (s : Spec) : Prop where
  length : (forAgent s).argv.length = 9
  agentName : (forAgent s).argv[7]? = some s.agentName
  configFile : ∃ directory, (forAgent s).argv[2]? = some "--conf" ∧
    (forAgent s).argv[3]? = some directory ∧
    (forAgent s).argv[5]? = some (directory ++ "/" ++ s.configFileName)
  distribution : ∀ i ∈ [0, 3, 5], ∃ rest, (forAgent s).argv[i]? =
    some (Layout.distribution s.installRoot s.version ++ "/" ++ rest)
  /-- Another text in a field changes the words at its places and no others. -/
  slots : ∀ t f, (∀ g, g ≠ f → s.get g = t.get g) → s.get f ≠ t.get f →
    ∀ i, (forAgent s).argv[i]? = (forAgent t).argv[i]? ↔ i ∉ f.slots

theorem placed (s : Spec) : Placed s where
  length := rfl
  agentName := rfl
  configFile := ⟨_, rfl, rfl, rfl⟩
  distribution := by
    have hprogram : "/bin/flume-ng" = "/" ++ "bin/flume-ng" := rfl
    have hconfig : "/conf" = "/" ++ "conf" := rfl
    intro i hi
    simp only [List.mem_cons, List.not_mem_nil, or_false] at hi
    rw [argv_forAgent, hprogram, hconfig]
    simp only [← String.append_assoc]
    obtain rfl | rfl | rfl := hi
    · exact ⟨"bin/flume-ng", rfl⟩
    · exact ⟨"conf", rfl⟩
    · refine ⟨"conf" ++ "/" ++ s.configFileName, ?_⟩
      simp only [← String.append_assoc]
      rfl
  slots _ _ hsame hother _ := getElem?_argv_eq_iff hsame hother

/-- What two commands of agents have in common if they are equal, and where each spec's fields stand
in its command. -/
theorem forAgent_determines (s t : Spec) :
    (forAgent s = forAgent t ↔
      Layout.distribution s.installRoot s.version = Layout.distribution t.installRoot t.version ∧
        s.configFileName = t.configFileName ∧ s.agentName = t.agentName) ∧
    ('/' ∉ s.version.toList → '/' ∉ t.version.toList →
      (forAgent s = forAgent t ↔ s.installRoot = t.installRoot ∧ s.version = t.version ∧
        s.configFileName = t.configFileName ∧ s.agentName = t.agentName)) ∧
    Placed s := by
  refine ⟨forAgent_eq_iff, fun hs ht => ?_, placed s⟩
  rw [forAgent_eq_iff, Layout.distribution_inj hs ht, and_assoc]

/-- Roots and versions that hold the fixed parts of a directory's name are still told apart. -/
theorem forAgent_determines_embedded :
    let s : Spec := ⟨"/opt/apache-flume-1-bin", "2-bin", "cygnus.conf", "a", "root"⟩
    let t : Spec := ⟨"/opt", "1-binapache-flume-2-bin", "cygnus.conf", "a", "root"⟩
    '/' ∉ s.version.toList ∧ '/' ∉ t.version.toList ∧ forAgent s ≠ forAgent t := by
  intro s t
  have hs : '/' ∉ s.version.toList := by decide
  have ht : '/' ∉ t.version.toList := by decide
  refine ⟨hs, ht, fun h => ?_⟩
  obtain ⟨hroot, -⟩ := ((forAgent_determines s t).2.1 hs ht).mp h
  exact absurd hroot (by decide)

section Characters

variable {c : Char}

/-- The words of an agent's command without the fields. -/
def fixedWords : List String :=
  (forAgent ⟨"", "", "", "", ""⟩).argv

/-- A character stands in the words of an agent's command as often as in the fixed parts, and as
often as in each field for each of its places. -/
theorem sum_count_argv (c : Char) (s : Spec) :
    ((forAgent s).argv.map fun w => w.toList.count c).sum =
      (fixedWords.map fun w => w.toList.count c).sum +
        (Field.all.map fun f => f.slots.length * (s.get f).toList.count c).sum := by
  simp only [fixedWords, argv_forAgent, Layout.distribution, Layout.distributionName,
    String.toList_append, List.count_append, List.map_cons, List.map_nil, List.sum_cons,
    List.sum_nil, Field.all, Field.slots, Spec.get, List.length_cons, List.length_nil,
    String.toList_empty, List.count_nil]
  omega

theorem sum_count_pos_iff {ws : List String} :
    0 < (ws.map fun w => w.toList.count c).sum ↔ ∃ w ∈ ws, c ∈ w.toList := by
  simp [List.sum_pos_iff_exists_pos_nat, List.count_pos_iff]

theorem mem_argv_forAgent_iff (hfixed : ∀ w ∈ fixedWords, c ∉ w.toList) :
    (∃ w ∈ (forAgent s).argv, c ∈ w.toList) ↔ ∃ f, f ≠ .runAsUser ∧ c ∈ (s.get f).toList := by
  have hnone : (fixedWords.map fun w => w.toList.count c).sum = 0 := by
    refine Nat.eq_zero_of_not_pos fun hpos => ?_
    obtain ⟨w, hw, hc⟩ := sum_count_pos_iff.mp hpos
    exact hfixed w hw hc
  have hslots : ∀ f : Field, 0 < f.slots.length ↔ f ≠ .runAsUser := by
    intro f
    cases f <;> decide
  have hterm : ∀ f : Field, 0 < f.slots.length * (s.get f).toList.count c ↔
      f ≠ .runAsUser ∧ c ∈ (s.get f).toList := by
    intro f
    rw [← hslots, ← List.count_pos_iff]
    exact ⟨fun h => ⟨Nat.pos_of_mul_pos_right h, Nat.pos_of_mul_pos_left h⟩,
      fun h => Nat.mul_pos h.1 h.2⟩
  rw [← sum_count_pos_iff, sum_count_argv, hnone, Nat.zero_add, List.sum_pos_iff_exists_pos_nat]
  simp [Field.mem_all, hterm]

end Characters

end Agent

end Command

end AgentLaunch
