import AgentLaunch.Proofs.Arguments.Understood

/-!
# Options in any order

Lines on which the options of the program are written in any order, each in either form. If none is
given twice, each counts for itself. The first one that is given again is what the line is refused
for, wherever it stands and whatever follows it.
-/

namespace AgentLaunch.Arguments

/-- The value is given to an option, in either form. -/
def Gives (gs : List Given) (o : ValueOption) (v : String) : Prop :=
  .attached o v ∈ gs ∨ .spaced o v ∈ gs

/-- Options that are known where they stand and well written. Only launch parameters are given more
than once on a side. -/
structure Line.IsWritten (l : Line) : Prop where
  front : ∀ g ∈ l.front, g.IsProper ∧ g.IsKnown .top
  options : ∀ g ∈ l.options, g.IsProper ∧ g.IsKnown (.after l.verb)
  frontOnce : (l.front.map Given.flag).Nodup
  configOnce : (l.options.map Given.flag).count (.value .config) ≤ 1
  jsonOnce : (l.options.map Given.flag).count (.switch .json) ≤ 1

def Line.Repeats (l : Line) (f : Field) : Prop :=
  2 ≤ (l.options.map Given.flag).count (.value (.field f))

/-- What is asked for is what the options of a line give, and nothing else. -/
structure Line.Means (preset : Option String) (l : Line) (i : Invocation) : Prop where
  verb : i.verb = l.verb
  json : i.json = true ↔ Given.json ∈ l.options
  settings : ∀ f v, i.settings.get f = some v ↔ Gives l.options (.field f) v
  configAfter : ∀ v, Gives l.options .config v → i.config = some v
  configFront : (∀ v, ¬ Gives l.options .config v) →
    ∀ v, Gives l.front .config v → i.config = some v
  configPreset : (∀ v, ¬ Gives l.options .config v) → (∀ v, ¬ Gives l.front .config v) →
    i.config = preset

/-- The same values are given on both lines, perhaps in another order and in another form. -/
structure Line.Alike (l l' : Line) : Prop where
  verb : l.verb = l'.verb
  json : Given.json ∈ l.options ↔ Given.json ∈ l'.options
  front : ∀ o v, Gives l.front o v ↔ Gives l'.front o v
  options : ∀ o v, Gives l.options o v ↔ Gives l'.options o v

section Gives

variable {gs : List Given} {o : ValueOption} {v : String}

theorem flag_mem_of_gives (h : Gives gs o v) : Flag.value o ∈ gs.map Given.flag := by
  rcases h with h | h
  · exact List.mem_map_of_mem h
  · exact List.mem_map_of_mem h

theorem gives_of_given? (h : given? gs o = some v) : Gives gs o v := by
  obtain ⟨g, hg, hvalue⟩ := List.exists_of_findSome?_eq_some h
  cases g with
  | attached o' v' =>
    simp only [Given.value?, Option.ite_none_right_eq_some, Option.some.injEq] at hvalue
    obtain ⟨rfl, rfl⟩ := hvalue
    exact .inl hg
  | spaced o' v' =>
    simp only [Given.value?, Option.ite_none_right_eq_some, Option.some.injEq] at hvalue
    obtain ⟨rfl, rfl⟩ := hvalue
    exact .inr hg
  | json => cases hvalue

theorem given?_cons_of_flag {g : Given} (h : g.flag ≠ .value o) :
    given? (g :: gs) o = given? gs o := by
  have hnone : g.value? o = none := by
    cases g <;> simp_all [Given.value?, Given.flag]
  rw [given?_cons, hnone]
  rfl

theorem given?_eq_some_iff (honce : (gs.map Given.flag).Nodup) :
    given? gs o = some v ↔ Gives gs o v := by
  refine ⟨gives_of_given?, fun h => ?_⟩
  induction gs with
  | nil => simp [Gives] at h
  | cons g rest ih =>
    obtain ⟨hnew, hrest⟩ := List.nodup_cons.mp honce
    have hcases : g = .attached o v ∨ g = .spaced o v ∨ Gives rest o v := by
      simp only [Gives, List.mem_cons] at h ⊢
      grind
    rcases hcases with rfl | rfl | hlater
    · simp [given?_cons, Given.value?]
    · simp [given?_cons, Given.value?]
    · have hflag : g.flag ≠ .value o := by
        rintro hflag
        exact hnew (hflag ▸ flag_mem_of_gives hlater)
      rw [given?_cons_of_flag hflag, ih hrest hlater]

theorem given?_eq_none_of_not_gives (h : ∀ v, ¬ Gives gs o v) : given? gs o = none := by
  cases hgiven : given? gs o with
  | none => rfl
  | some v => exact absurd (gives_of_given? hgiven) (h v)

end Gives

theorem given?_congr {gs gs' : List Given} (honce : (gs.map Given.flag).Nodup)
    (honce' : (gs'.map Given.flag).Nodup) (h : ∀ o v, Gives gs o v ↔ Gives gs' o v) :
    given? gs = given? gs' := by
  funext o
  apply Option.ext
  intro v
  rw [given?_eq_some_iff honce, h, given?_eq_some_iff honce']

theorem Line.Alike.invocation_eq {l l' : Line} (h : l.Alike l') (hl : l.IsProper)
    (hl' : l'.IsProper) (preset : Option String) : l.invocation preset = l'.invocation preset := by
  simp only [Line.invocation, Line.config, h.verb, h.json,
    given?_congr hl.optionsOnce hl'.optionsOnce h.options,
    given?_congr hl.frontOnce hl'.frontOnce h.front]

theorem Line.invocation_means {l : Line} (hl : l.IsProper) (preset : Option String) :
    l.Means preset (l.invocation preset) where
  verb := rfl
  json := by simp [Line.invocation]
  settings f v := by
    rw [Line.invocation, Settings.get_ofFields]
    exact given?_eq_some_iff hl.optionsOnce
  configAfter v h := by
    simp [Line.invocation, Line.config, (given?_eq_some_iff hl.optionsOnce).mpr h]
  configFront hnone v h := by
    simp [Line.invocation, Line.config, given?_eq_none_of_not_gives hnone,
      (given?_eq_some_iff hl.frontOnce).mpr h]
  configPreset hnone hfront := by
    simp [Line.invocation, Line.config, given?_eq_none_of_not_gives hnone,
      given?_eq_none_of_not_gives hfront]

section Repeated

variable {scope : Scope} {p q : Progress} {o : ValueOption} {e : Stop}

/-- What cannot be counted stops the line at the next option. -/
theorem foldlM_words_of_settle_error {g : Given} (hopen : p.trailing = false)
    (hsettle : p.settle = .error e) (hknown : g.IsKnown scope) :
    g.words.foldlM (step scope) p = .error e := by
  cases g with
  | attached o v =>
    rw [Given.words, List.foldlM_cons, step]
    simp only [hopen, form_attached, ofLong?_flag hknown, hsettle]
    rfl
  | spaced o v =>
    rw [Given.words, List.foldlM_cons, step]
    simp only [hopen, form_flag, ofLong?_flag hknown, hsettle]
    rfl
  | json =>
    have hform : Form.of Switch.json.flag = .long Switch.json.flag none := by decide
    rw [Given.words, List.foldlM_cons, step]
    simp only [hopen, hform, ofLong?_json hknown, hsettle]
    rfl

/-- What cannot be counted stops the line, at the next option or at its end. -/
theorem finish_of_settle_error {preset : Option String} {gs : List Given}
    (hopen : p.trailing = false) (hsettle : p.settle = .error e)
    (hknown : ∀ g ∈ gs, g.IsKnown scope) :
    ((gs.flatMap Given.words).foldlM (step scope) p >>= finish preset) = .error e := by
  cases gs with
  | nil =>
    change finish preset p = _
    rw [finish, hsettle]
    rfl
  | cons g rest =>
    rw [List.flatMap_cons, List.foldlM_append,
      foldlM_words_of_settle_error hopen hsettle (hknown g List.mem_cons_self)]
    rfl

/-- An option that is given again is refused, at once or as soon as it is to be counted. -/
theorem finish_of_repeated {preset : Option String} {g : Given} {gs : List Given}
    (hp : p.Counts q) (hflag : g.flag = .value o) (hgiven : (q.get o).isSome)
    (hg : g.IsProper) (hknown : ∀ g' ∈ g :: gs, g'.IsKnown scope) :
    (((g :: gs).flatMap Given.words).foldlM (step scope) p >>= finish preset) =
      .error (.usage (.repeatedOption o)) := by
  have hrecord : ∀ r : Progress, r.get o = q.get o → ∀ v,
      r.record o v = .error (.usage (.repeatedOption o)) := by
    intro r hr v
    rw [Progress.record, hr, if_pos hgiven]
  have hgknown := hknown g List.mem_cons_self
  obtain ⟨-, htrailing⟩ := Progress.settle_shape hp.settle
  rw [List.flatMap_cons, List.foldlM_append]
  cases g with
  | json => cases hflag
  | attached o' v =>
    cases hflag
    rw [Given.words, List.foldlM_cons, step_attached hp hgknown, hrecord q rfl]
    rfl
  | spaced o' v =>
    cases hflag
    have hq : q.trailing = false := htrailing.trans hp.trailing
    have hwords : (Given.spaced o v).words.foldlM (step scope) p =
        .ok { q with pending := .filled o v } := by
      rw [Given.words, List.foldlM_cons, step_flag hp hgknown, ok_bind, List.foldlM_cons,
        step_value hq hg.2]
      rfl
    have hsettle : ({ q with pending := .filled o v } : Progress).settle =
        .error (.usage (.repeatedOption o)) :=
      hrecord _ (by cases o <;> rfl) v
    rw [hwords, ok_bind]
    exact finish_of_settle_error hq hsettle fun g' hg' => hknown g' (List.mem_cons_of_mem _ hg')

end Repeated

/-- The first option of which one like it was given before. -/
theorem exists_first_repeated {gs : List Given} (h : ¬ (gs.map Given.flag).Nodup) :
    ∃ before g after, gs = before ++ g :: after ∧ (before.map Given.flag).Nodup ∧
      g.flag ∈ before.map Given.flag := by
  induction gs using List.reverseRecOn with
  | nil => exact absurd List.nodup_nil h
  | append_singleton gs g ih =>
    by_cases honce : (gs.map Given.flag).Nodup
    · refine ⟨gs, g, [], rfl, honce, ?_⟩
      by_contra hnew
      apply h
      rw [List.map_append, List.nodup_append]
      refine ⟨honce, List.nodup_singleton _, ?_⟩
      rintro f hf f' hf' rfl
      exact hnew (List.mem_singleton.mp hf' ▸ hf)
    · obtain ⟨before, g', after, rfl, hbefore, hflag⟩ := ih honce
      exact ⟨before, g', after ++ [g], by simp, hbefore, hflag⟩

section Line

variable {l : Line} {preset : Option String}

theorem count_switch_eq_zero {gs : List Given} {s : Switch} (h : s ≠ .json) :
    (gs.map Given.flag).count (.switch s) = 0 := by
  apply List.count_eq_zero_of_not_mem
  intro hmem
  obtain ⟨g, -, hflag⟩ := List.mem_map.mp hmem
  cases g with
  | json => exact h (Flag.switch.inj hflag).symm
  | attached o v | spaced o v => cases hflag

theorem Line.IsWritten.nodup_iff (h : l.IsWritten) :
    (l.options.map Given.flag).Nodup ↔ ∀ f, ¬ l.Repeats f := by
  rw [List.nodup_iff_count_le_one]
  constructor
  · intro honce f hrepeats
    have hf := honce (.value (.field f))
    rw [Line.Repeats] at hrepeats
    omega
  · intro honce flag
    cases flag with
    | value o =>
      cases o with
      | config => exact h.configOnce
      | field f =>
        have hf := honce f
        rw [Line.Repeats] at hf
        omega
    | switch s =>
      by_cases hs : s = .json
      · exact hs ▸ h.jsonOnce
      · rw [count_switch_eq_zero hs]
        exact Nat.zero_le 1

/-- A line that gives an option again is refused for the first one that is. -/
theorem Line.IsWritten.parseAfter_repeated (h : l.IsWritten) (preset : Option String)
    (hrepeated : ¬ (l.options.map Given.flag).Nodup) :
    ∃ f, l.Repeats f ∧ parseAfter preset l.verb (l.options.flatMap Given.words) =
      .error (.usage (.repeatedOption (.field f))) := by
  obtain ⟨before, g, after, hoptions, hbefore, hflag⟩ := exists_first_repeated hrepeated
  have hcount : 2 ≤ (l.options.map Given.flag).count g.flag := by
    have hone : 0 < (before.map Given.flag).count g.flag := List.count_pos_iff.mpr hflag
    rw [hoptions, List.map_append, List.map_cons, List.count_append, List.count_cons_self]
    omega
  have hmem : ∀ g' ∈ before ++ g :: after, g'.IsProper ∧ g'.IsKnown (.after l.verb) :=
    hoptions ▸ h.options
  obtain ⟨f, hf⟩ : ∃ f, g.flag = .value (.field f) := by
    have hconfig := h.configOnce
    have hjson := h.jsonOnce
    cases g with
    | json => exact absurd hcount (by simp only [Given.flag]; omega)
    | attached o v | spaced o v =>
      cases o with
      | config => exact absurd hcount (by simp only [Given.flag]; omega)
      | field f => exact ⟨f, rfl⟩
  obtain ⟨p, hp, hcounts⟩ := foldlM_flatMap_words (initial_counts)
    (fun g' hg' => hmem g' (List.mem_append_left _ hg')) hbefore
    (fun g' _ => initial_isFree g'.flag)
  have hgiven : ((before.foldl .add Progress.initial).get (.field f)).isSome := by
    rw [get_foldl_add hbefore, initial_get, Option.or_none, Option.isSome_iff_ne_none]
    intro hnone
    exact not_mem_flags_of_given? hnone (hf ▸ hflag)
  refine ⟨f, by rwa [Line.Repeats, ← hf], ?_⟩
  rw [parseAfter, hoptions, List.flatMap_append, List.foldlM_append, hp, ok_bind]
  exact finish_of_repeated hcounts hf hgiven (hmem g (by simp)).1
    fun g' hg' => (hmem g' (List.mem_append_right _ hg')).2

theorem Line.IsWritten.isProper (h : l.IsWritten) (hnone : ∀ f, ¬ l.Repeats f) : l.IsProper :=
  ⟨h.front, h.options, h.frontOnce, h.nodup_iff.mpr hnone⟩

theorem Line.IsWritten.parse_repeated (env : Environment) (h : l.IsWritten)
    (hrepeats : ∃ f, l.Repeats f) :
    ∃ f, l.Repeats f ∧ parse env l.words = .error (.usage (.repeatedOption (.field f))) := by
  have hrepeated : ¬ (l.options.map Given.flag).Nodup := by
    obtain ⟨f, hf⟩ := hrepeats
    exact fun hnodup => h.nodup_iff.mp hnodup f hf
  obtain ⟨f, hf, hafter⟩ := h.parseAfter_repeated (env.get? configVariable) hrepeated
  obtain ⟨p, hp, hcounts⟩ := parseFrom_flatMap_words (env.get? configVariable)
    (l.verb.word :: l.options.flatMap Given.words) initial_counts h.front h.frontOnce
    (fun g _ => initial_isFree g.flag)
  refine ⟨f, hf, ?_⟩
  rw [parse, Line.words, hp, parseFrom_verb hcounts.trailing
    (Progress.not_awaiting_of_settle hcounts.settle), hafter]
  rfl

end Line

/-- Options mean the same wherever they stand on a line and however they are written. A line that
gives a launch parameter again is refused for that. No such line asks for the program's version. -/
theorem options_in_any_order (env : Environment) (l : Line) (hl : l.IsWritten)
    (hpreset : env.get? configVariable ≠ some "") :
    ((∀ f, ¬ l.Repeats f) →
      (∃ i, parse env l.words = .ok i ∧ l.Means (env.get? configVariable) i) ∧
      ∀ l' : Line, l'.IsWritten → (∀ f, ¬ l'.Repeats f) → l.Alike l' →
        parse env l'.words = parse env l.words) ∧
    ((∃ f, l.Repeats f) → ∃ f e, l.Repeats f ∧ parse env l.words = .error (.usage e) ∧
      e = .repeatedOption (.field f) ∧ e.kind = "ArgumentConflict") ∧
    parse env l.words ≠ .error .version := by
  have hparse : ∀ l' : Line, l'.IsProper →
      parse env l'.words = .ok (l'.invocation (env.get? configVariable)) :=
    fun l' hl' => parse_words env l' hl' fun h => absurd h hpreset
  refine ⟨fun hnone => ⟨⟨_, hparse l (hl.isProper hnone), ?_⟩, ?_⟩, ?_, ?_⟩
  · exact Line.invocation_means (hl.isProper hnone) _
  · intro l' hl' hnone' halike
    rw [hparse l (hl.isProper hnone), hparse l' (hl'.isProper hnone'),
      halike.invocation_eq (hl.isProper hnone) (hl'.isProper hnone')]
  · intro hrepeats
    obtain ⟨f, hf, he⟩ := hl.parse_repeated env hrepeats
    exact ⟨f, _, hf, he, rfl, rfl⟩
  · by_cases hrepeats : ∃ f, l.Repeats f
    · obtain ⟨f, -, he⟩ := hl.parse_repeated env hrepeats
      rw [he]
      nofun
    · rw [hparse l (hl.isProper fun f hf => hrepeats ⟨f, hf⟩)]
      nofun

def presetNames : Environment where
  bindings := [("FLUME_LAUNCHER_CONFIG", "preset.toml")]
  accountHome := none

/-- Values that look like a command word, like nothing, and like an option with a value. -/
def mixedLine : Line where
  front := [.attached .config "a=b"]
  verb := .print
  options := [.spaced (.field .agentName) "start", .attached (.field .version) "", .json,
    .attached (.field .configFileName) "--version=1"]

/-- The options of `mixedLine` turned around, in other forms where these can be written. -/
def turnedLine : Line where
  front := [.spaced .config "a=b"]
  verb := .print
  options := [.attached (.field .configFileName) "--version=1", .json,
    .spaced (.field .version) "", .attached (.field .agentName) "start"]

/-- The version is given again, in the other form and with the same value. -/
def repeatingLine : Line where
  front := []
  verb := .start
  options := [.attached (.field .version) "1", .attached .config "c", .spaced (.field .version) "1",
    .attached (.field .agentName) ""]

theorem mixedLine_alike_turnedLine : mixedLine.Alike turnedLine where
  verb := rfl
  json := by decide
  front o v := by
    simp [Gives, mixedLine, turnedLine]
  options o v := by
    simp [Gives, mixedLine, turnedLine]
    grind

instance (l : Line) (f : Field) : Decidable (l.Repeats f) :=
  inferInstanceAs (Decidable (2 ≤ _))

theorem options_in_any_order_mixed :
    (∃ i, parse presetNames ["--config=a=b", "print", "--agent-name", "start", "--version=",
        "--json", "--conf-file=--version=1"] = .ok i ∧
      i.config = some "a=b" ∧ i.settings.get .version = some "" ∧
      parse presetNames ["--config", "a=b", "print", "--conf-file=--version=1", "--json",
        "--version", "", "--agent-name=start"] = .ok i) ∧
    ∃ e, parse presetNames ["start", "--version=1", "--config=c", "--version", "1",
        "--agent-name="] = .error (.usage e) ∧ e.kind = "ArgumentConflict" := by
  have hpreset : presetNames.get? configVariable ≠ some "" := by decide +kernel
  have hmixed : mixedLine.IsWritten := ⟨by decide, by decide, by decide, by decide, by decide⟩
  have hturned : turnedLine.IsWritten := ⟨by decide, by decide, by decide, by decide, by decide⟩
  have hrepeating : repeatingLine.IsWritten :=
    ⟨by decide, by decide, by decide, by decide, by decide⟩
  constructor
  · obtain ⟨honce, -, -⟩ := options_in_any_order presetNames mixedLine hmixed hpreset
    obtain ⟨⟨i, hparse, hmeans⟩, hsame⟩ := honce fun f => by cases f <;> decide
    refine ⟨i, hparse, hmeans.configFront ?_ "a=b" (.inl (by decide)),
      (hmeans.settings .version "").mpr (.inl (by decide)), ?_⟩
    · simp [Gives, mixedLine]
    · exact (hsame turnedLine hturned (fun f => by cases f <;> decide)
        mixedLine_alike_turnedLine).trans hparse
  · obtain ⟨-, hagain, -⟩ := options_in_any_order presetNames repeatingLine hrepeating hpreset
    obtain ⟨-, e, -, he, -, hkind⟩ := hagain ⟨.version, by decide⟩
    exact ⟨e, he, hkind⟩

end AgentLaunch.Arguments
