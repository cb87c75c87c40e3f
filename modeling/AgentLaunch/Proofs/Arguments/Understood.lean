import AgentLaunch.Proofs.Arguments.CommandWord

/-!
# Lines that are understood

A command line that is understood has one command word with options on both sides, each known where
it stands and given once there; nothing else is in it, except that it may end in a double dash. So
what it asks for is what its options give.
-/

namespace AgentLaunch.Arguments

theorem eq_of_form_doubleDash {w : String} (h : Form.of w = .doubleDash) : w = "--" := by
  unfold Form.of at h
  split at h
  next hw => exact String.toList_inj.mp hw
  · dsimp only at h
    split at h <;> cases h
  · cases h
  · cases h

/-- An option is its name, and the value behind an equals sign if one is attached. -/
theorem eq_of_form_long {w flag : String} {attached : Option String}
    (h : Form.of w = .long flag attached) :
    w = flag ++ (attached.map fun value => "=" ++ value).getD "" := by
  have hdashes : "--".toList = ['-', '-'] := by decide
  have hequals : "=".toList = ['='] := by decide
  unfold Form.of at h
  split at h
  · cases h
  next rest _ hw =>
    have hrest := rest.takeWhile_append_dropWhile (p := (· ≠ '='))
    rw [← String.toList_inj, hw]
    dsimp only at h
    split at h
    next c value hdrop =>
      have hc : c = '=' := by
        have hhead := List.head?_dropWhile_not (· ≠ '=') rest
        rw [hdrop] at hhead
        simpa using hhead
      cases h
      rw [hdrop, hc] at hrest
      simp only [Option.map_some, Option.getD_some, String.toList_append, String.toList_ofList,
        hdashes, hequals]
      exact congrArg ('-' :: '-' :: ·) hrest.symm
    next hdrop =>
      cases h
      rw [hdrop, List.append_nil] at hrest
      simp only [Option.map_none, Option.getD_none, String.append_empty, String.toList_append,
        String.toList_ofList, hdashes]
      exact congrArg ('-' :: '-' :: ·) hrest.symm
  · cases h
  · cases h

theorem known_of_ofLong? {scope : Scope} {flag : String} {o : ValueOption}
    (h : Flag.ofLong? scope flag = some (.value o)) :
    o ∈ ValueOption.known scope ∧ o.flag = flag := by
  unfold Flag.ofLong? at h
  split at h
  next o' hfind =>
    cases h
    exact ⟨List.mem_of_find?_eq_some hfind, by simpa using List.find?_some hfind⟩
  · obtain ⟨s, -, hs⟩ := Option.map_eq_some_iff.mp h
    cases hs

theorem flag_of_ofLong? {scope : Scope} {flag : String} {s : Switch}
    (h : Flag.ofLong? scope flag = some (.switch s)) : s.flag = flag := by
  unfold Flag.ofLong? at h
  split at h
  · cases h
  · obtain ⟨s', hfind, hs⟩ := Option.map_eq_some_iff.mp h
    cases hs
    simpa using List.find?_some hfind

section Switches

variable {scope : Scope} {p q : Progress} {s : Switch}

/-- The one switch that is counted asks for the array. -/
theorem json_of_switch (h : p.switch scope s = .ok q) :
    s = .json ∧ p.json = false ∧ q = { p with json := true } := by
  cases s with
  | help | version => cases h
  | json =>
    simp only [Progress.switch] at h
    split at h
    · cases h
    next hfree =>
      cases h
      exact ⟨rfl, by simpa using hfree, rfl⟩

theorem json_ne_of_ofLetter? {c : Char} (h : Switch.ofLetter? scope c = some s) : s ≠ .json := by
  rintro rfl
  have hletter := List.find?_some h
  simp [Switch.letter?] at hletter

end Switches

/-- Options that are known and given once, and the progress that has counted them. -/
structure Holds (scope : Scope) (gs : List Given) (p : Progress) : Prop where
  proper : ∀ g ∈ gs, g.IsProper ∧ g.IsKnown scope
  once : (gs.map Given.flag).Nodup
  value : ∀ o, p.get o = given? gs o
  json : p.json = decide (Given.json ∈ gs)

section Holds

variable {scope : Scope} {gs : List Given} {p q : Progress}

theorem given?_append (gs hs : List Given) (o : ValueOption) :
    given? (gs ++ hs) o = (given? gs o).or (given? hs o) := by
  rw [given?, List.findSome?_append]
  rfl

theorem not_mem_flags_of_given? {o : ValueOption} (h : given? gs o = none) :
    Flag.value o ∉ gs.map Given.flag := by
  intro hmem
  obtain ⟨g, hg, hflag⟩ := List.mem_map.mp hmem
  have hvalue := List.findSome?_eq_none_iff.mp h g hg
  cases g <;> simp_all [Given.value?, Given.flag]

theorem json_not_mem_flags (h : Given.json ∉ gs) : Flag.switch .json ∉ gs.map Given.flag := by
  intro hmem
  obtain ⟨g, hg, hflag⟩ := List.mem_map.mp hmem
  cases g with
  | json => exact h hg
  | attached o v | spaced o v => cases hflag

theorem Holds.congr (h : Holds scope gs p) (hconfig : q.config = p.config)
    (hsettings : q.settings = p.settings) (hjson : q.json = p.json) : Holds scope gs q where
  proper := h.proper
  once := h.once
  value o := by
    rw [← h.value o]
    cases o with
    | config => exact hconfig
    | field f => exact congrArg (Settings.get · f) hsettings
  json := hjson.trans h.json

theorem Holds.nodup_concat (h : Holds scope gs p) {g : Given} (hnew : g.flag ∉ gs.map Given.flag) :
    ((gs ++ [g]).map Given.flag).Nodup := by
  rw [List.map_append, List.nodup_append]
  refine ⟨h.once, List.nodup_singleton _, ?_⟩
  rintro f hf f' hf' rfl
  cases List.mem_singleton.mp hf'
  exact hnew hf

/-- An option with a value is counted only if it is new. -/
theorem Holds.record (h : Holds scope gs p) {o : ValueOption} {v : String}
    (hrecord : p.record o v = .ok q) {g : Given} (hflag : g.flag = .value o)
    (hvalue : ∀ o', g.value? o' = if o = o' then some v else none)
    (hproper : (o = .config → v ≠ "") → g.IsProper) (hknown : g.IsKnown scope) :
    Holds scope (gs ++ [g]) q := by
  have hput := Progress.eq_put_of_record hrecord
  obtain ⟨hfree, hnamed⟩ : p.get o = none ∧ (o = .config → v ≠ "") := by
    unfold Progress.record at hrecord
    split at hrecord
    · cases hrecord
    next hfree =>
      split at hrecord
      · cases hrecord
      next hnamed => exact ⟨by simpa using hfree, fun ho hv => hnamed ⟨ho, hv⟩⟩
  have hnone : given? gs o = none := (h.value o).symm.trans hfree
  constructor
  · intro g' hg'
    rcases List.mem_append.mp hg' with hg' | hg'
    · exact h.proper g' hg'
    · rw [List.mem_singleton.mp hg']
      exact ⟨hproper hnamed, hknown⟩
  · exact h.nodup_concat (hflag ▸ not_mem_flags_of_given? hnone)
  · intro o'
    rw [hput, Progress.get_put, given?_append, given?_cons, hvalue]
    by_cases ho : o = o'
    · subst ho
      simp [hnone]
    · simp [ho, h.value o', given?]
  · have hjson : g ≠ .json := by
      rintro rfl
      cases hflag
    rw [hput, Progress.put_json, h.json]
    simp [Ne.symm hjson]

theorem Holds.switch (h : Holds scope gs p) (hfree : p.json = false)
    (hknown : Switch.json ∈ Switch.known scope) :
    Holds scope (gs ++ [.json]) { p with json := true } where
  proper g hg := by
    rcases List.mem_append.mp hg with hg | hg
    · exact h.proper g hg
    · rw [List.mem_singleton.mp hg]
      exact ⟨trivial, hknown⟩
  once := h.nodup_concat (json_not_mem_flags (by simpa [h.json] using hfree))
  value o := by
    have hsame : ({ p with json := true } : Progress).get o = p.get o := by cases o <;> rfl
    rw [hsame, h.value o, given?_append, given?_cons]
    simp [Given.value?, given?]
  json := by simp

end Holds

/-- The words of an option that is not counted yet. -/
def Pending.words : Pending → List String
  | .none => []
  | .awaiting o => [o.flag]
  | .filled o v => [o.flag, v]

/-- The option that is not counted yet is known, and its value does not look like an option. -/
def Pending.IsProper (scope : Scope) : Pending → Prop
  | .none => True
  | .awaiting o => o ∈ ValueOption.known scope
  | .filled o v => o ∈ ValueOption.known scope ∧ Form.of v = .word

/-- Words are taken as options, the last of which may not be counted yet, and a double dash. -/
structure Taken (scope : Scope) (ws : List String) (gs : List Given) (p : Progress) : Prop where
  holds : Holds scope gs p
  words : ws = gs.flatMap Given.words ++ p.pending.words ++ if p.trailing then ["--"] else []
  pending : p.pending.IsProper scope

section Taken

variable {scope : Scope} {ws : List String} {gs : List Given} {p q : Progress} {w : String}

theorem taken_initial (scope : Scope) : Taken scope [] [] .initial where
  holds := ⟨nofun, List.nodup_nil, initial_get, rfl⟩
  words := rfl
  pending := trivial

theorem Taken.settle (h : Taken scope ws gs p) (hsettle : p.settle = .ok q) :
    ∃ gs', Taken scope ws gs' q := by
  unfold Progress.settle at hsettle
  split at hsettle
  · cases hsettle
    exact ⟨gs, h⟩
  · cases hsettle
  next o v hfilled =>
    have hpending := h.pending
    have hwords := h.words
    rw [hfilled] at hpending hwords
    have hholds : Holds scope gs { p with pending := .none } := h.holds.congr rfl rfl rfl
    have hproper : (o = .config → v ≠ "") → (Given.spaced o v).IsProper :=
      fun hnamed => ⟨hnamed, hpending.2⟩
    have hrecorded : Holds scope (gs ++ [.spaced o v]) q :=
      hholds.record hsettle rfl (fun _ => rfl) hproper hpending.1
    refine ⟨gs ++ [.spaced o v], hrecorded, ?_, ?_⟩
    · rw [Progress.eq_put_of_record hsettle, Progress.put_pending, Progress.put_trailing]
      simpa [Pending.words, Given.words] using hwords
    · rw [Progress.eq_put_of_record hsettle, Progress.put_pending]
      trivial

/-- What a word does to what was taken before it. -/
theorem Taken.step (h : Taken scope ws gs p) (hstep : step scope p w = .ok q) :
    ∃ gs', Taken scope (ws ++ [w]) gs' q := by
  have hopen := open_of_step hstep
  have hsettled : ∀ {r : Progress}, p.settle = .ok r → ∃ gs', Holds scope gs' r ∧
      ws = gs'.flatMap Given.words ∧ r.pending = .none ∧ r.trailing = false := by
    intro r hsettle
    obtain ⟨gs', hr⟩ := h.settle hsettle
    obtain ⟨hnone, htrailing⟩ := Progress.settle_shape hsettle
    have hwords := hr.words
    rw [hnone, htrailing, hopen] at hwords
    exact ⟨gs', hr.holds, by simpa [Pending.words] using hwords, hnone, htrailing.trans hopen⟩
  cases takes_of_step hstep with
  | doubleDash form =>
    refine ⟨gs, h.holds.congr rfl rfl rfl, ?_, h.pending⟩
    rw [h.words, eq_of_form_doubleDash form, hopen]
    simp
  | @attached flag value o r _ form known settled recorded =>
    obtain ⟨gs', hholds, hwords, hnone, htrailing⟩ := hsettled settled
    obtain ⟨hknown, hflag⟩ := known_of_ofLong? known
    have hrecorded : Holds scope (gs' ++ [.attached o value]) q :=
      hholds.record recorded rfl (fun _ => rfl) id hknown
    refine ⟨gs' ++ [.attached o value], hrecorded, ?_, ?_⟩
    · rw [Progress.eq_put_of_record recorded, Progress.put_pending, Progress.put_trailing, hnone,
        htrailing, hwords, eq_of_form_long form, ← hflag]
      simp [Pending.words, Given.words, String.append_assoc]
    · rw [Progress.eq_put_of_record recorded, Progress.put_pending, hnone]
      trivial
  | option form known settled =>
    obtain ⟨gs', hholds, hwords, -, htrailing⟩ := hsettled settled
    obtain ⟨hknown, hflag⟩ := known_of_ofLong? known
    refine ⟨gs', hholds.congr rfl rfl rfl, ?_, hknown⟩
    rw [hwords, eq_of_form_long form, htrailing, ← hflag]
    simp [Pending.words]
  | switch form known settled switched =>
    obtain ⟨gs', hholds, hwords, hnone, htrailing⟩ := hsettled settled
    obtain ⟨rfl, hfree, rfl⟩ := json_of_switch switched
    refine ⟨gs' ++ [.json], hholds.switch hfree (mem_known_of_ofLong? known), ?_, ?_⟩
    · rw [hwords, eq_of_form_long form, hnone, htrailing]
      simp [Pending.words, Given.words, flag_of_ofLong? known]
    · rw [hnone]
      trivial
  | letter form known settled switched =>
    exact absurd (json_of_switch switched).1 (json_ne_of_ofLetter? known)
  | value form awaited =>
    have hpending := h.pending
    rw [awaited] at hpending
    refine ⟨gs, h.holds.congr rfl rfl rfl, ?_, hpending, form⟩
    rw [h.words, awaited, hopen]
    simp [Pending.words]

theorem Taken.foldlM {words : List String} (h : Taken scope ws gs p)
    (hwords : words.foldlM (Arguments.step scope) p = .ok q) :
    ∃ gs', Taken scope (ws ++ words) gs' q := by
  induction words generalizing ws gs p with
  | nil =>
    cases hwords
    exact ⟨gs, (List.append_nil ws).symm ▸ h⟩
  | cons w words ih =>
    obtain ⟨r, hstep, hrest⟩ := exists_of_bind_ok (List.foldlM_cons.symm.trans hwords)
    obtain ⟨gs', hr⟩ := h.step hstep
    obtain ⟨gs'', hq⟩ := ih hr hrest
    exact ⟨gs'', by simpa using hq⟩

end Taken

theorem finish_shape {preset : Option String} {p q : Progress} {c : Config}
    (h : finish preset p = .ok (q, c)) : p.settle = .ok q ∧
      c = ⟨q.config, if q.config.isSome then none else preset⟩ ∧
      (preset = some "" → q.config.isSome) := by
  obtain ⟨r, hsettle, hrest⟩ := exists_of_bind_ok h
  cases hconfig : r.config with
  | some path =>
    simp only [hconfig] at hrest
    cases hrest
    exact ⟨hsettle, by simp [hconfig], by simp [hconfig]⟩
  | none =>
    simp only [hconfig] at hrest
    split at hrest
    · cases hrest
    next hsome => cases hsome
    next hnamed =>
      cases hrest
      refine ⟨hsettle, by simp [hconfig], ?_⟩
      rintro rfl
      exact (hnamed rfl).elim

/-- The words of a part of a line, once it has ended. -/
theorem holds_of_finish {scope : Scope} {preset : Option String} {words : List String}
    {p q : Progress} {c : Config} (hwords : words.foldlM (step scope) .initial = .ok p)
    (h : finish preset p = .ok (q, c)) :
    ∃ gs, Holds scope gs q ∧
      words = gs.flatMap Given.words ++ if p.trailing then ["--"] else [] := by
  have hsettle := (finish_shape h).1
  obtain ⟨gs, htaken⟩ := (taken_initial scope).foldlM hwords
  obtain ⟨gs', hsettled⟩ := htaken.settle hsettle
  obtain ⟨hnone, htrailing⟩ := Progress.settle_shape hsettle
  have hq := hsettled.words
  rw [hnone, htrailing] at hq
  exact ⟨gs', hsettled.holds, by simpa [Pending.words] using hq⟩

theorem Holds.settings_eq {scope : Scope} {gs : List Given} {p : Progress} (h : Holds scope gs p) :
    p.settings = .ofFields fun f => given? gs (.field f) := by
  rw [Arguments.settings_eq p]
  congr 1
  funext f
  exact h.value (.field f)

/-- What is understood is a line of options, perhaps with a double dash behind it. -/
theorem exists_line_of_parse {env : Environment} {words : List String} {i : Invocation}
    (h : parse env words = .ok i) :
    ∃ l : Line, l.IsProper ∧ l.NamesConfig (env.get? configVariable) ∧
      (words = l.words ∨ words = l.words ++ ["--"]) ∧
      i = l.invocation (env.get? configVariable) := by
  obtain ⟨front, rest, hwords, p, hfront, hverb⟩ := IsCut.of_parse h
  obtain ⟨htrailing, hawaiting, -⟩ := verb?_eq_some_iff.mp hverb
  rw [parse, hwords, parseFrom_append _ hfront, parseFrom_verb htrailing hawaiting] at h
  obtain ⟨⟨q, inner⟩, hafter, hresult⟩ := exists_of_bind_ok h
  obtain ⟨⟨q', outer⟩, houter, hi⟩ := exists_of_bind_ok hresult
  obtain ⟨r, hrest, hinner⟩ := exists_of_bind_ok hafter
  obtain ⟨gs, hgs, hgsWords⟩ := holds_of_finish hfront houter
  obtain ⟨hs, hhs, hhsWords⟩ := holds_of_finish hrest hinner
  obtain ⟨-, houterConfig, houterNamed⟩ := finish_shape houter
  obtain ⟨-, hinnerConfig, hinnerNamed⟩ := finish_shape hinner
  have hgsConfig : q'.config = given? gs .config := hgs.value .config
  have hhsConfig : q.config = given? hs .config := hhs.value .config
  refine ⟨⟨gs, i.verb, hs⟩, ⟨hgs.proper, hhs.proper, hgs.once, hhs.once⟩, ?_, ?_, ?_⟩
  · intro hpreset
    exact ⟨hgsConfig ▸ houterNamed hpreset, hhsConfig ▸ hinnerNamed hpreset⟩
  · rw [hwords, hgsWords, htrailing, hhsWords, Line.words]
    cases r.trailing with
    | false => exact .inl (by simp)
    | true => exact .inr (by simp)
  · rw [← Except.ok.inj hi, Line.invocation, Line.config, hinnerConfig, houterConfig,
      ← hhs.json, ← hhs.settings_eq, hgsConfig, hhsConfig]
    cases given? hs .config <;> rfl

end AgentLaunch.Arguments
