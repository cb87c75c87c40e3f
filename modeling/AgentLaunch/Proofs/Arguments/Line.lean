import Mathlib
import AgentLaunch.Arguments.Parse
import AgentLaunch.Proofs.Bind

/-!
# Lines of options

Command lines in which every option is given at most once, in any order and in either form, with
the settings file before the command word or after it. They are always understood, and each option
counts for itself.
-/

namespace AgentLaunch.Arguments

/-- An option as it is written on a command line. -/
inductive Given where
  /-- The value follows an equals sign. -/
  | attached (option : ValueOption) (value : String)
  /-- The value is the next word. -/
  | spaced (option : ValueOption) (value : String)
  | json
  deriving DecidableEq

namespace Given

def words : Given → List String
  | .attached o v => [o.flag ++ "=" ++ v]
  | .spaced o v => [o.flag, v]
  | .json => [Switch.json.flag]

def flag : Given → Flag
  | .attached o _ | .spaced o _ => .value o
  | .json => .switch .json

/-- The value that is given to an option. -/
def value? (o : ValueOption) : Given → Option String
  | .attached p v | .spaced p v => if p = o then some v else none
  | .json => none

/-- The settings file has a name, and a value that is a word of its own does not look like an
option. -/
def IsProper : Given → Prop
  | .attached o v => o = .config → v ≠ ""
  | .spaced o v => (o = .config → v ≠ "") ∧ Form.of v = .word
  | .json => True

def IsKnown (scope : Scope) : Given → Prop
  | .attached o _ | .spaced o _ => o ∈ ValueOption.known scope
  | .json => Switch.json ∈ Switch.known scope

instance : DecidablePred IsProper
  | .attached o v => inferInstanceAs (Decidable (o = .config → v ≠ ""))
  | .spaced o v =>
    inferInstanceAs (Decidable ((o = .config → v ≠ "") ∧ Form.of v = .word))
  | .json => .isTrue trivial

instance (scope : Scope) : DecidablePred (IsKnown scope)
  | .attached o _ | .spaced o _ => inferInstanceAs (Decidable (o ∈ ValueOption.known scope))
  | .json => inferInstanceAs (Decidable (Switch.json ∈ Switch.known scope))

end Given

/-- The value that options give. -/
def given? (gs : List Given) (o : ValueOption) : Option String :=
  gs.findSome? (Given.value? o)

/-- A command line with options on both sides of its command word. -/
structure Line where
  front : List Given
  verb : Verb
  options : List Given

namespace Line

def words (l : Line) : List String :=
  l.front.flatMap Given.words ++ l.verb.word :: l.options.flatMap Given.words

/-- Every option is known where it stands, well written, and given once on its side. -/
structure IsProper (l : Line) : Prop where
  front : ∀ g ∈ l.front, g.IsProper ∧ g.IsKnown .top
  options : ∀ g ∈ l.options, g.IsProper ∧ g.IsKnown (.after l.verb)
  frontOnce : (l.front.map Given.flag).Nodup
  optionsOnce : (l.options.map Given.flag).Nodup

/-- The settings file has a name: if it is preset to nothing, both sides of the line name one. -/
def NamesConfig (preset : Option String) (l : Line) : Prop :=
  preset = some "" → (given? l.front .config).isSome ∧ (given? l.options .config).isSome

/-- The settings file that a line names, or else the one that is preset. -/
def config (preset : Option String) (l : Line) : Option String :=
  ((given? l.options .config).or (given? l.front .config)).or preset

/-- What a line asks for. -/
def invocation (preset : Option String) (l : Line) : Invocation where
  verb := l.verb
  json := decide (Given.json ∈ l.options)
  config := l.config preset
  settings := .ofFields fun f => given? l.options (.field f)

end Line

namespace Progress

/-- The progress after one more option. -/
def add (p : Progress) : Given → Progress
  | .attached o v | .spaced o v => p.put o v
  | .json => { p with json := true }

/-- Whether an option was not taken yet. -/
def IsFree (p : Progress) : Flag → Prop
  | .value o => p.get o = none
  | .switch s => s = .json → p.json = false

/-- All options of a part were counted but the last one perhaps, and that one can be. -/
structure Counts (p q : Progress) : Prop where
  settle : p.settle = .ok q
  trailing : p.trailing = false

theorem get_put (p : Progress) (o o' : ValueOption) (v : String) :
    (p.put o v).get o' = if o = o' then some v else p.get o' := by
  cases o with
  | config => cases o' <;> simp [put, get]
  | field f =>
    cases o' with
    | config => simp [put, get]
    | field g =>
      simp only [put, get, Settings.get_ofFields, ValueOption.field.injEq]
      by_cases h : f = g
      · simp [h]
      · simp [h, Ne.symm h]

@[simp] theorem put_json (p : Progress) (o : ValueOption) (v : String) :
    (p.put o v).json = p.json := by
  cases o <;> rfl

@[simp] theorem put_pending (p : Progress) (o : ValueOption) (v : String) :
    (p.put o v).pending = p.pending := by
  cases o <;> rfl

@[simp] theorem put_trailing (p : Progress) (o : ValueOption) (v : String) :
    (p.put o v).trailing = p.trailing := by
  cases o <;> rfl

theorem get_add (p : Progress) (g : Given) (o : ValueOption) :
    (p.add g).get o = (g.value? o).or (p.get o) := by
  cases g with
  | attached o' v =>
    simp only [add, get_put, Given.value?]
    split <;> rfl
  | spaced o' v =>
    simp only [add, get_put, Given.value?]
    split <;> rfl
  | json => cases o <;> rfl

theorem record_ok {p : Progress} {o : ValueOption} {v : String} (hfree : p.get o = none)
    (hv : o = .config → v ≠ "") : p.record o v = .ok (p.put o v) := by
  have hempty : ¬(o = .config ∧ v = "") := fun h => hv h.1 h.2
  simp [record, hfree, hempty]

theorem settle_of_pending_none {p : Progress} (h : p.pending = .none) : p.settle = .ok p := by
  simp [settle, h]

theorem eq_put_of_record {p q : Progress} {o : ValueOption} {v : String}
    (h : p.record o v = .ok q) : q = p.put o v := by
  unfold record at h
  split at h
  · cases h
  · split at h
    · cases h
    · exact (Except.ok.inj h).symm

/-- What was counted has no option pending, and is still before a double dash if `p` is. -/
theorem settle_shape {p q : Progress} (h : p.settle = .ok q) :
    q.pending = .none ∧ q.trailing = p.trailing := by
  unfold settle at h
  split at h
  next hp =>
    cases Except.ok.inj h
    exact ⟨hp, rfl⟩
  · cases h
  · rw [eq_put_of_record h]
    simp

theorem not_awaiting_of_settle {p q : Progress} (h : p.settle = .ok q) : p.isAwaiting = false := by
  unfold settle at h
  unfold isAwaiting
  split at h <;> simp_all

end Progress

theorem form_flag (o : ValueOption) : Form.of o.flag = .long o.flag none := by
  cases o with
  | config => decide
  | field f => cases f <;> decide

theorem form_attached (o : ValueOption) (v : String) :
    Form.of (o.flag ++ "=" ++ v) = .long o.flag (some v) := by
  cases o with
  | config => simp [Form.of, ValueOption.flag]
  | field f => cases f <;> simp [Form.of, ValueOption.flag, Field.option]

theorem ofLong?_flag {scope : Scope} {o : ValueOption} (h : o ∈ ValueOption.known scope) :
    Flag.ofLong? scope o.flag = some (.value o) := by
  cases scope with
  | top =>
    cases List.mem_singleton.mp h
    decide
  | after verb =>
    cases o with
    | config => cases verb <;> decide
    | field f => cases verb <;> cases f <;> decide

theorem ofLong?_json {scope : Scope} (h : Switch.json ∈ Switch.known scope) :
    Flag.ofLong? scope Switch.json.flag = some (.switch .json) := by
  cases scope with
  | top => simp [Switch.known] at h
  | after verb =>
    cases verb with
    | start => simp [Switch.known] at h
    | print => decide

section Words

variable {scope : Scope} {p q : Progress}

theorem step_attached {o : ValueOption} {v : String} (hp : p.Counts q)
    (hknown : o ∈ ValueOption.known scope) :
    step scope p (o.flag ++ "=" ++ v) = q.record o v := by
  simp only [step, hp.trailing, form_attached, ofLong?_flag hknown]
  simp [hp.settle, bind, Except.bind]

theorem step_flag {o : ValueOption} (hp : p.Counts q) (hknown : o ∈ ValueOption.known scope) :
    step scope p o.flag = .ok { q with pending := .awaiting o } := by
  simp only [step, hp.trailing, form_flag, ofLong?_flag hknown]
  simp [hp.settle, bind, Except.bind, pure, Except.pure]

theorem step_value {o : ValueOption} {v : String} (hq : q.trailing = false)
    (hv : Form.of v = .word) :
    step scope { q with pending := .awaiting o } v = .ok { q with pending := .filled o v } := by
  simp [step, hq, hv]

theorem step_json (hp : p.Counts q) (hknown : Switch.json ∈ Switch.known scope)
    (hfree : q.json = false) : step scope p Switch.json.flag = .ok { q with json := true } := by
  have hform : Form.of Switch.json.flag = .long Switch.json.flag none := by decide
  simp only [step, hp.trailing, hform, ofLong?_json hknown]
  simp [hp.settle, bind, Except.bind, Progress.switch, hfree]

/-- One more option is taken word by word, whether or not its value is counted at once. -/
theorem foldlM_words {g : Given} (hp : p.Counts q) (hg : g.IsProper) (hknown : g.IsKnown scope)
    (hfree : q.IsFree g.flag) :
    ∃ r, g.words.foldlM (step scope) p = .ok r ∧ r.Counts (q.add g) := by
  obtain ⟨hpending, htrailing⟩ := Progress.settle_shape hp.settle
  have hq : q.trailing = false := htrailing.trans hp.trailing
  cases g with
  | attached o v =>
    refine ⟨q.put o v, ?_, Progress.settle_of_pending_none ?_, ?_⟩
    · simp only [Given.words, List.foldlM_cons, List.foldlM_nil, step_attached hp hknown,
        Progress.record_ok hfree hg]
      rfl
    · simpa using hpending
    · simpa using hq
  | spaced o v =>
    refine ⟨{ q with pending := .filled o v }, ?_, ?_, hq⟩
    · simp only [Given.words, List.foldlM_cons, List.foldlM_nil, step_flag hp hknown]
      change (step scope { q with pending := .awaiting o } v >>= fun r => pure r) = _
      rw [step_value hq hg.2]
      rfl
    · have hsame : { q with pending := .none } = q := by rw [← hpending]
      change { q with pending := .none }.record o v = _
      rw [hsame]
      exact Progress.record_ok hfree hg.1
  | json =>
    refine ⟨{ q with json := true }, ?_, Progress.settle_of_pending_none hpending, hq⟩
    simp only [Given.words, List.foldlM_cons, List.foldlM_nil, step_json hp hknown (hfree rfl)]
    rfl

theorem isFree_add {g : Given} {f : Flag} (h : q.IsFree f) (hne : g.flag ≠ f) :
    (q.add g).IsFree f := by
  cases f with
  | value o =>
    have hg : g.value? o = none := by
      cases g <;> simp_all [Given.value?, Given.flag]
    change (q.add g).get o = none
    rw [Progress.get_add, hg]
    exact h
  | switch s =>
    cases g with
    | attached o v => simpa [Progress.IsFree, Progress.add] using h
    | spaced o v => simpa [Progress.IsFree, Progress.add] using h
    | json =>
      intro hs
      subst hs
      exact absurd rfl hne

theorem isFree_of_new {g : Given} {gs : List Given} (hfree : ∀ g' ∈ g :: gs, q.IsFree g'.flag)
    (hnew : g.flag ∉ gs.map Given.flag) : ∀ g' ∈ gs, (q.add g).IsFree g'.flag := by
  intro g' hg'
  apply isFree_add (hfree g' (List.mem_cons_of_mem _ hg'))
  intro he
  exact hnew (he ▸ List.mem_map_of_mem hg')

theorem foldlM_flatMap_words {gs : List Given} (hp : p.Counts q)
    (hgs : ∀ g ∈ gs, g.IsProper ∧ g.IsKnown scope) (honce : (gs.map Given.flag).Nodup)
    (hfree : ∀ g ∈ gs, q.IsFree g.flag) :
    ∃ r, (gs.flatMap Given.words).foldlM (step scope) p = .ok r ∧ r.Counts (gs.foldl .add q) := by
  induction gs generalizing p q with
  | nil => exact ⟨p, rfl, hp⟩
  | cons g rest ih =>
    have hg := hgs g List.mem_cons_self
    obtain ⟨r, hr, hcounts⟩ := foldlM_words hp hg.1 hg.2 (hfree g List.mem_cons_self)
    obtain ⟨hnew, hrest⟩ := List.nodup_cons.mp honce
    obtain ⟨t, ht, htcounts⟩ :=
      ih hcounts (fun g' hg' => hgs g' (List.mem_cons_of_mem _ hg')) hrest
        (isFree_of_new hfree hnew)
    refine ⟨t, ?_, htcounts⟩
    rw [List.flatMap_cons, List.foldlM_append, hr]
    exact ht

/-- Before the command word, a word that is an option or the value of one is not taken for it. -/
theorem parseFrom_cons {preset : Option String} {w : String} {rest : List String}
    (h : p.isAwaiting = true ∨ Form.of w ≠ .word) :
    parseFrom preset p (w :: rest) =
      (step .top p w >>= fun r => parseFrom preset r rest) := by
  have hword : p.isAwaiting = false → w ≠ "help" ∧ w ≠ "start" ∧ w ≠ "print" := by
    intro hp
    have hform := h.resolve_left (by simp [hp])
    refine ⟨?_, ?_, ?_⟩ <;> rintro rfl <;> exact hform (by decide)
  cases hp : p.isAwaiting with
  | true => simp [parseFrom, asksForHelp, verb?, hp]
  | false =>
    obtain ⟨hhelp, hstart, hprint⟩ := hword hp
    have hverb : verb? p w = none := by
      simp [verb?, Verb.all, Verb.word, Ne.symm hstart, Ne.symm hprint]
    simp [parseFrom, asksForHelp, hhelp, hverb]

/-- Options in front of the command word. -/
theorem parseFrom_words {g : Given} (preset : Option String) (rest : List String)
    (hp : p.Counts q) (hg : g.IsProper) (hknown : g.IsKnown .top) (hfree : q.IsFree g.flag) :
    ∃ r, parseFrom preset p (g.words ++ rest) = parseFrom preset r rest ∧ r.Counts (q.add g) := by
  obtain ⟨r, hr, hcounts⟩ := foldlM_words hp hg hknown hfree
  refine ⟨r, ?_, hcounts⟩
  cases g with
  | attached o v =>
    simp only [Given.words, List.foldlM_cons, List.foldlM_nil, bind_pure] at hr
    change parseFrom preset p ((o.flag ++ "=" ++ v) :: rest) = _
    rw [parseFrom_cons (.inr (by simp [form_attached])), hr]
    rfl
  | spaced o v =>
    simp only [Given.words, List.foldlM_cons, List.foldlM_nil, bind_pure] at hr
    rw [step_flag hp hknown] at hr
    change step .top { q with pending := .awaiting o } v = .ok r at hr
    change parseFrom preset p (o.flag :: v :: rest) = _
    rw [parseFrom_cons (.inr (by simp [form_flag])), step_flag hp hknown]
    change parseFrom preset { q with pending := .awaiting o } (v :: rest) = _
    rw [parseFrom_cons (.inl rfl), hr]
    rfl
  | json => exact absurd hknown (by simp [Given.IsKnown, Switch.known])

theorem parseFrom_flatMap_words {gs : List Given} (preset : Option String) (rest : List String)
    (hp : p.Counts q) (hgs : ∀ g ∈ gs, g.IsProper ∧ g.IsKnown .top)
    (honce : (gs.map Given.flag).Nodup) (hfree : ∀ g ∈ gs, q.IsFree g.flag) :
    ∃ r, parseFrom preset p (gs.flatMap Given.words ++ rest) = parseFrom preset r rest ∧
      r.Counts (gs.foldl .add q) := by
  induction gs generalizing p q with
  | nil => exact ⟨p, rfl, hp⟩
  | cons g gs ih =>
    have hg := hgs g List.mem_cons_self
    obtain ⟨r, hr, hcounts⟩ := parseFrom_words preset (gs.flatMap Given.words ++ rest) hp
      hg.1 hg.2 (hfree g List.mem_cons_self)
    obtain ⟨hnew, hrest⟩ := List.nodup_cons.mp honce
    obtain ⟨t, ht, htcounts⟩ :=
      ih hcounts (fun g' hg' => hgs g' (List.mem_cons_of_mem _ hg')) hrest
        (isFree_of_new hfree hnew)
    refine ⟨t, ?_, htcounts⟩
    rw [List.flatMap_cons, List.append_assoc, hr, ht]

end Words

section Totals

variable {gs : List Given} {q : Progress}

theorem given?_cons (g : Given) (gs : List Given) (o : ValueOption) :
    given? (g :: gs) o = (g.value? o).or (given? gs o) := by
  unfold given?
  rw [List.findSome?_cons]
  cases g.value? o <;> rfl

theorem given?_eq_none {o : ValueOption} (h : .value o ∉ gs.map Given.flag) :
    given? gs o = none := by
  rw [given?, List.findSome?_eq_none_iff]
  intro g hg
  cases g with
  | json => rfl
  | attached p v | spaced p v =>
    have hp : p ≠ o := by
      rintro rfl
      exact h (List.mem_map_of_mem hg)
    simp [Given.value?, hp]

/-- As each option is given once, it does not matter that the last value of one would count. -/
theorem get_foldl_add (honce : (gs.map Given.flag).Nodup) (o : ValueOption) :
    (gs.foldl .add q).get o = (given? gs o).or (q.get o) := by
  induction gs generalizing q with
  | nil => rfl
  | cons g gs ih =>
    obtain ⟨hnew, hrest⟩ := List.nodup_cons.mp honce
    rw [List.foldl_cons, ih hrest, Progress.get_add, given?_cons]
    cases hg : g.value? o with
    | none => simp
    | some v =>
      have hflag : g.flag = .value o := by
        cases g <;> simp_all [Given.value?, Given.flag]
      rw [given?_eq_none (hflag ▸ hnew)]
      rfl

theorem json_foldl_add : (gs.foldl .add q).json = (q.json || decide (Given.json ∈ gs)) := by
  induction gs generalizing q with
  | nil => simp
  | cons g gs ih =>
    rw [List.foldl_cons, ih]
    cases g <;> simp [Progress.add]

theorem settings_eq (p : Progress) : p.settings = .ofFields fun f => p.get (.field f) := rfl

end Totals

theorem finish_ok {preset : Option String} {p q : Progress} (hp : p.Counts q)
    (hpreset : preset = some "" → q.config.isSome) :
    finish preset p =
      .ok (q, ⟨q.config, if q.config.isSome then none else preset⟩) := by
  rw [finish, hp.settle, ok_bind]
  cases hc : q.config with
  | some path => rfl
  | none => split <;> simp_all [pure, Except.pure]

theorem parseFrom_verb {preset : Option String} {p : Progress} {verb : Verb} {rest : List String}
    (htrailing : p.trailing = false) (hawaiting : p.isAwaiting = false) :
    parseFrom preset p (verb.word :: rest) = (do
      let (q, inner) ← parseAfter preset verb rest
      let (_, outer) ← finish preset p
      return ⟨verb, q.json, (inner.option.or outer.option).or inner.preset, q.settings⟩) := by
  have hhelp : asksForHelp p verb.word = false := by
    cases verb <;> simp [asksForHelp, Verb.word]
  have hverb : verb? p verb.word = some verb := by
    simp only [verb?, htrailing, hawaiting]
    cases verb <;> decide
  simp [parseFrom, hhelp, hverb]

theorem initial_counts : Progress.initial.Counts .initial :=
  ⟨rfl, rfl⟩

theorem initial_isFree (f : Flag) : Progress.initial.IsFree f := by
  cases f with
  | value o => cases o with
    | config => rfl
    | field f => cases f <;> rfl
  | switch s => exact fun _ => rfl

theorem initial_get (o : ValueOption) : Progress.initial.get o = none :=
  initial_isFree (.value o)

/-- A line is understood if its settings file has a name. -/
theorem parse_words (env : Environment) (l : Line) (hl : l.IsProper)
    (hconfig : l.NamesConfig (env.get? configVariable)) :
    parse env l.words = .ok (l.invocation (env.get? configVariable)) := by
  obtain ⟨p, hp, hpc⟩ := parseFrom_flatMap_words (env.get? configVariable)
    (l.verb.word :: l.options.flatMap Given.words) initial_counts hl.front hl.frontOnce
    (fun g _ => initial_isFree g.flag)
  obtain ⟨q, hq, hqc⟩ := foldlM_flatMap_words initial_counts hl.options hl.optionsOnce
    (fun g _ => initial_isFree g.flag)
  have hafter : parseAfter (env.get? configVariable) l.verb (l.options.flatMap Given.words) =
      finish (env.get? configVariable) q := by
    rw [parseAfter, hq]
    rfl
  have hinner := get_foldl_add (q := .initial) hl.optionsOnce .config
  have houter := get_foldl_add (q := .initial) hl.frontOnce .config
  rw [initial_get, Option.or_none] at hinner houter
  change (l.options.foldl .add Progress.initial).config = _ at hinner
  change (l.front.foldl .add Progress.initial).config = _ at houter
  have hsettings : (l.options.foldl .add Progress.initial).settings =
      .ofFields fun f => given? l.options (.field f) := by
    rw [settings_eq]
    congr 1
    funext f
    rw [get_foldl_add hl.optionsOnce, initial_get, Option.or_none]
  have hawaiting := Progress.not_awaiting_of_settle hpc.settle
  rw [parse, Line.words, hp, parseFrom_verb hpc.trailing hawaiting, hafter,
    finish_ok hqc (fun h => hinner ▸ (hconfig h).2),
    finish_ok hpc (fun h => houter ▸ (hconfig h).1)]
  simp only [bind, Except.bind, pure, Except.pure, Line.invocation, Line.config, hinner, houter,
    hsettings, json_foldl_add]
  cases given? l.options .config <;> simp [Progress.initial]

end AgentLaunch.Arguments
