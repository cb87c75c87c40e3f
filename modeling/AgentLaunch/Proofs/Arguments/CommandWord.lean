import AgentLaunch.Proofs.Arguments.Line
import AgentLaunch.Proofs.Arguments.Step

/-!
# The command word

A command line that is understood falls into options of the program, one command word, and what
follows it. Whatever may follow the word that launches may also follow the word that prints.
-/

namespace AgentLaunch.Arguments

/-- A command line falls into options of the program, a command word, and the rest. -/
structure IsCut (words front : List String) (verb : Verb) (rest : List String) : Prop where
  words : words = front ++ verb.word :: rest
  front : ∃ p, front.foldlM (step .top) Progress.initial = .ok p ∧ verb? p verb.word = some verb

section Front

variable {p q : Progress} {w : String} {verb : Verb} {preset : Option String}

theorem form_verb (verb : Verb) : Form.of verb.word = .word := by
  cases verb <;> decide

theorem verb?_eq_some_iff :
    verb? p w = some verb ↔ p.trailing = false ∧ p.isAwaiting = false ∧ w = verb.word := by
  unfold verb?
  constructor
  · intro h
    split at h
    · cases h
    next hopen =>
      have hw : verb.word = w := by simpa using List.find?_some h
      simp only [not_or, Bool.not_eq_true] at hopen
      exact ⟨hopen.1, hopen.2, hw.symm⟩
  · rintro ⟨htrailing, hawaiting, rfl⟩
    rw [if_neg (by simp [htrailing, hawaiting])]
    cases verb <;> decide

/-- A word that is no option is taken only as the value of one. -/
theorem isAwaiting_of_takes {scope : Scope} (h : Takes scope p w q) (hform : Form.of w = .word) :
    p.isAwaiting = true := by
  cases h with
  | value form awaited => rw [Progress.isAwaiting, awaited]
  | doubleDash form | attached form | option form | switch form | letter form =>
    rw [hform] at form
    cases form

/-- A command word is never taken as a word in front of one. -/
theorem step_verb (h : verb? p w = some verb) : step .top p w ≠ .ok q := by
  obtain ⟨-, hawaiting, rfl⟩ := verb?_eq_some_iff.mp h
  intro hstep
  have hawaited := isAwaiting_of_takes (takes_of_step hstep) (form_verb verb)
  rw [hawaiting] at hawaited
  cases hawaited

theorem parseFrom_of_step {rest : List String} (h : step .top p w = .ok q) :
    parseFrom preset p (w :: rest) = parseFrom preset q rest := by
  have hoption : p.isAwaiting = true ∨ Form.of w ≠ .word := by
    by_cases hform : Form.of w = .word
    · exact .inl (isAwaiting_of_takes (takes_of_step h) hform)
    · exact .inr hform
  rw [parseFrom_cons hoption, h]
  rfl

theorem parseFrom_append {front : List String} (rest : List String)
    (h : front.foldlM (step .top) p = .ok q) :
    parseFrom preset p (front ++ rest) = parseFrom preset q rest := by
  induction front generalizing p with
  | nil =>
    cases h
    rfl
  | cons w front ih =>
    rw [List.foldlM_cons] at h
    obtain ⟨r, hstep, hrest⟩ := exists_of_bind_ok h
    rw [List.cons_append, parseFrom_of_step hstep]
    exact ih hrest

/-- What is understood has a command word. -/
theorem cut_of_parseFrom {words : List String} {i : Invocation}
    (h : parseFrom preset p words = .ok i) :
    ∃ front rest q, words = front ++ i.verb.word :: rest ∧
      front.foldlM (step .top) p = .ok q ∧ verb? q i.verb.word = some i.verb := by
  induction words generalizing p with
  | nil =>
    rw [parseFrom] at h
    obtain ⟨out, -, hthrow⟩ := exists_of_bind_ok h
    dsimp only at hthrow
    split at hthrow <;> cases hthrow
  | cons w words ih =>
    rw [parseFrom] at h
    split at h
    · cases h
    · split at h
      next verb hverb =>
        obtain ⟨inner, -, hinner⟩ := exists_of_bind_ok h
        obtain ⟨outer, -, houter⟩ := exists_of_bind_ok hinner
        have hi : i.verb = verb := by rw [← Except.ok.inj houter]
        have hw := (verb?_eq_some_iff.mp hverb).2.2
        exact ⟨[], words, p, by rw [hi, hw, List.nil_append], rfl, by rw [hi, ← hw, hverb]⟩
      · obtain ⟨r, hstep, hrest⟩ := exists_of_bind_ok h
        obtain ⟨front, rest, q, hwords, hfront, hq⟩ := ih hrest
        refine ⟨w :: front, rest, q, by rw [hwords, List.cons_append], ?_, hq⟩
        rw [List.foldlM_cons, hstep]
        exact hfront

theorem IsCut.of_parse {env : Environment} {words : List String} {i : Invocation}
    (h : parse env words = .ok i) : ∃ front rest, IsCut words front i.verb rest := by
  obtain ⟨front, rest, q, hwords, hfront, hq⟩ := cut_of_parseFrom h
  exact ⟨front, rest, hwords, q, hfront, hq⟩

theorem cut_unique {front front' rest rest' : List String} {verb' : Verb} {q' : Progress}
    (hwords : front ++ verb.word :: rest = front' ++ verb'.word :: rest')
    (hfront : front.foldlM (step .top) p = .ok q) (hq : verb? q verb.word = some verb)
    (hfront' : front'.foldlM (step .top) p = .ok q') (hq' : verb? q' verb'.word = some verb') :
    front = front' ∧ verb = verb' ∧ rest = rest' := by
  induction front generalizing front' p with
  | nil =>
    cases hfront
    cases front' with
    | nil =>
      cases hfront'
      obtain ⟨hword, hrest⟩ := List.cons.inj hwords
      rw [hword] at hq
      exact ⟨rfl, Option.some.inj (hq.symm.trans hq'), hrest⟩
    | cons w front' =>
      obtain ⟨rfl, -⟩ := List.cons.inj hwords
      obtain ⟨r, hstep, -⟩ := exists_of_bind_ok (List.foldlM_cons.symm.trans hfront')
      exact absurd hstep (step_verb hq)
  | cons w front ih =>
    obtain ⟨r, hstep, hrest⟩ := exists_of_bind_ok (List.foldlM_cons.symm.trans hfront)
    cases front' with
    | nil =>
      cases hfront'
      obtain ⟨rfl, -⟩ := List.cons.inj hwords
      exact absurd hstep (step_verb hq')
    | cons w' front' =>
      obtain ⟨rfl, htail⟩ := List.cons.inj hwords
      obtain ⟨r', hstep', hrest'⟩ := exists_of_bind_ok (List.foldlM_cons.symm.trans hfront')
      cases Except.ok.inj (hstep.symm.trans hstep')
      obtain ⟨rfl, hverb, hsame⟩ := ih htail hrest hrest'
      exact ⟨rfl, hverb, hsame⟩

/-- There is one way to read a line. -/
theorem IsCut.unique {words front front' rest rest' : List String} {verb verb' : Verb}
    (h : IsCut words front verb rest) (h' : IsCut words front' verb' rest') :
    front = front' ∧ verb = verb' ∧ rest = rest' := by
  obtain ⟨q, hfront, hq⟩ := h.front
  obtain ⟨q', hfront', hq'⟩ := h'.front
  exact cut_unique (h.words.symm.trans h'.words) hfront hq hfront' hq'

end Front

namespace Progress

/-- What was taken, with the switch for arrays as given. -/
def withJson (b : Bool) (p : Progress) : Progress :=
  { p with json := b }

@[simp] theorem pending_withJson (b : Bool) (p : Progress) :
    (p.withJson b).pending = p.pending := rfl

@[simp] theorem trailing_withJson (b : Bool) (p : Progress) :
    (p.withJson b).trailing = p.trailing := rfl

@[simp] theorem config_withJson (b : Bool) (p : Progress) : (p.withJson b).config = p.config := rfl

theorem get_withJson (b : Bool) (p : Progress) (o : ValueOption) :
    (p.withJson b).get o = p.get o := by
  cases o <;> rfl

theorem put_withJson (b : Bool) (p : Progress) (o : ValueOption) (v : String) :
    (p.withJson b).put o v = (p.put o v).withJson b := by
  cases o <;> rfl

theorem record_withJson {p q : Progress} {o : ValueOption} {v : String} (b : Bool)
    (h : p.record o v = .ok q) : (p.withJson b).record o v = .ok (q.withJson b) := by
  have hq := eq_put_of_record h
  unfold record at h ⊢
  rw [get_withJson, put_withJson, ← hq]
  split at h
  · cases h
  next hfree =>
    split at h
    · cases h
    next hnamed => rw [if_neg hfree, if_neg hnamed]

theorem settle_withJson {p q : Progress} (b : Bool) (h : p.settle = .ok q) :
    (p.withJson b).settle = .ok (q.withJson b) := by
  simp only [settle, pending_withJson] at h ⊢
  cases hp : p.pending with
  | none =>
    simp only [hp] at h ⊢
    cases h
    rfl
  | awaiting o =>
    simp only [hp] at h
    cases h
  | filled o v =>
    simp only [hp] at h ⊢
    exact record_withJson b h

end Progress

section Print

variable {p q : Progress} {w : String}

theorem ofLong?_print {flag : String} {f : Flag} (h : Flag.ofLong? (.after .start) flag = some f) :
    Flag.ofLong? (.after .print) flag = some f := by
  have hknown : ValueOption.known (.after .print) = ValueOption.known (.after .start) := rfl
  simp only [Flag.ofLong?, hknown] at h ⊢
  cases hvalue : (ValueOption.known (.after .start)).find? fun o => o.flag = flag with
  | some o =>
    simp only [hvalue] at h ⊢
    exact h
  | none =>
    simp only [hvalue] at h ⊢
    obtain ⟨s, hs, hf⟩ := Option.map_eq_some_iff.mp h
    have hflag : Switch.help.flag = flag := by
      have hmem := List.mem_singleton.mp (List.mem_of_find?_eq_some hs)
      simpa [hmem] using List.find?_some hs
    subst hflag
    exact h

theorem mem_known_of_ofLong? {scope : Scope} {flag : String} {s : Switch}
    (h : Flag.ofLong? scope flag = some (.switch s)) : s ∈ Switch.known scope := by
  unfold Flag.ofLong? at h
  split at h
  · cases h
  · obtain ⟨t, ht, hs⟩ := Option.map_eq_some_iff.mp h
    cases hs
    exact List.mem_of_find?_eq_some ht

/-- The one switch after the word that launches asks for help. -/
theorem switch_start {s : Switch} (hs : s ∈ Switch.known (.after .start)) :
    p.switch (.after .start) s ≠ .ok q := by
  rw [List.mem_singleton.mp hs]
  nofun

/-- Every word that may follow the word that launches may follow the word that prints. -/
theorem step_print (b : Bool) (h : step (.after .start) p w = .ok q) :
    step (.after .print) (p.withJson b) w = .ok (q.withJson b) := by
  apply step_of_takes ((Progress.trailing_withJson b p).trans (open_of_step h))
  cases takes_of_step h with
  | doubleDash form => exact .doubleDash form
  | attached form known settled recorded =>
    exact .attached form (ofLong?_print known) (Progress.settle_withJson b settled)
      (Progress.record_withJson b recorded)
  | option form known settled =>
    exact .option form (ofLong?_print known) (Progress.settle_withJson b settled)
  | switch _ known _ switched =>
    exact absurd switched (switch_start (mem_known_of_ofLong? known))
  | letter _ known _ switched =>
    exact absurd switched (switch_start (List.mem_of_find?_eq_some known))
  | value form awaited => exact .value form awaited

theorem foldlM_step_print {words : List String} (b : Bool)
    (h : words.foldlM (step (.after .start)) p = .ok q) :
    words.foldlM (step (.after .print)) (p.withJson b) = .ok (q.withJson b) := by
  induction words generalizing p with
  | nil =>
    cases h
    rfl
  | cons w words ih =>
    obtain ⟨r, hstep, hrest⟩ := exists_of_bind_ok (List.foldlM_cons.symm.trans h)
    rw [List.foldlM_cons, step_print b hstep]
    exact ih hrest

theorem finish_withJson {preset : Option String} {c : Config} (b : Bool)
    (h : finish preset p = .ok (q, c)) : finish preset (p.withJson b) = .ok (q.withJson b, c) := by
  obtain ⟨r, hr, hrest⟩ := exists_of_bind_ok h
  rw [finish, Progress.settle_withJson b hr, ok_bind, Progress.config_withJson]
  cases hconfig : r.config with
  | some path =>
    simp only [hconfig] at hrest ⊢
    cases hrest
    rfl
  | none =>
    simp only [hconfig] at hrest ⊢
    by_cases hpreset : preset = some ""
    · subst hpreset
      cases hrest
    · split at hrest <;> simp_all [pure, Except.pure]

/-- The words that ask for a command to be printed. -/
def printWords (json : Bool) : List String :=
  Verb.print.word :: if json then [Switch.json.flag] else []

/-- What follows the word that prints is taken as it would be after the word that launches. -/
theorem parseAfter_print {preset : Option String} {rest : List String} {c : Config} (json : Bool)
    (h : parseAfter preset .start rest = .ok (q, c)) :
    parseAfter preset .print ((printWords json).tail ++ rest) = .ok (q.withJson json, c) := by
  obtain ⟨r, hr, hfinish⟩ := exists_of_bind_ok h
  have hstart : ((printWords json).tail ++ rest).foldlM (step (.after .print)) .initial =
      rest.foldlM (step (.after .print)) (Progress.initial.withJson json) := by
    cases json with
    | false => rfl
    | true =>
      change ((Switch.json.flag :: rest).foldlM (step (.after .print)) .initial) = _
      rw [List.foldlM_cons, step_json initial_counts (by decide) rfl]
      rfl
  rw [parseAfter, hstart, foldlM_step_print json hr]
  exact finish_withJson json hfinish

/-- A line that launches is also understood with the word that prints in its place. -/
theorem parse_print {env : Environment} {words front rest : List String} {i : Invocation}
    (h : parse env words = .ok i) (hcut : IsCut words front .start rest) (json : Bool) :
    parse env (front ++ printWords json ++ rest) = .ok { i with verb := .print, json := json } := by
  obtain ⟨hwords, p, hfront, hp⟩ := hcut
  obtain ⟨htrailing, hawaiting, -⟩ := verb?_eq_some_iff.mp hp
  rw [parse, hwords, parseFrom_append _ hfront, parseFrom_verb htrailing hawaiting] at h
  obtain ⟨⟨q, inner⟩, hafter, hrest⟩ := exists_of_bind_ok h
  obtain ⟨⟨r, outer⟩, hfinish, hi⟩ := exists_of_bind_ok hrest
  rw [parse, List.append_assoc, parseFrom_append _ hfront]
  change parseFrom _ p (Verb.print.word :: ((printWords json).tail ++ rest)) = _
  rw [parseFrom_verb htrailing hawaiting, parseAfter_print json hafter, hfinish, ← Except.ok.inj hi]
  rfl

end Print

end AgentLaunch.Arguments
