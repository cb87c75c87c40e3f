import Mathlib
import AgentLaunch.Proofs.Settings.Merge
import AgentLaunch.Proofs.Settings.Selection

/-!
# Plain sources

Sources that give parameters as texts under their own names, each at most once. Merged into a tree,
such a source decides exactly the parameters that it gives, in whatever order it is read.
-/

namespace AgentLaunch

namespace KeyPath

theorem toLower_of_not_upper {c : Char} (h : ¬(65 ≤ c.toNat ∧ c.toNat ≤ 90)) : c.toLower = c := by
  unfold Char.toLower
  rw [dif_neg]
  intro hu
  exact h ⟨UInt32.le_iff_toNat_le.mp hu.1, UInt32.le_iff_toNat_le.mp hu.2⟩

theorem toNat_toLower_of_upper {c : Char} (h : 65 ≤ c.toNat ∧ c.toNat ≤ 90) :
    c.toLower.toNat = c.toNat + 32 := by
  have hu : c.val ≥ 'A'.val ∧ c.val ≤ 'Z'.val :=
    ⟨UInt32.le_iff_toNat_le.mpr h.1, UInt32.le_iff_toNat_le.mpr h.2⟩
  have hsmall : c.val.toNat ≤ 90 := h.2
  have hstep : (32 : UInt32).toNat = 32 := rfl
  rw [Char.toLower, dif_pos hu]
  change (c.val + 32).toNat = c.val.toNat + 32
  rw [UInt32.toNat_add]
  omega

theorem lowerChar_lowerChar (c : Char) : lowerChar (lowerChar c) = lowerChar c := by
  by_cases hk : c = '\u212a'
  · subst hk
    decide
  · have hc : lowerChar c = c.toLower := by simp [lowerChar, hk]
    rw [hc]
    by_cases hu : 65 ≤ c.toNat ∧ c.toNat ≤ 90
    · have hn := toNat_toLower_of_upper hu
      have hne : c.toLower ≠ '\u212a' := by
        intro he
        rw [he] at hn
        change 8490 = _ at hn
        omega
      rw [lowerChar, if_neg hne, toLower_of_not_upper (by omega)]
    · rw [toLower_of_not_upper hu, hc, toLower_of_not_upper hu]

theorem lower_lower (s : String) : lower (lower s) = lower s := by
  simp [lower, Function.comp_def, lowerChar_lowerChar]

end KeyPath

namespace Settings

/-- A source that gives parameters only as texts under their own names, each at most once. It may
give anything else besides for which there is room. -/
structure IsPlain (room : Nat) (source : List (String × Tree)) : Prop where
  plain : ∀ e ∈ source, ∀ f : Field, (KeyPath.ofKey e.1).root = f.key →
    KeyPath.lower e.1 = f.key ∧ ∃ s, e.2 = .text s
  once : ∀ f : Field, source.countP (fun e => KeyPath.lower e.1 = f.key) ≤ 1
  counted : ∀ e ∈ source, (KeyPath.ofKey e.1).IsCounted room

/-- The text that an entry is for a parameter. -/
def entryText? (f : Field) (e : String × Tree) : Option String :=
  match e.2 with
  | .text s => if KeyPath.lower e.1 = f.key then some s else none
  | _ => none

/-- The text that a source gives to a parameter. -/
def textFor? (source : List (String × Tree)) (f : Field) : Option String :=
  source.findSome? (entryText? f)

/-- The value of a parameter's variable, in whatever letters its name is written. -/
def variableText? (bindings : List (String × String)) (f : Field) : Option String :=
  (bindings.find? fun v => KeyPath.lower v.1 = KeyPath.lower f.variable).map (·.2)

theorem lower_key (f : Field) : KeyPath.lower f.key = f.key := by
  cases f <;> decide

theorem parse?_key (f : Field) : KeyPath.parse? f.key = some ⟨f.key, []⟩ := by
  cases f <;> decide

theorem ofKey_of_lower {key : String} {f : Field} (h : KeyPath.lower key = f.key) :
    KeyPath.ofKey key = ⟨f.key, []⟩ := by
  rw [KeyPath.ofKey, h, parse?_key]
  rfl

theorem root_eq_of_lower {key : String} {f : Field} (h : KeyPath.lower key = f.key) :
    (KeyPath.ofKey key).root = f.key := by
  rw [ofKey_of_lower h]

/-- A source that does nothing but assign texts to different parameters. -/
theorem isPlain_assignments {room : Nat} {values : List (Field × String)}
    (h : (values.map (·.1)).Nodup) : IsPlain room (values.map fun v => (v.1.key, .text v.2)) where
  plain e he f hroot := by
    obtain ⟨v, _, rfl⟩ := List.mem_map.mp he
    rw [ofKey_of_lower (lower_key v.1)] at hroot
    exact ⟨(lower_key v.1).trans hroot, v.2, rfl⟩
  once f := by
    have hcount := List.nodup_iff_count.mp h f
    rw [List.count, List.countP_map] at hcount
    rw [List.countP_map]
    refine Nat.le_trans (List.countP_mono_left ?_) hcount
    intro v _ hv
    have hkey : v.1.key = f.key := by simpa [lower_key] using hv
    simp [Field.key_injective hkey]
  counted e he := by
    obtain ⟨v, _, rfl⟩ := List.mem_map.mp he
    rw [ofKey_of_lower (lower_key v.1)]
    exact nofun

theorem isPlain_nil {room : Nat} : IsPlain room [] where
  plain _ he := absurd he List.not_mem_nil
  once _ := Nat.zero_le 1
  counted _ he := absurd he List.not_mem_nil

section Entries

variable {room : Nat} {e : String × Tree} {source source' : List (String × Tree)} {f : Field}

theorem entryText?_eq_some_iff {s : String} :
    entryText? f e = some s ↔ KeyPath.lower e.1 = f.key ∧ e.2 = .text s := by
  obtain ⟨key, t⟩ := e
  cases t <;> simp [entryText?]

theorem textFor?_cons : textFor? (e :: source) f = (entryText? f e).or (textFor? source f) := by
  unfold textFor?
  rw [List.findSome?_cons]
  cases entryText? f e <;> rfl

/-- Of the entries with a parameter's name in a source that has one at most, two are the same. -/
theorem eq_of_lower {d : String × Tree}
    (h : source.countP (fun e => KeyPath.lower e.1 = f.key) ≤ 1) (hd : d ∈ source) (he : e ∈ source)
    (hdkey : KeyPath.lower d.1 = f.key) (hekey : KeyPath.lower e.1 = f.key) : d = e := by
  rw [List.countP_eq_length_filter] at h
  have hmem : ∀ e ∈ source, KeyPath.lower e.1 = f.key →
      e ∈ source.filter fun e => KeyPath.lower e.1 = f.key :=
    fun e he hkey => List.mem_filter.mpr ⟨he, decide_eq_true hkey⟩
  have hd' := hmem d hd hdkey
  have he' := hmem e he hekey
  generalize source.filter (fun e => KeyPath.lower e.1 = f.key) = named at h hd' he'
  match named, h with
  | [only], _ => rw [List.mem_singleton.mp hd', List.mem_singleton.mp he']

/-- The text for a parameter is that of the entry with its name, wherever it stands. -/
theorem textFor?_eq_some_iff (h : source.countP (fun e => KeyPath.lower e.1 = f.key) ≤ 1)
    {s : String} :
    textFor? source f = some s ↔ ∃ e ∈ source, KeyPath.lower e.1 = f.key ∧ e.2 = .text s := by
  constructor
  · intro htext
    obtain ⟨e, he, hentry⟩ := List.exists_of_findSome?_eq_some htext
    exact ⟨e, he, entryText?_eq_some_iff.mp hentry⟩
  · rintro ⟨e, he, hentry⟩
    have hsome : (textFor? source f).isSome = true :=
      List.findSome?_isSome_iff.mpr ⟨e, he, by rw [entryText?_eq_some_iff.mpr hentry]; rfl⟩
    obtain ⟨s', hs'⟩ := Option.isSome_iff_exists.mp hsome
    obtain ⟨d, hd, hdentry⟩ := List.exists_of_findSome?_eq_some hs'
    obtain ⟨hdkey, hdtext⟩ := entryText?_eq_some_iff.mp hdentry
    cases eq_of_lower h hd he hdkey hentry.1
    rw [hs', Tree.text.inj (hdtext.symm.trans hentry.2)]

/-- A source of the same entries, but for the order of those in their tables. -/
theorem IsPlain.of_entries (h : IsPlain room source)
    (hmem : ∀ e ∈ source', ∃ d ∈ source, d.1 = e.1 ∧ ∀ s, d.2 = .text s → e.2 = .text s)
    (honce : ∀ f : Field, source'.countP (fun e => KeyPath.lower e.1 = f.key) ≤
      source.countP fun e => KeyPath.lower e.1 = f.key) : IsPlain room source' where
  plain e he f hroot := by
    obtain ⟨d, hd, hkey, htext⟩ := hmem e he
    rw [← hkey] at hroot ⊢
    obtain ⟨hlower, s, hs⟩ := h.plain d hd f hroot
    exact ⟨hlower, s, htext s hs⟩
  once f := (honce f).trans (h.once f)
  counted e he := by
    obtain ⟨d, hd, hkey, -⟩ := hmem e he
    exact hkey ▸ h.counted d hd

theorem arranged_text (rank : List String → String → Nat) (above : List String) (s : String) :
    (Tree.text s).arranged rank above = .text s := by
  rw [Tree.arranged]
  exact nofun

theorem IsPlain.arrangedAll (h : IsPlain room source) (rank : List String → String → Nat)
    (above : List String) : IsPlain room (Tree.arrangedAll rank above source) := by
  refine h.of_entries (fun e he => ?_) fun f => ?_
  · obtain ⟨d, hd, rfl⟩ := Tree.mem_arrangedAll.mp he
    refine ⟨d, hd, rfl, fun s hs => ?_⟩
    change d.2.arranged rank _ = _
    rw [hs, arranged_text]
  · rw [(Tree.arrangedAll_perm rank above source).countP_eq, List.countP_map]
    exact le_rfl

theorem textFor?_arrangedAll (h : IsPlain room source) (rank : List String → String → Nat)
    (above : List String) (f : Field) :
    textFor? (Tree.arrangedAll rank above source) f = textFor? source f := by
  apply Option.ext
  intro s
  rw [textFor?_eq_some_iff ((h.arrangedAll rank above).once f), textFor?_eq_some_iff (h.once f)]
  constructor
  · rintro ⟨e, he, hkey, htext⟩
    obtain ⟨d, hd, rfl⟩ := Tree.mem_arrangedAll.mp he
    obtain ⟨-, s', hs'⟩ := h.plain d hd f (root_eq_of_lower hkey)
    change d.2.arranged rank _ = _ at htext
    rw [hs', arranged_text] at htext
    exact ⟨d, hd, hkey, hs'.trans htext⟩
  · rintro ⟨d, hd, hkey, htext⟩
    refine ⟨_, Tree.mem_arrangedAll.mpr ⟨d, hd, rfl⟩, hkey, ?_⟩
    change d.2.arranged rank _ = _
    rw [htext, arranged_text]

theorem IsPlain.lastOfEach (h : IsPlain room source) : IsPlain room (Tree.lastOfEach source) :=
  h.of_entries (fun e he => ⟨e, (Tree.lastOfEach_sublist source).subset he, rfl, fun _ => id⟩)
    fun _ => (Tree.lastOfEach_sublist source).countP_le

/-- An entry with a parameter's name is the only one with its key. -/
theorem textFor?_lastOfEach (h : IsPlain room source) (f : Field) :
    textFor? (Tree.lastOfEach source) f = textFor? source f := by
  apply Option.ext
  intro s
  rw [textFor?_eq_some_iff (h.lastOfEach.once f), textFor?_eq_some_iff (h.once f)]
  have hsub : ∀ {e : String × Tree}, e ∈ Tree.lastOfEach source → e ∈ source :=
    fun he => (Tree.lastOfEach_sublist source).subset he
  constructor
  · rintro ⟨e, he, hentry⟩
    exact ⟨e, hsub he, hentry⟩
  · rintro ⟨e, he, hkey, htext⟩
    obtain ⟨d, hd, hsame⟩ := Tree.exists_mem_lastOfEach he
    have hde : d = e := eq_of_lower (h.once f) (hsub hd) he (hsame ▸ hkey) hkey
    exact ⟨e, hde ▸ hd, hkey, htext⟩

/-- A plain source decides the parameters that it gives and leaves the others alone. -/
theorem IsPlain.get?_addSource {root root' : List (String × Tree)} (h : IsPlain room source)
    (hadd : Tree.addSource room root source = .ok root') (f : Field) :
    Tree.get? f.key root' = ((textFor? source f).map Tree.text).or (Tree.get? f.key root) := by
  cases htext : textFor? source f with
  | some s =>
    obtain ⟨e, he, hkey, hs⟩ := (textFor?_eq_some_iff (h.once f)).mp htext
    obtain ⟨before, after, rfl⟩ := List.append_of_mem he
    refine Tree.get?_addSource_plain hadd (ofKey_of_lower hkey) hs fun e' he' hroot => ?_
    have hmem : e' ∈ before ++ e :: after :=
      List.mem_append_right _ (List.mem_cons_of_mem e he')
    have hkey' := (h.plain e' hmem f hroot).1
    have honce := h.once f
    rw [List.countP_append, List.countP_cons_of_pos (by simpa using hkey)] at honce
    have hpos : 0 < after.countP fun e => KeyPath.lower e.1 = f.key :=
      List.countP_pos_iff.mpr ⟨e', he', by simpa using hkey'⟩
    omega
  | none =>
    refine (Tree.get?_addSource_of_root_ne hadd fun e he hroot => ?_).trans (by simp)
    obtain ⟨hkey, s, hs⟩ := h.plain e he f hroot
    have hsome := (textFor?_eq_some_iff (h.once f)).mpr ⟨e, he, hkey, hs⟩
    rw [htext] at hsome
    cases hsome

end Entries

theorem lower_variable (f : Field) :
    KeyPath.lower f.variable = variablePrefix ++ f.key := by
  cases f <;> decide +kernel

theorem entryOfVariable?_eq_some_iff {name value : String} {e : String × Tree} :
    entryOfVariable? name value = some e ↔
      KeyPath.lower name = variablePrefix ++ e.1 ∧ e.2 = .text value := by
  obtain ⟨key, t⟩ := e
  have hname : KeyPath.lower name = variablePrefix ++ key ↔
      (KeyPath.lower name).toList = variablePrefix.toList ++ key.toList := by
    rw [← String.toList_inj, String.toList_append]
  unfold entryOfVariable?
  simp only [hname]
  constructor
  · intro h
    split at h
    next hfront =>
      obtain ⟨rest, hrest⟩ := List.isPrefixOf_iff_prefix.mp hfront
      simp only [Option.some.injEq, Prod.mk.injEq] at h
      obtain ⟨rfl, rfl⟩ := h
      rw [← hrest, String.length, List.drop_left, String.toList_ofList]
      exact ⟨rfl, rfl⟩
    · cases h
  · rintro ⟨hlist, rfl⟩
    rw [hlist, if_pos (List.isPrefixOf_iff_prefix.mpr (List.prefix_append ..)), String.length,
      List.drop_left, String.ofList_toList]

theorem lower_rest {name key : String} (h : KeyPath.lower name = variablePrefix ++ key) :
    KeyPath.lower key = key := by
  have hfixed := KeyPath.lower_lower name
  have hsplit : KeyPath.lower (variablePrefix ++ key) =
      KeyPath.lower variablePrefix ++ KeyPath.lower key := by
    simp [KeyPath.lower]
  have hfront : KeyPath.lower variablePrefix = variablePrefix := by decide
  rw [h, hsplit, hfront] at hfixed
  exact (String.append_right_inj _).mp hfixed

theorem entryText?_entryOfVariable? (f : Field) (name value : String) :
    (entryOfVariable? name value).bind (entryText? f) =
      if KeyPath.lower name = KeyPath.lower f.variable then some value else none := by
  rw [lower_variable]
  cases h : entryOfVariable? name value with
  | none =>
    have hne : KeyPath.lower name ≠ variablePrefix ++ f.key := by
      intro hname
      have hsome : entryOfVariable? name value = some (f.key, .text value) :=
        entryOfVariable?_eq_some_iff.mpr ⟨hname, rfl⟩
      simp [h] at hsome
    rw [if_neg hne]
    rfl
  | some e =>
    obtain ⟨key, t⟩ := e
    obtain ⟨hname, ht⟩ := entryOfVariable?_eq_some_iff.mp h
    simp only at hname ht
    subst ht
    have hsame : KeyPath.lower name = variablePrefix ++ f.key ↔ KeyPath.lower key = f.key := by
      rw [hname, lower_rest hname, String.append_right_inj]
    simp [entryText?, hsame]

theorem textFor?_variableEntries (bindings : List (String × String)) (f : Field) :
    textFor? (variableEntries bindings) f = variableText? bindings f := by
  induction bindings with
  | nil => rfl
  | cons v rest ih =>
    obtain ⟨name, value⟩ := v
    have hrest : variableText? ((name, value) :: rest) f =
        (if KeyPath.lower name = KeyPath.lower f.variable then some value else none).or
          (variableText? rest f) := by
      unfold variableText?
      rw [List.find?_cons]
      split <;> simp_all
    rw [hrest, ← entryText?_entryOfVariable?, ← ih]
    cases h : entryOfVariable? name value with
    | none => simp [variableEntries, h]
    | some e =>
      have hentries : variableEntries ((name, value) :: rest) = e :: variableEntries rest := by
        simp [variableEntries, h]
      rw [hentries, textFor?_cons]
      rfl

theorem readField_of_text {root : List (String × Tree)} {f : Field} {v : Option String}
    (h : Tree.get? f.key root = v.map Tree.text) : readField root f = .ok v := by
  rw [readField, h]
  cases v <;> rfl

theorem ofTree_of_readField {root : List (String × Tree)} {value : Field → Option String}
    (h : ∀ f, readField root f = .ok (value f)) : ofTree root = .ok (.ofFields value) := by
  simp only [ofTree, h]
  rfl

theorem merged_eq_ok_iff {file environment root : List (String × Tree)} {r : Reading} :
    merged file environment r = .ok root ↔ r.legible = true ∧ ∃ below,
      Tree.addSource r.room [] (Tree.arrangedAll r.fileRank [] file) = .ok below ∧
      Tree.addSource r.room below
        (Tree.arrangedAll (fun _ => r.variableRank) [] (Tree.lastOfEach environment)) =
        .ok root := by
  constructor
  · intro h
    obtain ⟨below, hbelow, h⟩ := exists_of_bind_ok h
    split at h
    next hlegible => exact ⟨hlegible, below, hbelow, h⟩
    · cases h
  · rintro ⟨hlegible, below, hbelow, h⟩
    rw [merged, hbelow, ok_bind, if_pos hlegible]
    exact h

/-- Plain layers: the environment decides what it gives, and the file decides the rest. -/
theorem build_plain {fs : FileSystem} {file : Option File} {bindings : List (String × String)}
    {entries : List (String × Tree)} {r : Reading} (hfile : fileEntries fs file = .ok entries)
    (hlegible : r.legible = true) (hentries : IsPlain r.room entries)
    (hvariables : IsPlain r.room (variableEntries bindings)) :
    build fs file bindings r =
      .ok (.ofFields fun f => (variableText? bindings f).or (textFor? entries f)) := by
  have hfirst := hentries.arrangedAll r.fileRank []
  have hlast := hvariables.lastOfEach.arrangedAll (fun _ => r.variableRank) []
  obtain ⟨below, hbelow⟩ := Tree.exists_addSource hfirst.counted []
  obtain ⟨root, hroot⟩ := Tree.exists_addSource hlast.counted below
  have hmerged := merged_eq_ok_iff.mpr ⟨hlegible, below, hbelow, hroot⟩
  rw [build, hfile, ok_bind, ofSources, hmerged]
  apply ofTree_of_readField
  intro f
  apply readField_of_text
  rw [hlast.get?_addSource hroot, hfirst.get?_addSource hbelow,
    textFor?_arrangedAll hvariables.lastOfEach, textFor?_lastOfEach hvariables,
    textFor?_arrangedAll hentries, textFor?_variableEntries, Option.map_or]
  simp [Tree.get?]

end Settings

end AgentLaunch
