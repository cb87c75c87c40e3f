import Mathlib.Data.List.DropRight
import AgentLaunch.Proofs.Validity

/-!
# The first blank field

What validation finds, told by the characters of the fields: a field is blank when each of its
characters is white space, and the first blank field is the one that is named. White space at the
ends of a field does not matter.
-/

namespace AgentLaunch

namespace Text

/-- The property White_Space, by the ranges in which the character database lists it. -/
def WhiteSpace (c : Char) : Prop :=
  (0x9 ≤ c.toNat ∧ c.toNat ≤ 0xD) ∨ c.toNat = 0x20 ∨ c.toNat = 0x85 ∨ c.toNat = 0xA0 ∨
    c.toNat = 0x1680 ∨ (0x2000 ≤ c.toNat ∧ c.toNat ≤ 0x200A) ∨
    (0x2028 ≤ c.toNat ∧ c.toNat ≤ 0x2029) ∨ c.toNat = 0x202F ∨ c.toNat = 0x205F ∨ c.toNat = 0x3000

/-- Nothing but white space. -/
def IsWhite (s : String) : Prop :=
  ∀ c ∈ s.toList, WhiteSpace c

/-- Two texts that are the same but for white space at their ends. -/
def SameWithin (s t : String) : Prop :=
  ∃ core left right left' right' : String, s = left ++ core ++ right ∧
    t = left' ++ core ++ right' ∧ ∀ pad ∈ [left, right, left', right'], IsWhite pad

section White

variable {c : Char} {s t : String} {cs : List Char}

theorem isWhiteSpace_iff : isWhiteSpace c = true ↔ WhiteSpace c := by
  simp only [isWhiteSpace, whiteSpaceCodes, List.contains_cons, List.contains_nil, Bool.or_eq_true,
    beq_iff_eq, WhiteSpace, Bool.false_eq_true, or_false]
  omega

instance (c : Char) : Decidable (WhiteSpace c) :=
  decidable_of_iff _ isWhiteSpace_iff

theorem isBlank_iff : isBlank s = true ↔ IsWhite s := by
  simp only [isBlank, List.all_eq_true, isWhiteSpace_iff, IsWhite]

instance (s : String) : Decidable (IsWhite s) :=
  decidable_of_iff _ isBlank_iff

theorem isBlank_eq_false_iff : isBlank s = false ↔ ∃ c ∈ s.toList, ¬ WhiteSpace c := by
  rw [← Bool.not_eq_true, isBlank_iff]
  simp [IsWhite]

/-- Trimming cuts a text into its middle and two ends of white space. -/
theorem exists_trim (cs : List Char) : ∃ left right, cs = left ++ trim cs ++ right ∧
    (∀ c ∈ left, isWhiteSpace c = true) ∧ ∀ c ∈ right, isWhiteSpace c = true := by
  have htrim : trim cs = (cs.dropWhile isWhiteSpace).rdropWhile isWhiteSpace := rfl
  refine ⟨cs.takeWhile isWhiteSpace, (cs.dropWhile isWhiteSpace).rtakeWhile isWhiteSpace,
    ?_, ?_, ?_⟩
  · rw [htrim, List.append_assoc, List.rdropWhile_append_rtakeWhile,
      List.takeWhile_append_dropWhile]
  · intro c hc
    exact List.mem_takeWhile_imp hc
  · intro c hc
    exact List.mem_rtakeWhile_imp hc

/-- A text is blank just when trimming leaves nothing of it. -/
theorem isBlank_iff_trim : isBlank s = true ↔ trim s.toList = [] := by
  constructor
  · intro h
    have hnone : s.toList.dropWhile isWhiteSpace = [] :=
      List.dropWhile_eq_nil_iff.mpr (List.all_eq_true.mp h)
    rw [trim, hnone]
    rfl
  · intro h
    obtain ⟨left, right, hs, hleft, hright⟩ := exists_trim s.toList
    rw [isBlank, hs, h, List.append_nil, List.all_append, List.all_eq_true.mpr hleft,
      List.all_eq_true.mpr hright]
    rfl

theorem sameWithin_trim (s : String) : SameWithin s (String.ofList (trim s.toList)) := by
  obtain ⟨left, right, hs, hleft, hright⟩ := exists_trim s.toList
  have hwhite : ∀ cs : List Char, (∀ c ∈ cs, isWhiteSpace c = true) →
      IsWhite (String.ofList cs) := by
    intro cs hcs c hc
    rw [String.toList_ofList] at hc
    exact isWhiteSpace_iff.mp (hcs c hc)
  refine ⟨String.ofList (trim s.toList), String.ofList left, String.ofList right, "", "", ?_,
    by simp, ?_⟩
  · rw [← String.toList_inj]
    simpa using hs
  · simpa using ⟨hwhite left hleft, hwhite right hright, nofun⟩

theorem isBlank_padded {left core right : String} (hleft : IsWhite left) (hright : IsWhite right) :
    isBlank (left ++ core ++ right) = isBlank core := by
  rw [isBlank_append, isBlank_append, isBlank_iff.mpr hleft, isBlank_iff.mpr hright, Bool.true_and,
    Bool.and_true]

theorem SameWithin.isBlank_eq (h : SameWithin s t) : isBlank s = isBlank t := by
  obtain ⟨core, left, right, left', right', rfl, rfl, hpads⟩ := h
  rw [isBlank_padded (hpads left (by simp)) (hpads right (by simp)),
    isBlank_padded (hpads left' (by simp)) (hpads right' (by simp))]

end White

end Text

namespace Spec

open Text (WhiteSpace IsWhite SameWithin)

/-- The fields by their names, in the order in which they are checked. -/
def entries (s : Spec) : List (String × String) :=
  [("install_root", s.installRoot), ("version", s.version),
    ("config_file_name", s.configFileName), ("agent_name", s.agentName),
    ("run_as_user", s.runAsUser)]

/-- What validation of a spec comes to. -/
inductive Judged (s : Spec) : Except Invalid Spec → Prop where
  | valid (full : ∀ e ∈ s.entries, ∃ c ∈ e.2.toList, ¬ WhiteSpace c) : Judged s (.ok s)
  | invalid {before after : List (String × String)} {name value : String}
      (entries_eq : s.entries = before ++ (name, value) :: after) (white : IsWhite value)
      (full : ∀ e ∈ before, ∃ c ∈ e.2.toList, ¬ WhiteSpace c) : Judged s (.error ⟨name⟩)

section Judged

variable {s t : Spec} {result : Except Invalid Spec}

theorem entries_eq_map (s : Spec) : s.entries = Field.all.map fun f => (f.key, s.get f) := rfl

theorem find?_entries (s : Spec) : (s.entries.find? fun e => Text.isBlank e.2) =
    s.firstBlank?.map fun f => (f.key, s.get f) := by
  rw [entries_eq_map, List.find?_map]
  rfl

theorem firstBlank?_eq_none_iff_full :
    s.firstBlank? = none ↔ ∀ e ∈ s.entries, ∃ c ∈ e.2.toList, ¬ WhiteSpace c := by
  rw [← Option.map_eq_none_iff, ← find?_entries, List.find?_eq_none]
  simp only [Bool.not_eq_true, Text.isBlank_eq_false_iff]

theorem map_firstBlank?_eq_some_iff {name value : String} :
    s.firstBlank?.map (fun f => (f.key, s.get f)) = some (name, value) ↔
      IsWhite value ∧ ∃ before after, s.entries = before ++ (name, value) :: after ∧
        ∀ e ∈ before, ∃ c ∈ e.2.toList, ¬ WhiteSpace c := by
  rw [← find?_entries, List.find?_eq_some_iff_append]
  simp only [Bool.not_eq_true', Text.isBlank_iff, Text.isBlank_eq_false_iff]

theorem judged_validate (s : Spec) : Judged s s.validate := by
  rw [validate]
  cases hfirst : s.firstBlank? with
  | none => exact .valid (firstBlank?_eq_none_iff_full.mp hfirst)
  | some f =>
    have hmap : s.firstBlank?.map (fun f => (f.key, s.get f)) = some (f.key, s.get f) := by
      rw [hfirst]
      rfl
    obtain ⟨white, before, after, hentries, full⟩ := map_firstBlank?_eq_some_iff.mp hmap
    exact .invalid hentries white full

theorem Judged.validate_eq (h : Judged s result) : s.validate = result := by
  rw [validate]
  cases h with
  | valid full => rw [firstBlank?_eq_none_iff_full.mpr full]
  | invalid entries_eq white full =>
    have hmap := map_firstBlank?_eq_some_iff.mpr ⟨white, _, _, entries_eq, full⟩
    obtain ⟨f, hfirst, hf⟩ := Option.map_eq_some_iff.mp hmap
    cases hf
    rw [hfirst]

theorem validate_eq_ok_iff : s.validate = .ok s ↔ ∀ f, ∃ c ∈ (s.get f).toList, ¬ WhiteSpace c := by
  constructor
  · intro h
    have hjudged := judged_validate s
    rw [h] at hjudged
    cases hjudged with
    | valid full =>
      intro f
      rw [entries_eq_map, List.forall_mem_map] at full
      exact full f f.mem_all
  · intro h
    apply validate_of_not_blank
    intro f
    rw [IsBlankAt, Bool.not_eq_true, Text.isBlank_eq_false_iff]
    exact h f

/-- Only which fields are blank matters to the outcome. -/
theorem outcome_congr (h : ∀ f, Text.isBlank (s.get f) = Text.isBlank (t.get f)) :
    s.validate.map (fun _ => ()) = t.validate.map fun _ => () := by
  have hfirst : s.firstBlank? = t.firstBlank? := by
    simp only [firstBlank?, h]
  rw [validate, validate, hfirst]
  cases t.firstBlank? with
  | none => rfl
  | some f => rfl

end Judged

/-- Validation accepts the specs without a blank field and otherwise names the first blank one, of
which trimming leaves nothing. White space at the ends of the fields changes nothing of that. -/
theorem first_blank_named (s : Spec) :
    (∀ result, s.validate = result ↔ Judged s result) ∧
    (s.validate = .ok s ↔ ∀ f, ∃ c ∈ (s.get f).toList, ¬ WhiteSpace c) ∧
    (∀ f, IsWhite (s.get f) ↔ Text.trim (s.get f).toList = []) ∧
    ∀ t : Spec, (∀ f, SameWithin (s.get f) (t.get f)) →
      s.validate.map (fun _ => ()) = t.validate.map fun _ => () := by
  refine ⟨?_, validate_eq_ok_iff, ?_, ?_⟩
  · intro result
    constructor
    · rintro rfl
      exact judged_validate s
    · exact Judged.validate_eq
  · intro f
    rw [← Text.isBlank_iff, Text.isBlank_iff_trim]
  · intro t h
    exact outcome_congr fun f => (h f).isBlank_eq

/-- Of two blank fields the first one is named, whatever white space makes it blank, and white space
around the others does not change that. -/
theorem first_blank_named_padded :
    let s : Spec := ⟨"/opt", "1", "\u3000", "", "root"⟩
    let t : Spec := ⟨"\u00a0/opt\u2003", "1\n", "", "\t", " root"⟩
    (∀ f, SameWithin (s.get f) (t.get f)) ∧
      s.validate.map (fun _ => ()) = .error ⟨"config_file_name"⟩ ∧
      t.validate.map (fun _ => ()) = .error ⟨"config_file_name"⟩ := by
  intro s t
  have hsame : ∀ f, SameWithin (s.get f) (t.get f) := by
    intro f
    cases f with
    | installRoot => exact ⟨"/opt", "", "", "\u00a0", "\u2003", by decide⟩
    | version => exact ⟨"1", "", "", "", "\n", by decide⟩
    | configFileName => exact ⟨"", "\u3000", "", "", "", by decide⟩
    | agentName => exact ⟨"", "", "", "\t", "", by decide⟩
    | runAsUser => exact ⟨"root", "", "", " ", "", by decide⟩
  have houtcome : s.validate.map (fun _ => ()) = .error ⟨"config_file_name"⟩ := by
    decide +kernel
  refine ⟨hsame, houtcome, ?_⟩
  rw [← (first_blank_named s).2.2.2 t hsame, houtcome]

end Spec

end AgentLaunch
