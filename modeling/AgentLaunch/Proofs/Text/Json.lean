import AgentLaunch.Text.Json

/-!
# Reading back what was written

A list of texts written as a JSON array is read back as the same list. What is written holds no
control character, whatever the texts hold.
-/

namespace AgentLaunch.Text.Json

theorem hexValue?_hexDigit {n : Nat} (h : n < 16) : hexValue? (hexDigit n) = some n := by
  have hall : ∀ m : Fin 16, hexValue? (hexDigit m.val) = some m.val := by decide
  exact hall ⟨n, h⟩

theorem char?_toNat (c : Char) : char? c.toNat = some c := by
  have h : c.toNat.isValidChar := c.valid
  unfold char?
  rw [dif_pos h]
  rfl

theorem texts_quote (r : List Char) : texts ('"' :: r) = (more r).map ([] :: ·) := by
  rw [texts]

/-- A character that is written as a code unit. -/
theorem texts_unit {c : Char} (h : c.toNat < 0x20) (r : List Char) :
    texts ('\\' :: 'u' :: '0' :: '0' :: hexDigit (c.toNat / 16) :: hexDigit (c.toNat % 16) :: r) =
      (texts r).map (prependChar c) := by
  have hhigh : hexValue? (hexDigit (c.toNat / 16)) = some (c.toNat / 16) :=
    hexValue?_hexDigit (by omega)
  have hlow : hexValue? (hexDigit (c.toNat % 16)) = some (c.toNat % 16) :=
    hexValue?_hexDigit (by omega)
  have hzero : hexValue? '0' = some 0 := by decide
  have hunit : unit? '0' '0' (hexDigit (c.toNat / 16)) (hexDigit (c.toNat % 16)) =
      some c.toNat := by
    simp only [unit?, hzero, hhigh, hlow]
    change some (0 * 4096 + 0 * 256 + c.toNat / 16 * 16 + c.toNat % 16) = some c.toNat
    congr 1
    omega
  rw [texts, hunit]
  simp [char?_toNat]

theorem texts_plain {c : Char} (hquote : c ≠ '"') (hback : c ≠ '\\') (h : ¬ c.toNat < 0x20)
    (r : List Char) : texts (c :: r) = (texts r).map (prependChar c) := by
  have hkeep : ¬ (c.toNat < 0x20 ∨ c = '\\') := by simp [h, hback]
  rw [texts.eq_def]
  split
  next => contradiction
  next heq => exact absurd (List.cons.inj heq).1 hquote
  next heq => exact absurd (List.cons.inj heq).1 hback
  next heq => exact absurd (List.cons.inj heq).1 hback
  next heq =>
    obtain ⟨rfl, rfl⟩ := List.cons.inj heq
    rw [if_neg hkeep]

/-- What one character was written as is read as that character. -/
theorem texts_escape (c : Char) (r : List Char) :
    texts (escape c ++ r) = (texts r).map (prependChar c) := by
  unfold escape
  split
  · simp [texts, simpleEscape?]
  · simp [texts, simpleEscape?]
  · simp [texts, simpleEscape?]
  · simp [texts, simpleEscape?]
  · simp [texts, simpleEscape?]
  next hquote hback _ _ _ =>
    split
    next hb =>
      subst hb
      simp [texts, simpleEscape?]
    · split
      next hf =>
        subst hf
        simp [texts, simpleEscape?]
      · split
        next hunit => exact texts_unit hunit r
        next hplain => exact texts_plain hquote hback hplain r

theorem texts_flatMap_escape (s r : List Char) :
    texts (s.flatMap escape ++ '"' :: r) = (more r).map (s :: ·) := by
  induction s with
  | nil => exact texts_quote r
  | cons c s ih =>
    rw [List.flatMap_cons, List.append_assoc, texts_escape, ih, Option.map_map]
    rfl

theorem encodeChars_append (s r : List Char) :
    encodeChars s ++ r = '"' :: (s.flatMap escape ++ '"' :: r) := by
  simp [encodeChars]

theorem more_encoded (xs : List (List Char)) :
    more ((xs.flatMap fun s => ',' :: encodeChars s) ++ [']']) = some xs := by
  induction xs with
  | nil => rw [List.flatMap_nil, List.nil_append, more]
  | cons s xs ih =>
    rw [List.flatMap_cons, List.append_assoc, List.cons_append, encodeChars_append, more,
      texts_flatMap_escape, ih]
    rfl

theorem intercalate_cons (s : List Char) (xs : List (List Char)) :
    List.intercalate [','] ((s :: xs).map encodeChars) =
      encodeChars s ++ xs.flatMap fun s => ',' :: encodeChars s := by
  induction xs generalizing s with
  | nil => simp
  | cons t xs ih =>
    rw [List.map_cons, List.map_cons, List.intercalate_cons_cons, ← List.map_cons, ih]
    simp

theorem toList_encodeList_cons (x : String) (xs : List String) :
    (encodeList (x :: xs)).toList =
      '[' :: (encodeChars x.toList ++
        (((xs.map String.toList).flatMap fun s => ',' :: encodeChars s) ++ [']'])) := by
  have hmap : (x :: xs).map (fun x => encodeChars x.toList) =
      (x.toList :: xs.map String.toList).map encodeChars := by simp
  rw [encodeList, String.toList_ofList, hmap, intercalate_cons, List.cons_append,
    List.append_assoc]

/-- Reading gives back the list that was written. -/
theorem decodeList_encodeList (xs : List String) : decodeList (encodeList xs) = some xs := by
  cases xs with
  | nil => rfl
  | cons x xs =>
    have hback : ((x.toList :: xs.map String.toList).map String.ofList) = x :: xs := by simp
    rw [decodeList, toList_encodeList_cons, encodeChars_append]
    change (texts _).map _ = _
    rw [texts_flatMap_escape, more_encoded, Option.map_some, Option.map_some, hback]

theorem le_toNat_hexDigit {n : Nat} (h : n < 16) : 0x20 ≤ (hexDigit n).toNat := by
  have hall : ∀ m : Fin 16, 0x20 ≤ (hexDigit m.val).toNat := by decide
  exact hall ⟨n, h⟩

theorem le_toNat_of_mem_escape (c : Char) : ∀ d ∈ escape c, 0x20 ≤ d.toNat := by
  unfold escape
  split
  · simp
  · simp
  · simp
  · simp
  · simp
  · split
    · simp
    · split
      · simp
      · split
        next hcontrol =>
          have hhigh : 0x20 ≤ (hexDigit (c.toNat / 16)).toNat := le_toNat_hexDigit (by omega)
          have hlow : 0x20 ≤ (hexDigit (c.toNat % 16)).toNat := le_toNat_hexDigit (by omega)
          simp [hhigh, hlow]
        next hplain => simpa using hplain

theorem le_toNat_of_mem_encodeChars (s : List Char) : ∀ c ∈ encodeChars s, 0x20 ≤ c.toNat := by
  intro c hc
  simp only [encodeChars, List.cons_append, List.mem_cons, List.mem_append, List.mem_flatMap,
    List.not_mem_nil, or_false] at hc
  obtain rfl | ⟨d, -, hd⟩ | rfl := hc
  · decide
  · exact le_toNat_of_mem_escape d c hd
  · decide

/-- What is written holds no control character. -/
theorem le_toNat_of_mem_encodeList (xs : List String) :
    ∀ c ∈ (encodeList xs).toList, 0x20 ≤ c.toNat := by
  cases xs with
  | nil =>
    have hempty : (encodeList []).toList = ['[', ']'] := rfl
    simp [hempty]
  | cons x xs =>
    intro c hc
    rw [toList_encodeList_cons] at hc
    simp only [List.mem_cons, List.mem_append, List.mem_flatMap, List.not_mem_nil, or_false] at hc
    obtain rfl | hc | ⟨s, -, rfl | hc⟩ | rfl := hc
    · decide
    · exact le_toNat_of_mem_encodeChars _ c hc
    · decide
    · exact le_toNat_of_mem_encodeChars s c hc
    · decide

end AgentLaunch.Text.Json
