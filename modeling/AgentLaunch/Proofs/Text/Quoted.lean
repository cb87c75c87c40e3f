import Mathlib
import AgentLaunch.Text.Json
import AgentLaunch.Text.Quoted

/-!
# What quoted texts say

A list of texts in quotes tells its texts apart: what was written for a character can be read as
that character alone, and what was written for a text ends with the only quote that is not escaped.
A text in which nothing is escaped stands between its quotes as it is.
-/

namespace AgentLaunch.Text.Quoted

/-- Reads hexadecimal digits up to the closing brace. -/
def readCode? (n : Nat) : List Char → Option (Nat × List Char)
  | [] => none
  | c :: r =>
    if c = '\x7d' then some (n, r)
    else (Json.hexValue? c).bind fun d => readCode? (16 * n + d) r

/-- The character that is written as this letter behind a backslash. -/
def letter? : Char → Option Char
  | '0' => some '\x00'
  | 't' => some '\t'
  | 'r' => some '\r'
  | 'n' => some '\n'
  | '"' => some '"'
  | '\\' => some '\\'
  | _ => none

/-- Reads the first character of what is written inside quotes, and what follows it. -/
def readChar? : List Char → Option (Char × List Char)
  | [] => none
  | '"' :: _ => none
  | '\\' :: 'u' :: '\x7b' :: r => do
    let (n, r) ← readCode? 0 r
    return (← Json.char? n, r)
  | '\\' :: c :: r => (letter? c).map fun c => (c, r)
  | c :: r => some (c, r)

theorem length_readCode? {n m : Nat} {w r : List Char} (h : readCode? n w = some (m, r)) :
    r.length < w.length := by
  induction w generalizing n with
  | nil => cases h
  | cons c w ih =>
    rw [readCode?] at h
    split at h
    next =>
      obtain ⟨-, rfl⟩ := Prod.mk.inj (Option.some.inj h)
      exact Nat.lt_succ_self _
    next =>
      obtain ⟨d, -, hd⟩ := Option.bind_eq_some_iff.mp h
      exact Nat.lt_succ_of_lt (ih hd)

theorem length_readChar? {w r : List Char} {c : Char} (h : readChar? w = some (c, r)) :
    r.length < w.length := by
  rw [readChar?.eq_def] at h
  split at h
  next => cases h
  next => cases h
  next w =>
    obtain ⟨⟨n, r'⟩, hcode, h⟩ := Option.bind_eq_some_iff.mp h
    obtain ⟨d, -, h⟩ := Option.bind_eq_some_iff.mp h
    obtain ⟨-, rfl⟩ := Prod.mk.inj (Option.some.inj h)
    have hlt := length_readCode? hcode
    simp only [List.length_cons]
    omega
  next =>
    obtain ⟨d, -, h⟩ := Option.map_eq_some_iff.mp h
    obtain ⟨-, rfl⟩ := Prod.mk.inj h
    simp only [List.length_cons]
    omega
  next =>
    obtain ⟨-, rfl⟩ := Prod.mk.inj (Option.some.inj h)
    exact Nat.lt_succ_self _

/-- Reads a text up to the quote that ends it, and what follows it. -/
def readText? (w : List Char) : Option (List Char × List Char) :=
  match _ : readChar? w with
  | some (c, r) => (readText? r).map fun (s, r) => (c :: s, r)
  | none => if w.head? = some '"' then some ([], w.tail) else none
termination_by w.length
decreasing_by exact length_readChar? ‹_›

theorem length_readText? {w r s : List Char} (h : readText? w = some (s, r)) :
    r.length < w.length := by
  induction w using readText?.induct generalizing s r with
  | case1 w c w' hchar ih =>
    rw [readText?, hchar] at h
    obtain ⟨⟨s', r'⟩, hrest, h⟩ := Option.map_eq_some_iff.mp h
    obtain ⟨-, rfl⟩ := Prod.mk.inj h
    exact Nat.lt_trans (ih hrest) (length_readChar? hchar)
  | case2 w hchar hquote =>
    rw [readText?, hchar] at h
    dsimp only at h
    rw [if_pos hquote] at h
    obtain ⟨-, rfl⟩ := Prod.mk.inj (Option.some.inj h)
    cases w with
    | nil => cases hquote
    | cons c w => exact Nat.lt_succ_self _
  | case3 w hchar hquote =>
    rw [readText?, hchar] at h
    dsimp only at h
    rw [if_neg hquote] at h
    cases h

/-- Reads quoted texts with commas between them, up to the closing bracket. -/
def readItems? (w : List Char) : Option (List String) :=
  match w with
  | '"' :: w =>
    match _ : readText? w with
    | some (s, [']']) => some [String.ofList s]
    | some (s, ',' :: ' ' :: r) => (readItems? r).map (String.ofList s :: ·)
    | _ => none
  | _ => none
termination_by w.length
decreasing_by
  have hlt := length_readText? ‹_›
  simp only [List.length_cons] at hlt ⊢
  omega

/-- Reads a list of quoted texts in brackets. -/
def readList? (t : String) : Option (List String) :=
  match t.toList with
  | ['[', ']'] => some []
  | '[' :: w => readItems? w
  | _ => none

section Read

variable {c : Char} {r : List Char}

theorem hexValue?_digitChar {d : Nat} (h : d < 16) : Json.hexValue? d.digitChar = some d := by
  have hall : ∀ d : Fin 16, Json.hexValue? d.val.digitChar = some d.val := by decide
  exact hall ⟨d, h⟩

theorem digitChar_ne_brace {d : Nat} (h : d < 16) : d.digitChar ≠ '\x7d' := by
  have hall : ∀ d : Fin 16, d.val.digitChar ≠ '\x7d' := by decide
  exact hall ⟨d, h⟩

theorem readCode?_digit {d : Nat} (h : d < 16) (n : Nat) (r : List Char) :
    readCode? n (d.digitChar :: r) = readCode? (16 * n + d) r := by
  rw [readCode?, if_neg (digitChar_ne_brace h), hexValue?_digitChar h, Option.bind_some]

/-- Digits are read as the number that they were written for. -/
theorem readCode?_toDigits (n : Nat) (r : List Char) :
    readCode? 0 (Nat.toDigits 16 n ++ r) = readCode? n r := by
  induction n using Nat.strongRecOn generalizing r with
  | ind n ih =>
    rw [Nat.toDigits_eq_if (by decide)]
    split
    next hsmall =>
      rw [List.singleton_append, readCode?_digit hsmall, Nat.mul_zero, Nat.zero_add]
    next hlarge =>
      rw [List.append_assoc, List.singleton_append, ih (n / 16) (by omega),
        readCode?_digit (Nat.mod_lt n (by decide)), Nat.div_add_mod]

theorem readChar?_codePoint (c : Char) (r : List Char) :
    readChar? (codePoint c ++ r) = some (c, r) := by
  have hcode : readCode? 0 (Nat.toDigits 16 c.toNat ++ '\x7d' :: r) = some (c.toNat, r) := by
    rw [readCode?_toDigits, readCode?, if_pos rfl]
  have hchar : Json.char? c.toNat = some c := by
    have hvalid : c.toNat.isValidChar := c.valid
    unfold Json.char?
    rw [dif_pos hvalid]
    rfl
  rw [codePoint, List.append_assoc, List.append_assoc, List.singleton_append]
  simp only [List.cons_append, List.nil_append, readChar?, hcode, Option.bind_eq_bind,
    Option.bind_some, hchar]
  rfl

theorem readChar?_plain (hquote : c ≠ '"') (hback : c ≠ '\\') (r : List Char) :
    readChar? (c :: r) = some (c, r) := by
  rw [readChar?.eq_def]
  split
  next => contradiction
  next heq => exact absurd (List.cons.inj heq).1 hquote
  next heq => exact absurd (List.cons.inj heq).1 hback
  next heq => exact absurd (List.cons.inj heq).1 hback
  next heq =>
    obtain ⟨rfl, rfl⟩ := List.cons.inj heq
    rfl

/-- What was written for a character is read as that character. -/
theorem readChar?_escape (c : Char) (r : List Char) : readChar? (escape c ++ r) = some (c, r) := by
  unfold escape
  split
  · rfl
  · rfl
  · rfl
  · rfl
  · rfl
  · rfl
  next _ _ _ _ hquote hback =>
    split
    · exact readChar?_codePoint c r
    · exact readChar?_plain hquote hback r

theorem readText?_quote (r : List Char) : readText? ('"' :: r) = some ([], r) := by
  rw [readText?]
  rfl

theorem readText?_flatMap_escape (s r : List Char) :
    readText? (s.flatMap escape ++ '"' :: r) = some (s, r) := by
  induction s with
  | nil => exact readText?_quote r
  | cons c s ih =>
    rw [List.flatMap_cons, List.append_assoc, readText?, readChar?_escape]
    dsimp only
    rw [ih]
    rfl

end Read

theorem toList_text_append (s : String) (r : List Char) :
    (text s).toList ++ r = '"' :: (s.toList.flatMap escape ++ '"' :: r) := by
  simp [text]

theorem readItems?_intercalate (x : String) (xs : List String) :
    readItems? ((String.intercalate ", " ((x :: xs).map text)).toList ++ [']']) =
      some (x :: xs) := by
  induction xs generalizing x with
  | nil =>
    rw [List.map_singleton, String.intercalate_singleton, toList_text_append, readItems?,
      readText?_flatMap_escape]
    simp
  | cons y ys ih =>
    rw [List.map_cons, List.map_cons, String.intercalate_cons_cons, ← List.map_cons,
      String.toList_append, String.toList_append, List.append_assoc, List.append_assoc,
      toList_text_append, readItems?, readText?_flatMap_escape]
    change (readItems? ((String.intercalate ", " ((y :: ys).map text)).toList ++ [']'])).map
      (String.ofList x.toList :: ·) = _
    rw [ih y, String.ofList_toList]
    rfl

/-- A list of texts reads back as it was written. -/
theorem readList?_list (xs : List String) : readList? (list xs) = some xs := by
  cases xs with
  | nil => rfl
  | cons x xs =>
    have hwritten : (list (x :: xs)).toList =
        '[' :: ((String.intercalate ", " ((x :: xs).map text)).toList ++ [']']) := by
      simp [list]
    have hitems := readItems?_intercalate x xs
    rw [readList?, hwritten]
    split
    next heq =>
      rw [(List.cons.inj heq).2, readItems?] at hitems
      · cases hitems
      · simp
    next heq =>
      obtain ⟨-, rfl⟩ := List.cons.inj heq
      exact hitems
    next hne => exact absurd rfl (hne _)

/-- A character that is written as it is. -/
def IsBare (c : Char) : Prop :=
  isPrintable c = true ∧ isGraphemeExtend c = false ∧ c ≠ '"' ∧ c ≠ '\\'

theorem escape_of_isBare {c : Char} (h : IsBare c) : escape c = [c] := by
  obtain ⟨hprint, hextend, hquote, hback⟩ := h
  have hcontrol (d : Char) (hd : isPrintable d = false) : c ≠ d := by
    rintro rfl
    rw [hprint] at hd
    cases hd
  unfold escape
  split
  · exact absurd rfl (hcontrol '\x00' (by decide))
  · exact absurd rfl (hcontrol '\t' (by decide))
  · exact absurd rfl (hcontrol '\r' (by decide))
  · exact absurd rfl (hcontrol '\n' (by decide))
  · exact absurd rfl hquote
  · exact absurd rfl hback
  · rw [hextend, hprint]
    rfl

theorem text_of_isBare {s : String} (h : ∀ c ∈ s.toList, IsBare c) :
    text s = "\"" ++ s ++ "\"" := by
  have hescape : s.toList.flatMap escape = s.toList := by
    rw [List.flatMap_congr fun c hc => escape_of_isBare (h c hc)]
    exact List.flatMap_singleton' s.toList
  rw [← String.toList_inj, text, hescape]
  simp

theorem list_of_isBare {xs : List String} (h : ∀ x ∈ xs, ∀ c ∈ x.toList, IsBare c) :
    list xs = "[" ++ String.intercalate ", " (xs.map fun x => "\"" ++ x ++ "\"") ++ "]" := by
  rw [list, List.map_congr_left fun x hx => text_of_isBare (h x hx)]

end AgentLaunch.Text.Quoted
