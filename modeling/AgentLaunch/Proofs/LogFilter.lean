import Mathlib
import AgentLaunch.LogFilter
import AgentLaunch.Proofs.Bind

/-!
# Torn log filters

A directive is cut where its parts would lie without the white space in front of it. With nothing in
front the cuts fall between characters, so that only white space in front of a directive tears a
filter. A text without a comma is one directive.
-/

namespace AgentLaunch.LogFilter

open String (utf8Len)

section Split

variable {c : Char}

/-- Nothing is cut off up to the end of a text in which the separator does not occur. -/
theorem splitOnAux_of_not_mem (l : List Char) {r : List Char} (h : c ∉ r) :
    (String.ofList (l ++ r)).splitOnAux (String.singleton c) 0 ⟨utf8Len l⟩ 0 [] =
      [String.ofList (l ++ r)] := by
  induction r generalizing l with
  | nil =>
    have hend := (String.atEnd_of_valid l []).mpr rfl
    have hextract := String.extract_of_valid [] l []
    rw [String.splitOnAux, if_pos hend]
    simpa using hextract
  | cons d r ih =>
    have hopen : String.Pos.Raw.atEnd (String.ofList (l ++ d :: r)) ⟨utf8Len l⟩ = false :=
      Bool.eq_false_iff.mpr (mt (String.atEnd_of_valid l (d :: r)).mp (List.cons_ne_nil d r))
    have hhere : String.Pos.Raw.get (String.ofList (l ++ d :: r)) ⟨utf8Len l⟩ = d :=
      String.get_of_valid l (d :: r)
    have hseparator : String.Pos.Raw.get (String.singleton c) 0 = c := String.get_of_valid [] [c]
    have hnext : String.Pos.Raw.next (String.ofList (l ++ d :: r)) ⟨utf8Len l⟩ =
        ⟨utf8Len l + d.utf8Size⟩ := String.next_of_valid l d r
    have hne : (d == c) = false := by
      rw [beq_eq_false_iff_ne]
      rintro rfl
      exact h List.mem_cons_self
    have hrest := ih (l ++ [d]) fun hc => h (List.mem_cons_of_mem _ hc)
    rw [String.splitOnAux, hopen, hhere, hseparator, hne]
    -- No part of a separator was met, so the next place is the one after this character.
    change String.splitOnAux _ _ 0 (String.Pos.Raw.next _ ⟨utf8Len l⟩) 0 [] = _
    rw [hnext]
    simpa [-String.ofList_append] using hrest

theorem splitOn_of_not_mem {s : String} (h : c ∉ s.toList) :
    s.splitOn (String.singleton c) = [s] := by
  have hsplit := splitOnAux_of_not_mem [] h
  have hseparator : (String.singleton c == "") = false := by simp
  rw [String.splitOn, hseparator]
  simpa using hsplit

end Split

theorem parse_of_single {s : String} (hsome : s ≠ "") (h : ',' ∉ s.toList) :
    parse s = (Directive.parse s.toList).map fun d => ⟨[d]⟩ := by
  have hparts : (s.splitOn ",").filter (· ≠ "") = [s] := by
    have hsplit : s.splitOn "," = [s] := splitOn_of_not_mem h
    rw [hsplit]
    simp [hsome]
  rw [parse, hparts]
  cases hdirective : Directive.parse s.toList with
  | error e => simp [hdirective]; rfl
  | ok d => simp [hdirective]; rfl

/-- A torn filter is none at all. -/
theorem ofEnvironment?_of_torn {env : Environment} {s : String}
    (hfilter : env.get? "RUST_LOG" = some s) (htorn : parse s = .error .torn) :
    ofEnvironment? env = none := by
  rw [ofEnvironment?, hfilter, Option.map_some, htorn]

section Whole

variable {α β : Type}

theorem malformed_ne_torn : (throw .malformed : Except Unreadable α) ≠ .error .torn := by
  intro h
  cases h

theorem ok_ne_torn (a : α) : (.ok a : Except Unreadable α) ≠ .error .torn := by
  intro h
  cases h

theorem ne_torn_of_bind {x : Except Unreadable α} {f : α → Except Unreadable β}
    (hx : x ≠ .error .torn) (hf : ∀ a, f a ≠ .error .torn) : (x >>= f) ≠ .error .torn := by
  intro h
  obtain h | ⟨a, -, h⟩ := exists_of_bind_error h
  · exact hx h
  · exact hf a h

end Whole

section Cuts

variable {written rest s tail piece : List Char} {start : Nat} {c : Char}

theorem byteSize_append (a b : List Char) : byteSize (a ++ b) = byteSize a + byteSize b := by
  have hfold : ∀ (n : Nat) (s : List Char),
      s.foldl (fun n c => n + c.utf8Size) n = n + byteSize s := by
    intro n s
    induction s generalizing n with
    | nil => rfl
    | cons c s ih =>
      have hcons : byteSize (c :: s) = 0 + c.utf8Size + byteSize s := ih (0 + c.utf8Size)
      rw [List.foldl_cons, ih, hcons]
      omega
  rw [byteSize, List.foldl_append, hfold]
  rfl

theorem byteSize_singleton (c : Char) : byteSize [c] = c.utf8Size := Nat.zero_add _

theorem byteSize_cons (c : Char) (s : List Char) :
    byteSize (c :: s) = c.utf8Size + byteSize s := by
  rw [← List.singleton_append, byteSize_append, byteSize_singleton]

theorem fromByte_append (a b : List Char) : fromByte (byteSize a) (a ++ b) = .ok b := by
  induction a with
  | nil =>
    have hempty : byteSize [] = 0 := rfl
    rw [hempty, List.nil_append, fromByte]
  | cons c a ih =>
    have hpos : c.utf8Size + byteSize a ≠ 0 := by
      have := c.utf8Size_pos
      omega
    rw [byteSize_cons, List.cons_append, fromByte, if_pos (Nat.le_add_right _ _),
      Nat.add_sub_cancel_left, ih]
    exact hpos

theorem firstBytes_append (a b : List Char) : firstBytes (byteSize a) (a ++ b) = .ok a := by
  induction a with
  | nil =>
    have hempty : byteSize [] = 0 := rfl
    rw [hempty, List.nil_append, firstBytes]
  | cons c a ih =>
    have hpos : c.utf8Size + byteSize a ≠ 0 := by
      have := c.utf8Size_pos
      omega
    rw [byteSize_cons, List.cons_append, firstBytes, if_pos (Nat.le_add_right _ _),
      Nat.add_sub_cancel_left, ih]
    · rfl
    · exact hpos

/-- At some byte one part of a text ends, and this rest of it begins. -/
def GoesOn (written : List Char) (start : Nat) (rest : List Char) : Prop :=
  ∃ front, written = front ++ rest ∧ start = byteSize front

theorem GoesOn.behind (h : GoesOn written start (piece ++ rest)) :
    GoesOn written (start + byteSize piece) rest := by
  obtain ⟨front, rfl, rfl⟩ := h
  exact ⟨front ++ piece, (List.append_assoc _ _ _).symm, (byteSize_append _ _).symm⟩

theorem GoesOn.next (h : GoesOn written start (c :: rest)) :
    GoesOn written (start + c.utf8Size) rest := by
  rw [← byteSize_singleton]
  exact GoesOn.behind h

theorem GoesOn.cut_eq (h : GoesOn written start (piece ++ rest)) :
    cut written start piece = .ok piece := by
  obtain ⟨front, rfl, rfl⟩ := h
  rw [cut, fromByte_append, ok_bind, firstBytes_append]

theorem thresholdFrom_ne_torn (h : GoesOn written start rest) :
    thresholdFrom written start ≠ .error .torn := by
  obtain ⟨front, rfl, rfl⟩ := h
  rw [thresholdFrom, fromByte_append, ok_bind]
  cases thresholdAfter? rest with
  | none => exact malformed_ne_torn
  | some t => exact ok_ne_torn t

theorem afterBracket_ne_torn (d : Directive) (h : GoesOn written start (s ++ tail)) :
    afterBracket written d start s ≠ .error .torn := by
  unfold afterBracket
  split
  · exact ok_ne_torn d
  next level => exact ne_torn_of_bind (thresholdFrom_ne_torn h.next) fun t => ok_ne_torn _
  · exact malformed_ne_torn

theorem addField_ne_torn (d : Directive) (s : List Char) : addField d s ≠ .error .torn := by
  unfold addField
  dsimp only
  split
  · exact malformed_ne_torn
  · exact ok_ne_torn _

theorem span_ne_torn (d : Directive) (h : GoesOn written start (s ++ tail)) :
    span written d start s ≠ .error .torn := by
  have hs := s.takeWhile_append_dropWhile (p := fun c => c ≠ ']' && c ≠ '\x7b')
  unfold span
  dsimp only
  generalize s.takeWhile (fun c => c ≠ ']' && c ≠ '\x7b') = name at hs ⊢
  split
  next rest hrest =>
    rw [← hs, hrest, List.append_assoc] at h
    rw [h.cut_eq, ok_bind]
    exact afterBracket_ne_torn _ h.behind.next
  next rest hrest =>
    rw [← hs, hrest, List.append_assoc] at h
    rw [h.cut_eq, ok_bind]
    have hinside : GoesOn written (start + byteSize name + 1) (rest ++ tail) := h.behind.next
    have hrest' := rest.takeWhile_append_dropWhile (p := fun c => c ≠ '\x7d')
    generalize rest.takeWhile (fun c => c ≠ '\x7d') = field at hrest' ⊢
    split
    next behind hbehind =>
      rw [← hrest', hbehind, List.append_assoc] at hinside
      rw [hinside.cut_eq, ok_bind]
      refine ne_torn_of_bind (addField_ne_torn _ _) fun d' => ?_
      split
      next rest'' => exact afterBracket_ne_torn _ hinside.behind.next.next
      · exact malformed_ne_torn
    · exact malformed_ne_torn
  · exact malformed_ne_torn

/-- A directive with no white space in front is cut between characters only. -/
theorem directive_ne_torn (h : Text.trim written <+: written) :
    Directive.parse written ≠ .error .torn := by
  obtain ⟨tail, htail⟩ := h
  have hbegin : GoesOn written 0 (Text.trim written ++ tail) := ⟨[], htail.symm, rfl⟩
  unfold Directive.parse
  dsimp only
  generalize Text.trim written = form at hbegin ⊢
  split
  · exact malformed_ne_torn
  next rest => exact span_ne_torn _ hbegin.next
  next c rest _ =>
    split
    · exact malformed_ne_torn
    · have hform := (c :: rest).takeWhile_append_dropWhile (p := fun c => c ≠ '=' && c ≠ '[')
      generalize (c :: rest).takeWhile (fun c => c ≠ '=' && c ≠ '[') = name at hform ⊢
      split
      next level hlevel =>
        rw [← hform, hlevel, List.append_assoc] at hbegin
        have hthreshold := thresholdFrom_ne_torn hbegin.behind.next
        rw [Nat.zero_add] at hthreshold
        rw [hbegin.cut_eq, ok_bind]
        exact ne_torn_of_bind hthreshold fun t => ok_ne_torn _
      next inside hinside =>
        rw [← hform, hinside, List.append_assoc] at hbegin
        have hspan := hbegin.behind.next
        rw [Nat.zero_add] at hspan
        rw [hbegin.cut_eq, ok_bind]
        exact span_ne_torn _ hspan
      · exact ok_ne_torn _

/-- Only white space in front of a directive tears a filter. -/
theorem exists_of_ofEnvironment?_none {env : Environment} (h : ofEnvironment? env = none) :
    ∃ text part, env.get? "RUST_LOG" = some text ∧ part ∈ text.splitOn "," ∧
      ¬ Text.trim part.toList <+: part.toList := by
  cases hfilter : env.get? "RUST_LOG" with
  | none =>
    rw [ofEnvironment?, hfilter] at h
    cases h
  | some text =>
    have htorn : parse text = .error .torn := by
      rw [ofEnvironment?, hfilter, Option.map_some] at h
      split at h
      next hnone => cases hnone
      · cases h
      · cases h
      next hparse => exact Option.some.inj hparse
    obtain htorn | ⟨ds, -, htorn⟩ := exists_of_bind_error htorn
    · obtain ⟨part, hpart, htorn⟩ := exists_of_mapM_error htorn
      exact ⟨text, part, rfl, List.mem_of_mem_filter hpart,
        fun hfront => directive_ne_torn hfront htorn⟩
    · cases htorn

end Cuts

end AgentLaunch.LogFilter
