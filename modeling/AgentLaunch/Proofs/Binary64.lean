import Mathlib
import AgentLaunch.Binary64.Arithmetic

/-!
# Rounding to binary floating point numbers

A sum or a product is the number of the format that is nearest to the exact one, unless that is as
far from zero as a number of the format cannot be. What is compared is what the numbers stand for.
-/

namespace AgentLaunch.Binary64

section Quotients

variable {num den : Nat}

theorem roundQuotient_cases (num den : Nat) :
    (roundQuotient num den = num / den ∧ 2 * (num % den) ≤ den) ∨
      (roundQuotient num den = num / den + 1 ∧ den ≤ 2 * (num % den)) := by
  simp only [roundQuotient]
  split <;> omega

theorem quotient_eq (num : Nat) (h : 0 < den) :
    (num / den : ℚ) = ↑(num / den) + ↑(num % den) / den := by
  have hden : (den : ℚ) ≠ 0 := by exact_mod_cast h.ne'
  have hsplit : (num : ℚ) = den * ↑(num / den) + ↑(num % den) := by
    exact_mod_cast (Nat.div_add_mod num den).symm
  rw [hsplit, add_div, mul_div_cancel_left₀ _ hden]

theorem rest_le_half_iff (num : Nat) (h : 0 < den) :
    (((num % den : Nat) : ℚ) / den ≤ 1 / 2 ↔ 2 * (num % den) ≤ den) ∧
      ((1 / 2 : ℚ) ≤ ↑(num % den) / den ↔ den ≤ 2 * (num % den)) := by
  have hden : (0 : ℚ) < den := by exact_mod_cast h
  rw [div_le_div_iff₀ hden two_pos, div_le_div_iff₀ two_pos hden]
  norm_cast
  omega

theorem rest_lt_one (num : Nat) (h : 0 < den) : ((num % den : Nat) : ℚ) / den < 1 := by
  rw [div_lt_one (by exact_mod_cast h)]
  exact_mod_cast Nat.mod_lt num h

/-- Rounding is off by a half at most. -/
theorem abs_sub_roundQuotient (num : Nat) (h : 0 < den) :
    |(num / den : ℚ) - roundQuotient num den| ≤ 1 / 2 := by
  have hlow : (0 : ℚ) ≤ ↑(num % den) / den := by positivity
  have hhigh := rest_lt_one num h
  rw [quotient_eq num h, abs_le]
  obtain ⟨hround, hrest⟩ | ⟨hround, hrest⟩ := roundQuotient_cases num den
  · have hhalf := (rest_le_half_iff num h).1.mpr hrest
    rw [hround]
    constructor <;> linarith
  · have hhalf := (rest_le_half_iff num h).2.mpr hrest
    rw [hround]
    push_cast
    constructor <;> linarith

/-- No integer is nearer. -/
theorem abs_sub_roundQuotient_le (num : Nat) (h : 0 < den) (k : ℤ) :
    |(num / den : ℚ) - roundQuotient num den| ≤ |(num / den : ℚ) - k| := by
  have hround := abs_sub_roundQuotient num h
  by_cases hk : (roundQuotient num den : ℤ) = k
  · rw [← hk, Int.cast_natCast]
  · have hapart : (1 : ℚ) ≤ |((roundQuotient num den : ℤ) : ℚ) - k| := by
      exact_mod_cast Int.one_le_abs (sub_ne_zero.mpr hk)
    have htriangle := abs_sub_le ((roundQuotient num den : ℤ) : ℚ) (num / den) k
    rw [abs_sub_comm _ (num / den : ℚ), Int.cast_natCast] at htriangle
    rw [Int.cast_natCast] at hapart
    linarith

/-- Of two that are equally near the even one is taken. -/
theorem even_roundQuotient (h : 0 < den)
    (hhalf : |(num / den : ℚ) - roundQuotient num den| = 1 / 2) :
    Even (roundQuotient num den) := by
  have hrest : 2 * (num % den) = den := by
    rw [quotient_eq num h] at hhalf
    obtain ⟨hround, hrest⟩ | ⟨hround, hrest⟩ := roundQuotient_cases num den
    · refine le_antisymm hrest ((rest_le_half_iff num h).2.mp ?_)
      rw [hround, add_sub_cancel_left, abs_of_nonneg (by positivity)] at hhalf
      exact hhalf.ge
    · refine le_antisymm ((rest_le_half_iff num h).1.mp ?_) hrest
      have hhigh := rest_lt_one num h
      rw [hround, Nat.cast_add_one, abs_eq (by norm_num)] at hhalf
      obtain hhalf | hhalf := hhalf <;> linarith
  simp only [roundQuotient, hrest, lt_irrefl, true_and, false_or]
  rw [Nat.even_iff]
  split <;> omega

theorem natPow_eq (n : Nat) : ((Nat.pow 2 n : Nat) : ℚ) = 2 ^ n := by
  exact_mod_cast rfl

/-- Both parts of a quotient are moved so that a power of two is taken out of it. -/
theorem scaled_quotient (num den : Nat) (q : ℤ) :
    ((num * Nat.pow 2 (-q).toNat : Nat) / (den * Nat.pow 2 q.toNat : Nat) : ℚ) =
      num / den / 2 ^ q := by
  have hpow : (2 : ℚ) ^ q = 2 ^ q.toNat / 2 ^ (-q).toNat := by
    rw [← zpow_natCast, ← zpow_natCast, ← zpow_sub₀ two_ne_zero]
    congr 1
    omega
  rw [hpow]
  push_cast [natPow_eq]
  field_simp

theorem pow_log2_le {n : Nat} (h : 0 < n) : (2 : ℚ) ^ n.log2 ≤ n := by
  exact_mod_cast Nat.log2_self_le h.ne'

theorem lt_pow_log2 (n : Nat) : (n : ℚ) < 2 ^ (n.log2 + 1) := by
  exact_mod_cast Nat.lt_log2_self

theorem floorLog2_spec (hnum : 0 < num) (hden : 0 < den) :
    (2 : ℚ) ^ floorLog2 num den ≤ num / den ∧ (num / den : ℚ) < 2 ^ (floorLog2 num den + 1) := by
  have hden' : (0 : ℚ) < den := by exact_mod_cast hden
  let e : ℤ := (num.log2 : ℤ) - den.log2
  have hle : den * Nat.pow 2 e.toNat ≤ num * Nat.pow 2 (-e).toNat ↔ (2 : ℚ) ^ e ≤ num / den := by
    have hpositive : 0 < den * Nat.pow 2 e.toNat := Nat.mul_pos hden (Nat.two_pow_pos _)
    have hone : (2 : ℚ) ^ e ≤ num / den ↔ 1 ≤ (num / den / 2 ^ e : ℚ) :=
      (one_le_div (by positivity)).symm
    rw [hone, ← scaled_quotient, one_le_div (by exact_mod_cast hpositive)]
    exact_mod_cast Iff.rfl
  have hupper : (num / den : ℚ) < 2 ^ (e + 1) := by
    have he : e + 1 = ((num.log2 + 1 : Nat) : ℤ) - (den.log2 : Nat) := by
      push_cast
      ring
    rw [he, zpow_sub₀ two_ne_zero, zpow_natCast, zpow_natCast]
    exact div_lt_div₀ (lt_pow_log2 num) (pow_log2_le hden) (by positivity) (by positivity)
  have hlower : (2 : ℚ) ^ (e - 1) ≤ num / den := by
    have he : e - 1 = (num.log2 : ℤ) - ((den.log2 + 1 : Nat) : ℤ) := by
      push_cast
      ring
    rw [he, zpow_sub₀ two_ne_zero, zpow_natCast, zpow_natCast]
    exact div_le_div₀ (by positivity) (pow_log2_le hnum) hden' (lt_pow_log2 den).le
  have hfloor : floorLog2 num den = if (2 : ℚ) ^ e ≤ num / den then e else e - 1 :=
    if_congr hle rfl rfl
  rw [hfloor]
  split
  next h => exact ⟨h, hupper⟩
  next h => exact ⟨hlower, by rw [sub_add_cancel]; exact not_le.mp h⟩

end Quotients

section Nearest

variable {num den : Nat}

/-- The numbers of the format, each in one form only. -/
def Fits : Binary64 → Prop
  | .finite _ m q => m < 2 * leastMantissa ∧ (leastMantissa ≤ m ∨ q = minExponent) ∧
      minExponent ≤ q ∧ q ≤ maxExponent
  | _ => False

/-- What a finite number stands for. -/
def value : Binary64 → ℚ
  | .finite negative m q => if negative then -(m * 2 ^ q) else m * 2 ^ q
  | _ => 0

/-- A number of the format that no other one is nearer to a fraction than. -/
def IsNearest (a : Binary64) (x : ℚ) : Prop :=
  a.Fits ∧ ∀ b : Binary64, b.Fits → |x - a.value| ≤ |x - b.value|

theorem leastMantissa_eq : (leastMantissa : ℚ) = 2 ^ 52 := by
  norm_num [leastMantissa]

/-- The exponent with which a quotient is rounded. -/
def exponentOf (num den : Nat) : ℤ :=
  max (floorLog2 num den - 52) minExponent

/-- The mantissa to which a quotient is rounded. -/
def mantissaOf (num den : Nat) : Nat :=
  roundQuotient (num * Nat.pow 2 (-exponentOf num den).toNat)
    (den * Nat.pow 2 (exponentOf num den).toNat)

theorem abs_sub_mantissaOf (num : Nat) (hden : 0 < den) :
    |(num / den / 2 ^ exponentOf num den : ℚ) - mantissaOf num den| ≤ 1 / 2 ∧
      ∀ k : ℤ, |(num / den / 2 ^ exponentOf num den : ℚ) - mantissaOf num den| ≤
        |(num / den / 2 ^ exponentOf num den : ℚ) - k| := by
  have hpositive : 0 < den * Nat.pow 2 (exponentOf num den).toNat :=
    Nat.mul_pos hden (Nat.two_pow_pos _)
  rw [← scaled_quotient]
  exact ⟨abs_sub_roundQuotient _ hpositive, abs_sub_roundQuotient_le _ hpositive⟩

theorem quotient_lt (hnum : 0 < num) (hden : 0 < den) :
    (num / den / 2 ^ exponentOf num den : ℚ) < 2 * leastMantissa := by
  have hpow : (2 * leastMantissa : ℚ) = 2 ^ 53 := by
    rw [leastMantissa_eq]
    norm_num
  have hexponent : floorLog2 num den + 1 ≤ 53 + exponentOf num den := by
    have := le_max_left (floorLog2 num den - 52) minExponent
    rw [exponentOf]
    omega
  rw [div_lt_iff₀ (by positivity), hpow, ← zpow_natCast, ← zpow_add₀ two_ne_zero]
  exact (floorLog2_spec hnum hden).2.trans_le (zpow_le_zpow_right₀ one_le_two hexponent)

theorem le_quotient (hnum : 0 < num) (hden : 0 < den)
    (h : exponentOf num den ≠ minExponent) :
    (leastMantissa : ℚ) ≤ num / den / 2 ^ exponentOf num den := by
  have hexponent : 52 + exponentOf num den = floorLog2 num den := by
    rw [exponentOf] at h ⊢
    omega
  rw [le_div_iff₀ (by positivity), leastMantissa_eq, ← zpow_natCast, ← zpow_add₀ two_ne_zero]
  push_cast
  rw [hexponent]
  exact (floorLog2_spec hnum hden).1

theorem mantissaOf_le (hnum : 0 < num) (hden : 0 < den) :
    mantissaOf num den ≤ 2 * leastMantissa := by
  have hround := (abs_le.mp (abs_sub_mantissaOf num hden).1).1
  have hbound := quotient_lt hnum hden
  have hlt : (mantissaOf num den : ℚ) < (2 * leastMantissa + 1 : Nat) := by
    push_cast
    linarith
  exact Nat.lt_succ_iff.mp (by exact_mod_cast hlt)

theorem le_mantissaOf (hnum : 0 < num) (hden : 0 < den)
    (h : exponentOf num den ≠ minExponent) : leastMantissa ≤ mantissaOf num den := by
  have hround := (abs_le.mp (abs_sub_mantissaOf num hden).1).2
  have hbound := le_quotient hnum hden h
  have hlt : (leastMantissa : ℚ) < mantissaOf num den + 1 := by linarith
  exact Nat.lt_succ_iff.mp (by exact_mod_cast hlt)

/-- Distances from a quotient are told in units of its last place. -/
theorem abs_sub_mul (x y : ℚ) (q : ℤ) : |x - y * 2 ^ q| = |x / 2 ^ q - y| * 2 ^ q := by
  have hpow : (0 : ℚ) < 2 ^ q := by positivity
  rw [← abs_of_pos hpow, ← abs_mul, abs_of_pos hpow, sub_mul, div_mul_cancel₀ _ hpow.ne']

theorem abs_sub_rounded_le (hnum : 0 < num) (hden : 0 < den) {m : Nat} {q : ℤ}
    (hm : m < 2 * leastMantissa) (hq : minExponent ≤ q) :
    |(num / den : ℚ) - mantissaOf num den * 2 ^ exponentOf num den| ≤
      |(num / den : ℚ) - m * 2 ^ q| := by
  have hround := (abs_sub_mantissaOf num hden).2
  have hgrid (k : ℤ) : |(num / den : ℚ) - mantissaOf num den * 2 ^ exponentOf num den| ≤
      |(num / den : ℚ) - k * 2 ^ exponentOf num den| := by
    rw [abs_sub_mul, abs_sub_mul]
    exact mul_le_mul_of_nonneg_right (hround k) (by positivity)
  obtain hle | hlt := le_or_gt (exponentOf num den) q
  · have hmultiple : (m * 2 ^ q : ℚ) =
        ((m * 2 ^ (q - exponentOf num den).toNat : ℤ) : ℚ) * 2 ^ exponentOf num den := by
      push_cast
      rw [← zpow_natCast, Int.toNat_of_nonneg (sub_nonneg.mpr hle), mul_assoc,
        ← zpow_add₀ two_ne_zero, sub_add_cancel]
    rw [hmultiple]
    exact hgrid _
  · -- numbers with smaller exponents lie below the least mantissa, which is on the grid
    have hleast := le_quotient hnum hden (by omega)
    rw [le_div_iff₀ (by positivity)] at hleast
    have hbelow : (m * 2 ^ q : ℚ) ≤ leastMantissa * 2 ^ exponentOf num den := by
      calc (m * 2 ^ q : ℚ) ≤ 2 * leastMantissa * 2 ^ (exponentOf num den - 1) := by
            gcongr
            · exact_mod_cast hm.le
            · exact one_le_two
            · omega
        _ = leastMantissa * 2 ^ exponentOf num den := by
            rw [zpow_sub_one₀ two_ne_zero]
            ring
    have hnear := hgrid leastMantissa
    rw [Int.cast_natCast, abs_of_nonneg (sub_nonneg.mpr hleast)] at hnear
    calc |(num / den : ℚ) - mantissaOf num den * 2 ^ exponentOf num den|
        ≤ num / den - leastMantissa * 2 ^ exponentOf num den := hnear
      _ ≤ num / den - m * 2 ^ q := by linarith
      _ ≤ |(num / den : ℚ) - m * 2 ^ q| := le_abs_self _

theorem ofQuotient_eq (negative : Bool) (num den : Nat) : ofQuotient negative num den =
    if mantissaOf num den = 2 * leastMantissa then
      if exponentOf num den + 1 > maxExponent then .infinite negative
      else .finite negative leastMantissa (exponentOf num den + 1)
    else if exponentOf num den > maxExponent then .infinite negative
    else .finite negative (mantissaOf num den) (exponentOf num den) :=
  apply_ite
    (fun p : Nat × ℤ =>
      if p.2 > maxExponent then infinite negative else finite negative p.1 p.2)
    (mantissaOf num den = 2 * leastMantissa) (leastMantissa, exponentOf num den + 1)
    (mantissaOf num den, exponentOf num den)

/-- From here on fractions are nearer to the number after the largest one. -/
def limit : ℚ :=
  (2 * leastMantissa - 1 / 2) * 2 ^ maxExponent

theorem exponentOf_le (hnum : 0 < num) (hden : 0 < den) (h : (num / den : ℚ) < limit) :
    exponentOf num den ≤ maxExponent := by
  by_contra hlarge
  have hleast := le_quotient hnum hden (by
    intro hmin
    rw [hmin] at hlarge
    exact hlarge (by decide))
  rw [le_div_iff₀ (by positivity)] at hleast
  have hscaled : (leastMantissa * 2 ^ (maxExponent + 1) : ℚ) ≤
      leastMantissa * 2 ^ exponentOf num den := by
    gcongr
    · exact one_le_two
    · omega
  rw [zpow_add_one₀ two_ne_zero] at hscaled
  have hpow : (0 : ℚ) < 2 ^ maxExponent := by positivity
  rw [limit] at h
  linarith

theorem exponentOf_lt (hden : 0 < den) (h : (num / den : ℚ) < limit)
    (hcarry : mantissaOf num den = 2 * leastMantissa) : exponentOf num den ≠ maxExponent := by
  intro hmax
  have hround := (abs_le.mp (abs_sub_mantissaOf num hden).1).1
  rw [hcarry, hmax, le_sub_iff_add_le, le_div_iff₀ (by positivity)] at hround
  push_cast at hround
  rw [limit] at h
  linarith

theorem value_finite (negative : Bool) (m : Nat) (q : ℤ) :
    value (.finite negative m q) = (if negative then -1 else 1) * (m * 2 ^ q) := by
  cases negative <;> simp [value]

/-- Signs do not matter for what is nearest. -/
theorem abs_sub_signed_le {x v : ℚ} (hx : 0 ≤ x) {m : Nat} {q : ℤ} (negative other : Bool)
    (h : |x - v| ≤ |x - m * 2 ^ q|) :
    |(if negative then -1 else 1) * x - (if negative then -1 else 1) * v| ≤
      |(if negative then -1 else 1) * x - (if other then -1 else 1) * (m * 2 ^ q)| := by
  have hsign : |(if negative then -1 else 1 : ℚ)| = 1 := by cases negative <;> simp
  have hproduct : 0 ≤ x * (m * 2 ^ q) := by positivity
  rw [← mul_sub, abs_mul, hsign, one_mul]
  refine h.trans (sq_le_sq.mp ?_)
  cases negative <;> cases other <;> simp only [if_true, Bool.false_eq_true, if_false] <;> linarith

theorem isNearest_ofQuotient (negative : Bool) (hnum : 0 < num) (hden : 0 < den)
    (h : (num / den : ℚ) < limit) :
    (ofQuotient negative num den).IsNearest ((if negative then -1 else 1) * (num / den)) := by
  have hexponent : minExponent ≤ exponentOf num den := le_max_right _ _
  have hleast := le_mantissaOf hnum hden
  have hvalue : (ofQuotient negative num den).Fits ∧ (ofQuotient negative num den).value =
      (if negative then -1 else 1) * (mantissaOf num den * 2 ^ exponentOf num den) := by
    rw [ofQuotient_eq]
    by_cases hcarry : mantissaOf num den = 2 * leastMantissa
    · have hmax := exponentOf_lt hden h hcarry
      have hle := exponentOf_le hnum hden h
      rw [if_pos hcarry, if_neg (by omega), value_finite, hcarry, zpow_add_one₀ two_ne_zero]
      refine ⟨⟨by decide, .inl le_rfl, by omega, by omega⟩, ?_⟩
      push_cast
      ring
    · have hlt := lt_of_le_of_ne (mantissaOf_le hnum hden) hcarry
      have hle := exponentOf_le hnum hden h
      rw [if_neg hcarry, if_neg hle.not_gt, value_finite]
      refine ⟨⟨hlt, ?_, hexponent, hle⟩, rfl⟩
      exact (em _).symm.imp_left hleast
  refine ⟨hvalue.1, fun b hb => ?_⟩
  rw [hvalue.2]
  cases b with
  | finite other m q =>
    rw [value_finite]
    exact abs_sub_signed_le (by positivity) negative other
      (abs_sub_rounded_le hnum hden hb.1 hb.2.2.1)
  | infinite => exact hb.elim
  | nan => exact hb.elim

theorem isNearest_zero (negative : Bool) : (zero negative).IsNearest 0 := by
  have hvalue : (zero negative).value = 0 := by cases negative <;> simp [zero, value]
  refine ⟨⟨by decide, .inr rfl, by decide, by decide⟩, fun b _ => ?_⟩
  rw [hvalue, sub_zero, abs_zero]
  exact abs_nonneg _

theorem isNearest_ofRatio {n : ℤ} {d : Nat} (hd : 0 < d) (h : |(n / d : ℚ)| < limit) :
    (ofRatio n d).IsNearest (n / d) := by
  rw [ofRatio]
  split
  next hn =>
    rw [hn, Int.cast_zero, zero_div]
    exact isNearest_zero false
  next hn =>
    have habs : |(n / d : ℚ)| = n.natAbs / d := by
      rw [abs_div, Nat.abs_cast, Nat.cast_natAbs, Int.cast_abs]
    have hsigned : (n / d : ℚ) = (if decide (n < 0) then -1 else 1) * (n.natAbs / d) := by
      obtain hnegative | hpositive := lt_or_ge n 0
      · have hsign : |(n : ℚ)| = -n := abs_of_neg (by exact_mod_cast hnegative)
        rw [decide_eq_true hnegative, if_pos rfl, Nat.cast_natAbs, Int.cast_abs, hsign]
        ring
      · have hsign : |(n : ℚ)| = n := abs_of_nonneg (by exact_mod_cast hpositive)
        rw [decide_eq_false hpositive.not_gt, if_neg Bool.false_ne_true, Nat.cast_natAbs,
          Int.cast_abs, hsign, one_mul]
    rw [hsigned]
    exact isNearest_ofQuotient _ (Int.natAbs_pos.mpr hn) hd (habs ▸ h)

/-- The sign of a zero does not matter either. -/
theorem isNearest_ite {n : ℤ} {d : Nat} (negative : Bool) (hd : 0 < d)
    (h : |(n / d : ℚ)| < limit) :
    (if n = 0 then zero negative else ofRatio n d).IsNearest (n / d) := by
  split
  next hn =>
    rw [hn, Int.cast_zero, zero_div]
    exact isNearest_zero negative
  next => exact isNearest_ofRatio hd h

end Nearest

section Operations

variable {a b : Binary64}

theorem Fits.exists_ratio (h : a.Fits) :
    ∃ n d, a.ratio? = some (n, d) ∧ 0 < d ∧ (n / d : ℚ) = a.value := by
  cases a with
  | finite negative m q =>
    have hratio := scaled_quotient m 1 (-q)
    rw [neg_neg, one_mul, Nat.cast_one, div_one, zpow_neg, div_inv_eq_mul] at hratio
    refine ⟨_, _, rfl, Nat.two_pow_pos _, ?_⟩
    rw [value, ← hratio]
    cases negative <;> simp [neg_div]
  | infinite => exact h.elim
  | nan => exact h.elim

theorem isNearest_add (ha : a.Fits) (hb : b.Fits) (h : |a.value + b.value| < limit) :
    (a.add b).IsNearest (a.value + b.value) := by
  obtain ⟨m, d, hm, hd, hvalue⟩ := ha.exists_ratio
  obtain ⟨n, e, hn, he, hvalue'⟩ := hb.exists_ratio
  have hsum : ((m * Int.ofNat e + n * Int.ofNat d : ℤ) / (d * e : Nat) : ℚ) =
      a.value + b.value := by
    rw [← hvalue, ← hvalue']
    rw [Int.ofNat_eq_natCast, Int.ofNat_eq_natCast]
    push_cast
    field_simp
  rw [← hsum] at h ⊢
  simp only [add, hm, hn]
  exact isNearest_ite _ (Nat.mul_pos hd he) h

theorem isNearest_mul (ha : a.Fits) (hb : b.Fits) (h : |a.value * b.value| < limit) :
    (a.mul b).IsNearest (a.value * b.value) := by
  obtain ⟨m, d, hm, hd, hvalue⟩ := ha.exists_ratio
  obtain ⟨n, e, hn, he, hvalue'⟩ := hb.exists_ratio
  have hproduct : ((m * n : ℤ) / (d * e : Nat) : ℚ) = a.value * b.value := by
    rw [← hvalue, ← hvalue']
    push_cast
    field_simp
  rw [← hproduct] at h ⊢
  simp only [mul, hm, hn]
  exact isNearest_ite _ (Nat.mul_pos hd he) h

/-- Numbers are ordered as what they stand for. -/
theorem compare?_eq (ha : a.Fits) (hb : b.Fits) :
    a.compare? b = some (compare a.value b.value) := by
  obtain ⟨m, d, hm, hd, hvalue⟩ := ha.exists_ratio
  obtain ⟨n, e, hn, he, hvalue'⟩ := hb.exists_ratio
  have hd' : (0 : ℚ) < d := by exact_mod_cast hd
  have he' : (0 : ℚ) < e := by exact_mod_cast he
  have hlt : a.value < b.value ↔ m * Int.ofNat e < n * Int.ofNat d := by
    rw [← hvalue, ← hvalue', div_lt_div_iff₀ hd' he']
    exact_mod_cast Iff.rfl
  have hgt : b.value < a.value ↔ n * Int.ofNat d < m * Int.ofNat e := by
    rw [← hvalue, ← hvalue', div_lt_div_iff₀ he' hd']
    exact_mod_cast Iff.rfl
  simp only [compare?, hm, hn]
  congr 1
  obtain h | h | h := lt_trichotomy a.value b.value
  · rw [compare_lt_iff_lt.mpr h, compare_lt_iff_lt.mpr (hlt.mp h)]
  · rw [compare_eq_iff_eq.mpr h, compare_eq_iff_eq.mpr]
    exact le_antisymm (not_lt.mp (mt hgt.mpr h.not_gt)) (not_lt.mp (mt hlt.mpr h.not_lt))
  · rw [compare_gt_iff_gt.mpr h, compare_gt_iff_gt.mpr (hgt.mp h)]

end Operations

end AgentLaunch.Binary64
