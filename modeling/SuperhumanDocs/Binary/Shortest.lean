import Mathlib.Data.Nat.Log
import Mathlib.Tactic.Linarith
import SuperhumanDocs.Binary.Binary64

/-!
# Short decimals

Rounding depends on the value of a fraction only, and is off by at most half a unit in the last
place. So no two decimals of at most 15 significant digits read as one binary64 number, and the
shortest decimal of a number that was read from such a decimal is that decimal.

* `Format.round_congr`, `Format.round_error`: rounding to a format.
* `Binary64.toNumber_ofDecimal`: a short decimal is read and written without loss.
-/

set_option autoImplicit false

namespace Binary

open Json (Decimal Number)

/-! ## The nearest integer -/

theorem roundEven_mul_right (num den : Nat) {k : Nat} (hk : 0 < k) :
    roundEven (num * k) (den * k) = roundEven num den := by
  have hlt : 2 * (num * k % (den * k)) < den * k ↔ 2 * (num % den) < den := by
    rw [Nat.mul_mod_mul_right, ← Nat.mul_assoc, Nat.mul_lt_mul_right hk]
  have heq : 2 * (num * k % (den * k)) = den * k ↔ 2 * (num % den) = den := by
    rw [Nat.mul_mod_mul_right, ← Nat.mul_assoc, Nat.mul_left_inj hk.ne']
  simp only [roundEven, hlt, heq, Nat.mul_div_mul_right num den hk]

section
variable {num den num' den' : Nat} (hd : 0 < den)
include hd

theorem roundEven_congr (hd' : 0 < den') (h : (num / den : ℚ) = num' / den') :
    roundEven num den = roundEven num' den' := by
  have hcross : num * den' = num' * den := by
    rw [div_eq_div_iff (by positivity) (by positivity)] at h
    exact_mod_cast h
  rw [← roundEven_mul_right num den hd', hcross, Nat.mul_comm den den',
    roundEven_mul_right _ _ hd]

/-- Rounding to an integer is off by a half at most. -/
theorem roundEven_error (num : Nat) : |(roundEven num den : ℚ) - num / den| ≤ 1 / 2 := by
  have hden : (0 : ℚ) < den := by exact_mod_cast hd
  have hsplit : (num : ℚ) / den = (num / den : Nat) + ((num % den : Nat) : ℚ) / den := by
    rw [div_eq_iff hden.ne', add_mul, div_mul_cancel₀ _ hden.ne']
    exact_mod_cast (Nat.div_add_mod' num den).symm
  have hrest : (0 : ℚ) ≤ ((num % den : Nat) : ℚ) / den := by positivity
  rw [hsplit, abs_le]
  unfold roundEven
  split
  · rename_i hlow
    have hle : ((num % den : Nat) : ℚ) / den ≤ 1 / 2 := by
      rw [div_le_iff₀ hden]
      have : 2 * (num % den) ≤ den := by omega
      have : (2 : ℚ) * (num % den : Nat) ≤ den := by exact_mod_cast this
      linarith
    constructor <;> linarith
  · rename_i hhigh
    have hge : 1 / 2 ≤ ((num % den : Nat) : ℚ) / den := by
      rw [le_div_iff₀ hden]
      have : den ≤ 2 * (num % den) := by omega
      have : (den : ℚ) ≤ 2 * (num % den : Nat) := by exact_mod_cast this
      linarith
    have hlt : ((num % den : Nat) : ℚ) / den < 1 := by
      rw [div_lt_one hden]
      exact_mod_cast Nat.mod_lt num hd
    push_cast
    constructor <;> linarith

/-- The only integer that is off by less than a half. -/
theorem roundEven_eq {n : Nat} (h : |(num / den : ℚ) - n| < 1 / 2) : roundEven num den = n := by
  have herror := abs_le.1 (roundEven_error hd num)
  have hclose := abs_lt.1 h
  have hlow : (n : ℚ) < (roundEven num den + 1 : Nat) := by push_cast; linarith
  have hhigh : (roundEven num den : ℚ) < (n + 1 : Nat) := by push_cast; linarith
  have := Nat.cast_lt.1 hlow
  have := Nat.cast_lt.1 hhigh
  omega

end

/-! ## Rounding to a format -/

section
variable {fmt : Format} {num den num' den' : Nat}

theorem Format.minExponent_le (fmt : Format) (num den : Nat) :
    fmt.minExponent ≤ fmt.exponent num den := by
  simp only [Format.exponent]
  have := le_max_right (num.log2 - den.log2 - fmt.precision : Int) fmt.minExponent
  split
  · exact le_refl _
  · split <;> omega

/-- The exponent is a function of the value. -/
theorem exponent_congr (hd : 0 < den) (hd' : 0 < den') (h : (num / den : ℚ) = num' / den') :
    fmt.exponent num den = fmt.exponent num' den' := by
  have hden : (0 : ℚ) < den := by exact_mod_cast hd
  have hden' : (0 : ℚ) < den' := by exact_mod_cast hd'
  rcases Nat.eq_zero_or_pos num with rfl | hn
  · have hzero : num' = 0 := by
      rw [Nat.cast_zero, zero_div, eq_comm, div_eq_zero_iff] at h
      exact_mod_cast h.resolve_right hden'.ne'
    rw [hzero]
    simp [Format.exponent]
  · have hn' : 0 < num' := by
      apply Nat.pos_of_ne_zero
      rintro rfl
      rw [Nat.cast_zero, zero_div, div_eq_zero_iff] at h
      exact absurd (h.resolve_right hden.ne') (by exact_mod_cast hn.ne')
    apply le_antisymm
    · exact exponent_le hn hd (fmt.minExponent_le _ _) (h ▸ div_lt_exponent hn' hd')
    · exact exponent_le hn' hd' (fmt.minExponent_le _ _) (h ▸ div_lt_exponent hn hd)

/-- The rounded mantissa, at the exponent of the fraction. -/
def Format.mantissa (fmt : Format) (num den : Nat) : Nat :=
  roundEven (scale num den (fmt.exponent num den)).1 (scale num den (fmt.exponent num den)).2

theorem mantissa_congr (hd : 0 < den) (hd' : 0 < den') (h : (num / den : ℚ) = num' / den') :
    fmt.mantissa num den = fmt.mantissa num' den' := by
  apply roundEven_congr (scale_pos num _ hd) (scale_pos num' _ hd')
  rw [scale_div, scale_div, h, exponent_congr hd hd' h]

/-- **Rounding is a function of the value.** -/
theorem Format.round_congr (neg : Bool) (hd : 0 < den) (hd' : 0 < den')
    (h : (num / den : ℚ) = num' / den') : fmt.round neg num den = fmt.round neg num' den' := by
  have hexponent : fmt.exponent num den = fmt.exponent num' den' := exponent_congr hd hd' h
  have hmantissa : roundEven (scale num den (fmt.exponent num den)).1
        (scale num den (fmt.exponent num den)).2 =
      roundEven (scale num' den' (fmt.exponent num' den')).1
        (scale num' den' (fmt.exponent num' den')).2 := mantissa_congr hd hd' h
  simp only [Format.round, hmantissa]
  simp only [hexponent]

/-- The error of the mantissa, in units of the last place. -/
theorem Format.mantissa_error (fmt : Format) (num : Nat) (hd : 0 < den) :
    |(fmt.mantissa num den : ℚ) - num / den / (2 : ℚ) ^ fmt.exponent num den| ≤ 1 / 2 := by
  have herror := roundEven_error (scale_pos num (fmt.exponent num den) hd)
    (scale num den (fmt.exponent num den)).1
  rwa [scale_div] at herror

/-- A mantissa is rounded up to the next power of two at most. -/
theorem mantissa_le (hd : 0 < den) : fmt.mantissa num den ≤ 2 ^ fmt.precision := by
  have hlt : (num / den : ℚ) / 2 ^ fmt.exponent num den < 2 ^ fmt.precision := by
    rcases Nat.eq_zero_or_pos num with rfl | hn
    · rw [Nat.cast_zero, zero_div, zero_div]
      positivity
    · rw [div_lt_iff₀ (by positivity), ← zpow_natCast, ← zpow_add₀ (by norm_num), add_comm]
      exact div_lt_exponent hn hd
  have herror := abs_le.1 (fmt.mantissa_error num hd)
  have : (fmt.mantissa num den : ℚ) < (2 ^ fmt.precision + 1 : Nat) := by
    push_cast
    linarith
  exact Nat.lt_succ_iff.1 (Nat.cast_lt.1 this)

/-- The value of a rounded fraction. -/
theorem Format.round_value {neg : Bool} {x : Finite fmt} (hd : 0 < den)
    (h : fmt.round neg num den = some x) : x.neg = neg ∧
      (x.mantissa : ℚ) * (2 : ℚ) ^ x.exponent =
        fmt.mantissa num den * (2 : ℚ) ^ fmt.exponent num den := by
  simp only [Format.round] at h
  split at h
  · split at h
    · cases h
      exact ⟨rfl, rfl⟩
    · cases h
  · rename_i hge
    split at h
    · cases h
      have hcarry : fmt.mantissa num den = 2 ^ (fmt.precision - 1) * 2 := by
        rw [← pow_succ, Nat.sub_add_cancel fmt.precision_pos]
        exact le_antisymm (mantissa_le hd) (not_lt.1 hge)
      refine ⟨rfl, ?_⟩
      rw [hcarry, zpow_add_one₀ (by norm_num)]
      push_cast
      ring
    · cases h

/-- A unit in the last place is small against the value, down to the smallest exponent. -/
theorem half_ulp_le (hd : 0 < den) : (2 : ℚ) ^ (fmt.exponent num den - 1) ≤
    num / den / 2 ^ fmt.precision + (2 : ℚ) ^ (fmt.minExponent - 1) := by
  have hquot : (0 : ℚ) ≤ num / den / 2 ^ fmt.precision := by positivity
  have hmin : (0 : ℚ) < (2 : ℚ) ^ (fmt.minExponent - 1) := by positivity
  rcases (fmt.minExponent_le num den).eq_or_lt with heq | hlt
  · rw [← heq]
    linarith
  · -- at the exponent before, the mantissa would not fit
    have hn : 0 < num := by
      apply Nat.pos_of_ne_zero
      rintro rfl
      simp [Format.exponent] at hlt
    have hlarge : ¬ (num / den : ℚ) <
        (2 : ℚ) ^ (fmt.exponent num den - 1 + (fmt.precision : Int)) := by
      intro hsmall
      have := exponent_le hn hd (by omega) hsmall
      omega
    have hulp : (2 : ℚ) ^ (fmt.exponent num den - 1) ≤ num / den / 2 ^ fmt.precision := by
      rw [le_div_iff₀ (by positivity), ← zpow_natCast, ← zpow_add₀ (by norm_num)]
      exact not_lt.1 hlarge
    linarith

/-- **Rounding is off by half a unit in the last place at most.** -/
theorem Format.round_error {neg : Bool} {x : Finite fmt} (hd : 0 < den)
    (h : fmt.round neg num den = some x) :
    |(x.mantissa : ℚ) * (2 : ℚ) ^ x.exponent - num / den| ≤
      num / den / 2 ^ fmt.precision + (2 : ℚ) ^ (fmt.minExponent - 1) := by
  have hpow : (0 : ℚ) < (2 : ℚ) ^ fmt.exponent num den := by positivity
  have hdist : (fmt.mantissa num den : ℚ) * (2 : ℚ) ^ fmt.exponent num den - num / den =
      (fmt.mantissa num den - num / den / (2 : ℚ) ^ fmt.exponent num den) *
        (2 : ℚ) ^ fmt.exponent num den := by
    rw [sub_mul, div_mul_cancel₀ _ hpow.ne']
  rw [(Format.round_value hd h).2, hdist, abs_mul, abs_of_pos hpow]
  calc _ ≤ 1 / 2 * (2 : ℚ) ^ fmt.exponent num den :=
        mul_le_mul_of_nonneg_right (fmt.mantissa_error num hd) hpow.le
    _ = (2 : ℚ) ^ (fmt.exponent num den - 1) := by
        rw [zpow_sub_one₀ (by norm_num)]
        ring
    _ ≤ _ := half_ulp_le hd

end

namespace Binary64

/-! ## Reading a decimal -/

theorem ofFraction_congr {num den num' den' : Nat} (neg : Bool) (hd : 0 < den) (hd' : 0 < den')
    (h : (num / den : ℚ) = num' / den') : ofFraction neg num den = ofFraction neg num' den' := by
  have hround : binary64.round neg num den = binary64.round neg num' den' :=
    Format.round_congr neg hd hd' h
  cases hx : binary64.round neg num den with
  | some x => rw [ofFraction_eq hx, ofFraction_eq (hround.symm.trans hx)]
  | none =>
    have hx' := hround.symm.trans hx
    unfold ofFraction
    split
    · rename_i hsome
      cases hsome.symm.trans hx
    · split
      · rename_i hsome
        cases hsome.symm.trans hx'
      · rfl

/-- The absolute value of a decimal. -/
def magnitude (d : Decimal) : ℚ := d.coefficient * (10 : ℚ) ^ d.exponent

theorem toRat_eq_magnitude (d : Decimal) : d.toRat = d.sign * magnitude d := by
  rw [Decimal.toRat, magnitude, mul_assoc]

/-- Reading depends on the sign and the value of a decimal only. -/
theorem ofDecimal_congr {d d' : Decimal} (hneg : d.neg = d'.neg)
    (h : magnitude d = magnitude d') : ofDecimal d = ofDecimal d' := by
  rw [ofDecimal, ofDecimal, hneg]
  apply ofFraction_congr _ (by positivity) (by positivity)
  rw [decimal_div, decimal_div]
  exact h

/-- The decimal reads as the number. -/
def Reads (d : Decimal) (x : Finite binary64) : Prop :=
  ∃ low high, ofDecimal d = .finite x low high

/-- The absolute value of a number. -/
def size (x : Finite binary64) : ℚ := x.mantissa * (2 : ℚ) ^ x.exponent

theorem Reads.round {d : Decimal} {x : Finite binary64} (h : Reads d x) :
    binary64.round d.neg (d.coefficient * 10 ^ d.exponent.toNat) (10 ^ (-d.exponent).toNat) =
      some x := by
  obtain ⟨low, high, h⟩ := h
  rw [ofDecimal] at h
  unfold ofFraction at h
  split at h
  · rename_i y hy
    cases h
    exact hy
  · cases h

theorem Reads.error {d : Decimal} {x : Finite binary64} (h : Reads d x) :
    x.neg = d.neg ∧ |size x - magnitude d| ≤ magnitude d / 2 ^ 53 + (2 : ℚ) ^ (-1075 : Int) := by
  have hden : 0 < 10 ^ (-d.exponent).toNat := by positivity
  have herror := Format.round_error hden h.round
  rw [decimal_div] at herror
  exact ⟨(Format.round_value hden h.round).1, herror⟩

/-! ## The shortest decimal -/

/-- The number rounded to a multiple of a power of ten. -/
def roundedAt (x : Finite binary64) (exponent : Int) : Decimal where
  neg := x.neg
  coefficient :=
    roundEven ((scale x.mantissa 1 (-x.exponent)).1 * 10 ^ (-exponent).toNat)
      ((scale x.mantissa 1 (-x.exponent)).2 * 10 ^ exponent.toNat)
  exponent

/-- A bound on the digits before the point. -/
def digitBound (x : Finite binary64) : Int :=
  (Nat.toDigits 10 (scale x.mantissa 1 (-x.exponent)).1).length -
    (Nat.toDigits 10 (scale x.mantissa 1 (-x.exponent)).2).length + 1

/-- The decimal, if it reads as the number. -/
def readBack (x : Finite binary64) (d : Decimal) : Option Decimal :=
  match ofDecimal d with
  | finite y _ _ => if y = x then some d else none
  | _ => none

theorem shortest_eq (x : Finite binary64) : shortest x =
    ((List.range 20).findSome? fun dropped =>
      readBack x (roundedAt x (digitBound x - (dropped : Nat)))).getD ⟨x.neg, 0, 0⟩ := rfl

theorem readBack_of_reads {x : Finite binary64} {d : Decimal} (h : Reads d x) :
    readBack x d = some d := by
  obtain ⟨low, high, h⟩ := h
  simp only [readBack, h, if_true]

theorem readBack_eq_some {x : Finite binary64} {d d' : Decimal} (h : readBack x d = some d') :
    d' = d ∧ Reads d x := by
  unfold readBack at h
  split at h
  · rename_i y low high hy
    split at h
    · rename_i heq
      cases heq
      cases h
      exact ⟨rfl, low, high, hy⟩
    · cases h
  · cases h

/-- **The shortest decimal is the first candidate that reads as the number**, if there is one. -/
theorem shortest_first {x : Finite binary64} {kept : Nat} (hkept : kept < 20)
    (h : Reads (roundedAt x (digitBound x - kept)) x) :
    ∃ k ≤ kept, Reads (roundedAt x (digitBound x - (k : Nat))) x ∧
      shortest x = roundedAt x (digitBound x - (k : Nat)) := by
  cases hfound : (List.range 20).findSome? fun dropped =>
      readBack x (roundedAt x (digitBound x - (dropped : Nat))) with
  | none =>
    have hnone := List.findSome?_eq_none_iff.1 hfound kept (List.mem_range.2 hkept)
    rw [readBack_of_reads h] at hnone
    cases hnone
  | some d =>
    obtain ⟨before, k, after, hrange, hk, hbefore⟩ := List.findSome?_eq_some_iff.1 hfound
    obtain ⟨rfl, hreads⟩ := readBack_eq_some hk
    refine ⟨k, ?_, hreads, by rw [shortest_eq, hfound, Option.getD_some]⟩
    have hmem := List.mem_range.2 hkept
    have hsorted : (List.range 20).Pairwise (· < ·) := List.pairwise_lt_range
    rw [hrange] at hmem hsorted
    rcases List.mem_append.1 hmem with hin | hin
    · have hnone := hbefore kept hin
      rw [readBack_of_reads h] at hnone
      cases hnone
    · rcases List.mem_cons.1 hin with rfl | hin
      · exact le_refl _
      · exact ((List.pairwise_cons.1 (List.pairwise_append.1 hsorted).2.1).1 kept hin).le

theorem ten_scale_div (num den : Nat) (e : Int) :
    ((num * 10 ^ (-e).toNat : Nat) : ℚ) / (den * 10 ^ e.toNat : Nat) =
      num / den / (10 : ℚ) ^ e := by
  push_cast
  rcases le_total 0 e with h | h
  · lift e to ℕ using h
    have hneg : (-(e : Int)).toNat = 0 := by omega
    rw [hneg, pow_zero, mul_one, Int.toNat_natCast, zpow_natCast, div_div]
  · obtain ⟨n, rfl⟩ : ∃ n : ℕ, e = -n := ⟨(-e).toNat, by omega⟩
    have hneg : (-(n : Int)).toNat = 0 := by omega
    rw [hneg, pow_zero, mul_one, neg_neg, Int.toNat_natCast, zpow_neg, zpow_natCast,
      div_inv_eq_mul]
    ring

theorem size_eq (x : Finite binary64) :
    ((scale x.mantissa 1 (-x.exponent)).1 : ℚ) / (scale x.mantissa 1 (-x.exponent)).2 =
      size x := by
  rw [scale_div, size, Nat.cast_one, div_one, zpow_neg, div_inv_eq_mul]

/-- The coefficient of a candidate is determined up to less than a half. -/
theorem roundedAt_coefficient {x : Finite binary64} {exponent : Int} {c : Nat}
    (h : |size x / (10 : ℚ) ^ exponent - c| < 1 / 2) : (roundedAt x exponent).coefficient = c := by
  apply roundEven_eq
  · exact Nat.mul_pos (scale_pos _ _ Nat.one_pos) (by positivity)
  · rw [ten_scale_div, size_eq]
    exact h

/-- The bounds of a number by its digits. -/
theorem size_bounds {x : Finite binary64} (h : 0 < size x) :
    (10 : ℚ) ^ (digitBound x - 2) < size x ∧ size x < (10 : ℚ) ^ digitBound x := by
  have hbounds {n : Nat} (hn : 0 < n) : (10 : ℚ) ^ ((Nat.toDigits 10 n).length - 1 : Int) ≤ n ∧
      (n : ℚ) < (10 : ℚ) ^ ((Nat.toDigits 10 n).length : Int) := by
    have hlength : 0 < (Nat.toDigits 10 n).length := Nat.length_toDigits_pos
    constructor
    · rw [show ((Nat.toDigits 10 n).length - 1 : Int) = ((Nat.toDigits 10 n).length - 1 : Nat) by
        omega, zpow_natCast]
      have hle : 10 ^ ((Nat.toDigits 10 n).length - 1) ≤ n := by
        by_contra hlt
        rcases Nat.eq_zero_or_pos ((Nat.toDigits 10 n).length - 1) with hzero | hpos
        · rw [hzero] at hlt
          omega
        · have := (Nat.length_toDigits_le_iff (by decide) hpos).2 (not_le.1 hlt)
          omega
      exact_mod_cast hle
    · rw [zpow_natCast]
      exact_mod_cast (Nat.length_toDigits_le_iff (by decide) hlength).1 (le_refl _)
  have hden : 0 < (scale x.mantissa 1 (-x.exponent)).2 := scale_pos _ _ Nat.one_pos
  have hden' : (0 : ℚ) < (scale x.mantissa 1 (-x.exponent)).2 := by exact_mod_cast hden
  have hnum : 0 < (scale x.mantissa 1 (-x.exponent)).1 := by
    apply Nat.pos_of_ne_zero
    intro hzero
    rw [← size_eq, hzero, Nat.cast_zero, zero_div] at h
    exact lt_irrefl _ h
  obtain ⟨hlow, hhigh⟩ := hbounds hnum
  obtain ⟨hlow', hhigh'⟩ := hbounds hden
  rw [← size_eq]
  constructor
  · rw [lt_div_iff₀ hden']
    calc _ < (10 : ℚ) ^ (digitBound x - 2) *
          (10 : ℚ) ^ ((Nat.toDigits 10 (scale x.mantissa 1 (-x.exponent)).2).length : Int) :=
          mul_lt_mul_of_pos_left hhigh' (by positivity)
      _ = (10 : ℚ) ^ ((Nat.toDigits 10 (scale x.mantissa 1 (-x.exponent)).1).length - 1 : Int) := by
          rw [← zpow_add₀ (by norm_num), digitBound]
          congr 1
          ring
      _ ≤ _ := hlow
  · rw [div_lt_iff₀ hden']
    calc _ < (10 : ℚ) ^ ((Nat.toDigits 10 (scale x.mantissa 1 (-x.exponent)).1).length : Int) :=
          hhigh
      _ = (10 : ℚ) ^ digitBound x *
          (10 : ℚ) ^ ((Nat.toDigits 10 (scale x.mantissa 1 (-x.exponent)).2).length - 1 : Int) := by
          rw [← zpow_add₀ (by norm_num), digitBound]
          congr 1
          ring
      _ ≤ _ := mul_le_mul_of_nonneg_left hlow' (by positivity)

/-! ## Decimals of 15 digits -/

section
variable {x : Finite binary64} {d : Decimal} {c n : Nat} {e : Int}

/-- How far the number is from the decimal, in units of its last place. -/
theorem Reads.close (h : Reads d x) (he : -290 ≤ e) (hd : magnitude d = n * (10 : ℚ) ^ e) :
    |size x / (10 : ℚ) ^ e - n| ≤ n / 2 ^ 53 + 1 / 1000 := by
  have hpow : (0 : ℚ) < (10 : ℚ) ^ e := by positivity
  have hsmall : (2 : ℚ) ^ (-1075 : Int) ≤ (10 : ℚ) ^ e / 1000 := by
    have hpowers : (10 : ℚ) ^ 290 * 1000 ≤ 2 ^ 1075 := by
      exact_mod_cast (by decide +kernel : 10 ^ 290 * 1000 ≤ 2 ^ 1075)
    calc (2 : ℚ) ^ (-1075 : Int) ≤ (10 : ℚ) ^ (-290 : Int) / 1000 := by
          rw [zpow_neg, zpow_neg, zpow_ofNat, zpow_ofNat, le_div_iff₀ (by norm_num),
            inv_mul_le_iff₀ (by positivity), ← div_eq_mul_inv, le_div_iff₀ (by positivity)]
          exact (mul_comm _ _).trans_le hpowers
      _ ≤ (10 : ℚ) ^ e / 1000 := by
          have := zpow_le_zpow_right₀ (by norm_num : (1 : ℚ) ≤ 10) he
          linarith
  have hdist : size x / (10 : ℚ) ^ e - n = (size x - magnitude d) / (10 : ℚ) ^ e := by
    rw [hd, sub_div, mul_div_cancel_right₀ _ hpow.ne']
  rw [hdist, abs_div, abs_of_pos hpow, div_le_iff₀ hpow]
  calc _ ≤ magnitude d / 2 ^ 53 + (2 : ℚ) ^ (-1075 : Int) := h.error.2
    _ ≤ (n / 2 ^ 53 + 1 / 1000) * (10 : ℚ) ^ e := by
        rw [hd]
        linarith

/-- **The shortest decimal of what a decimal of 15 digits reads as is that decimal.** -/
theorem shortest_of_reads (h : Reads d x) (hc : 10 ^ 14 ≤ c) (hc' : c < 10 ^ 15) (he : -290 ≤ e)
    (hd : magnitude d = c * (10 : ℚ) ^ e) :
    (shortest x).neg = d.neg ∧ magnitude (shortest x) = magnitude d := by
  have hpow : (0 : ℚ) < (10 : ℚ) ^ e := by positivity
  have hlow : (10 : ℚ) ^ 14 ≤ c := by exact_mod_cast hc
  have hhigh : (c : ℚ) + 1 ≤ 10 ^ 15 := by exact_mod_cast hc'
  have hclose := abs_le.1 (h.close he hd)
  -- the number lies strictly between the powers of ten around the decimal
  have hbelow : size x < (10 : ℚ) ^ (e + 15) := by
    have hunits : size x / (10 : ℚ) ^ e < 10 ^ 15 := by linarith
    rwa [div_lt_iff₀ hpow, ← zpow_natCast, ← zpow_add₀ (by norm_num), add_comm] at hunits
  have habove : (10 : ℚ) ^ (e + 13) < size x := by
    have hunits : (10 : ℚ) ^ 13 < size x / (10 : ℚ) ^ e := by linarith
    rwa [lt_div_iff₀ hpow, ← zpow_natCast, ← zpow_add₀ (by norm_num), add_comm] at hunits
  obtain ⟨hmore, hfewer⟩ := size_bounds (lt_trans (by positivity) habove)
  have hdigits : digitBound x - 2 < e + 15 :=
    (zpow_lt_zpow_iff_right₀ (by norm_num : (1 : ℚ) < 10)).1 (hmore.trans hbelow)
  have hdigits' : e + 13 < digitBound x :=
    (zpow_lt_zpow_iff_right₀ (by norm_num : (1 : ℚ) < 10)).1 (habove.trans hfewer)
  -- so the decimal is one of the candidates
  obtain ⟨kept, hkept⟩ : ∃ kept : Nat, digitBound x - kept = e :=
    ⟨(digitBound x - e).toNat, by omega⟩
  have hcoefficient : (roundedAt x e).coefficient = c := by
    apply roundedAt_coefficient
    rw [abs_lt]
    constructor <;> linarith
  have hreads : Reads (roundedAt x (digitBound x - kept)) x := by
    have hx := h
    obtain ⟨low, high, hx⟩ := hx
    refine ⟨low, high, ?_⟩
    rw [hkept, ← hx]
    apply ofDecimal_congr h.error.1
    rw [hd, magnitude, hcoefficient]
    rfl
  obtain ⟨k, hk, hfirst, hshortest⟩ := shortest_first (by omega) hreads
  -- and a candidate with fewer digits is at the same place
  obtain ⟨j, hj⟩ : ∃ j : Nat, digitBound x - k = e + j :=
    ⟨kept - k, by omega⟩
  have hother : magnitude (shortest x) =
      ((shortest x).coefficient * 10 ^ j : Nat) * (10 : ℚ) ^ e := by
    have hexponent : (shortest x).exponent = e + j := by
      rw [hshortest, ← hj]
      rfl
    rw [magnitude, hexponent, zpow_add₀ (by norm_num), zpow_natCast]
    push_cast
    ring
  rw [← hshortest] at hfirst
  have hclose' := abs_le.1 (hfirst.close he hother)
  refine ⟨hfirst.error.1.symm.trans h.error.1, ?_⟩
  have hupper : (((shortest x).coefficient * 10 ^ j : Nat) : ℚ) < (c + 1 : Nat) := by
    rw [Nat.cast_add_one]
    linarith
  have hlower : (c : ℚ) < ((shortest x).coefficient * 10 ^ j + 1 : Nat) := by
    rw [Nat.cast_add_one] at hupper ⊢
    linarith
  have := Nat.cast_lt.1 hupper
  have := Nat.cast_lt.1 hlower
  rw [hother, hd, show (shortest x).coefficient * 10 ^ j = c by omega]

end

/-! ## Writing a number -/

theorem toNumber_finite (x : Finite binary64) (low : -1074 ≤ x.exponent) (high : x.exponent ≤ 971) :
    ∃ n, toNumber (.finite x low high) = some n ∧ n.toRat = (shortest x).toRat := by
  have hsigned : (signed (shortest x) : ℚ) = (shortest x).sign * (shortest x).coefficient := by
    unfold signed Decimal.sign
    split <;> simp
  unfold toNumber
  dsimp only
  split
  · rename_i hexponent
    refine ⟨_, rfl, ?_⟩
    obtain ⟨k, hk⟩ := Int.eq_ofNat_of_zero_le hexponent
    rw [Number.toRat_ofFixed, Decimal.toRat, hk, ← hsigned, Int.toNat_natCast, zpow_natCast]
    push_cast
    ring
  · rename_i hexponent
    refine ⟨_, rfl, ?_⟩
    obtain ⟨k, hk⟩ : ∃ k : Nat, (shortest x).exponent = -k :=
      ⟨(-(shortest x).exponent).toNat, by omega⟩
    rw [Number.toRat_ofFixed, Decimal.toRat, hk, ← hsigned, neg_neg, Int.toNat_natCast, zpow_neg,
      zpow_natCast, div_eq_mul_inv]

/-- Zero is read and written as zero. -/
theorem shortest_of_zero {x : Finite binary64} {d : Decimal} (h : Reads d x)
    (hd : d.coefficient = 0) : (shortest x).coefficient = 0 := by
  have hsize : size x = 0 := by
    have hvalue := (Format.round_value (by positivity) h.round).2
    have hmantissa : binary64.mantissa (d.coefficient * 10 ^ d.exponent.toNat)
        (10 ^ (-d.exponent).toNat) = 0 := by
      simp [Format.mantissa, scale, roundEven, hd]
    rw [hmantissa, Nat.cast_zero, zero_mul] at hvalue
    exact hvalue
  have hrounded (exponent : Int) : (roundedAt x exponent).coefficient = 0 :=
    roundedAt_coefficient (by simp [hsize])
  rw [shortest_eq]
  cases hfound : (List.range 20).findSome? fun dropped =>
      readBack x (roundedAt x (digitBound x - (dropped : Nat))) with
  | none => rfl
  | some found =>
    obtain ⟨k, -, hk⟩ := List.exists_of_findSome?_eq_some hfound
    rw [Option.getD_some, (readBack_eq_some hk).1, hrounded]

/-- A positive number of at most 15 digits has exactly 15 after zeros are appended. -/
theorem fifteen_digits {c : Nat} (hpos : 0 < c) (hc : c < 10 ^ 15) :
    ∃ zeros ≤ 14, 10 ^ 14 ≤ c * 10 ^ zeros ∧ c * 10 ^ zeros < 10 ^ 15 := by
  have hlog := Nat.lt_pow_succ_log_self (by decide : 1 < 10) c
  have hlog' := Nat.pow_log_le_self 10 hpos.ne'
  have hlt : Nat.log 10 c < 15 := Nat.log_lt_of_lt_pow hpos.ne' hc
  refine ⟨14 - Nat.log 10 c, by omega, ?_, ?_⟩
  · calc 10 ^ 14 = 10 ^ Nat.log 10 c * 10 ^ (14 - Nat.log 10 c) := by
          rw [← pow_add]
          congr 1
          omega
      _ ≤ c * 10 ^ (14 - Nat.log 10 c) := Nat.mul_le_mul_right _ hlog'
  · calc c * 10 ^ (14 - Nat.log 10 c) < 10 ^ (Nat.log 10 c + 1) * 10 ^ (14 - Nat.log 10 c) :=
          Nat.mul_lt_mul_of_pos_right hlog (by positivity)
      _ = 10 ^ 15 := by
          rw [← pow_add]
          congr 1
          omega

/-- **A decimal of at most 15 significant digits is read and written without loss.** -/
theorem toNumber_ofDecimal {d : Decimal} {c : Nat} {e : Int} (hc : c < 10 ^ 15) (he : -270 ≤ e)
    (he' : e ≤ 290) (hd : magnitude d = c * (10 : ℚ) ^ e) :
    (ofDecimal d).isFinite = true ∧ ∃ n, toNumber (ofDecimal d) = some n ∧ n.toRat = d.toRat := by
  have hfinite : (ofDecimal d).isFinite = true := by
    apply ofDecimal_finite
    rw [abs_toRat]
    have hbound : (10 : ℚ) ^ 305 < 2 ^ 1023 := by
      exact_mod_cast (by decide +kernel : 10 ^ 305 < 2 ^ 1023)
    calc magnitude d = c * (10 : ℚ) ^ e := hd
      _ ≤ (10 : ℚ) ^ 15 * (10 : ℚ) ^ (290 : Int) := by
          apply mul_le_mul
          · exact_mod_cast hc.le
          · exact zpow_le_zpow_right₀ (by norm_num) he'
          · positivity
          · positivity
      _ = (10 : ℚ) ^ 305 := by
          rw [zpow_ofNat, ← pow_add]
      _ < 2 ^ 1023 := hbound
  refine ⟨hfinite, ?_⟩
  cases hx : ofDecimal d with
  | infinite neg => rw [hx] at hfinite; cases hfinite
  | nan => rw [hx] at hfinite; cases hfinite
  | finite x low high =>
    have hreads : Reads d x := ⟨low, high, hx⟩
    obtain ⟨n, hn, hrat⟩ := toNumber_finite x low high
    refine ⟨n, hn, hrat.trans ?_⟩
    rcases Nat.eq_zero_or_pos c with rfl | hpos
    · have hzero : d.coefficient = 0 := by
        rw [magnitude, Nat.cast_zero, zero_mul, mul_eq_zero] at hd
        exact_mod_cast hd.resolve_right (by positivity)
      rw [Decimal.toRat, Decimal.toRat, shortest_of_zero hreads hzero, hzero]
      simp
    · obtain ⟨zeros, hzeros, hlow, hhigh⟩ := fifteen_digits hpos hc
      have hscaled : magnitude d = (c * 10 ^ zeros : Nat) * (10 : ℚ) ^ (e - zeros) := by
        rw [hd, zpow_sub₀ (by norm_num), zpow_natCast]
        push_cast
        rw [mul_assoc, mul_div_cancel₀ _ (by positivity)]
      obtain ⟨hneg, hmagnitude⟩ := shortest_of_reads hreads hlow hhigh (by omega) hscaled
      rw [toRat_eq_magnitude, toRat_eq_magnitude, hmagnitude, Decimal.sign, hneg, Decimal.sign]

end Binary64

end Binary
