import Mathlib.Algebra.Order.Field.Power
import Mathlib.Data.Rat.Cast.Order
import Mathlib.Tactic.Positivity
import Mathlib.Tactic.Ring

/-!
# Binary floating point

A `Format` has a precision and a range of exponents; its finite numbers are `± m * 2 ^ e` with a
mantissa `m` below `2 ^ precision`. `Format.round` rounds a fraction to the nearest of them, ties
to an even mantissa.

* `Format.round_exact`: a fraction that the format represents is not changed by rounding.
* `Format.round_in_range`: a fraction well below the largest number has a rounded value.
-/

namespace Binary

/-- A binary format; the exponents are those of an integer mantissa. -/
structure Format where
  precision : Nat
  minExponent : Int
  maxExponent : Int
  precision_pos : 0 < precision

/-- A finite number of a format. -/
structure Finite (fmt : Format) where
  neg : Bool
  mantissa : Nat
  exponent : Int
  bound : mantissa < 2 ^ fmt.precision
deriving DecidableEq

/-- The signed mantissa. -/
def Finite.significand {fmt : Format} (x : Finite fmt) : Int :=
  if x.neg then -x.mantissa else x.mantissa

def Finite.toRat {fmt : Format} (x : Finite fmt) : ℚ := x.significand * (2 : ℚ) ^ x.exponent

/-- The format has a number of this value. -/
def Format.Represents (fmt : Format) (q : ℚ) : Prop :=
  ∃ (m : Int) (e : Int), |m| < 2 ^ fmt.precision ∧ fmt.minExponent ≤ e ∧ e ≤ fmt.maxExponent ∧
    q = m * (2 : ℚ) ^ e

/-! ## Rounding -/

/-- The integer nearest to `num / den`, the even one of two. -/
def roundEven (num den : Nat) : Nat :=
  if 2 * (num % den) < den ∨ (2 * (num % den) = den ∧ num / den % 2 = 0) then num / den
  else num / den + 1

theorem roundEven_mul (n : Nat) {den : Nat} (h : 0 < den) : roundEven (n * den) den = n := by
  simp [roundEven, h]

/-- Numerator and denominator of `num / den / 2 ^ e`. -/
def scale (num den : Nat) (e : Int) : Nat × Nat := (num * 2 ^ (-e).toNat, den * 2 ^ e.toNat)

theorem scale_pos (num : Nat) {den : Nat} (e : Int) (h : 0 < den) : 0 < (scale num den e).2 :=
  Nat.mul_pos h (by positivity)

theorem scale_div (num den : Nat) (e : Int) :
    ((scale num den e).1 : ℚ) / (scale num den e).2 = num / den / (2 : ℚ) ^ e := by
  simp only [scale, Nat.cast_mul, Nat.cast_pow, Nat.cast_ofNat]
  rcases le_total 0 e with h | h
  · lift e to ℕ using h
    have : (-(e : Int)).toNat = 0 := by omega
    simp only [this, pow_zero, mul_one, Int.toNat_natCast, zpow_natCast]
    rw [div_div]
  · obtain ⟨n, rfl⟩ : ∃ n : ℕ, e = -n := ⟨(-e).toNat, by omega⟩
    have : (-(n : Int)).toNat = 0 := by omega
    simp only [this, pow_zero, mul_one, neg_neg, Int.toNat_natCast, zpow_neg, zpow_natCast,
      div_inv_eq_mul]
    ring

/-- `num / den` is below `2 ^ k`. -/
def below (num den : Nat) (k : Int) : Bool := decide ((scale num den k).1 < (scale num den k).2)

theorem below_iff (num : Nat) {den : Nat} (k : Int) (h : 0 < den) :
    below num den k = true ↔ (num / den : ℚ) < (2 : ℚ) ^ k := by
  have hs : (0 : ℚ) < (scale num den k).2 := by exact_mod_cast scale_pos num k h
  have hk : (0 : ℚ) < (2 : ℚ) ^ k := by positivity
  rw [below, decide_eq_true_iff, ← div_lt_one hk, ← scale_div, div_lt_one hs, Nat.cast_lt]

/-- The exponent of the rounded mantissa of `num / den`. -/
def Format.exponent (fmt : Format) (num den : Nat) : Int :=
  let e := max (num.log2 - den.log2 - fmt.precision : Int) fmt.minExponent
  if num = 0 then fmt.minExponent else if below num den (e + fmt.precision) then e else e + 1

/-- Round `± num / den` to the format; `none` when it is out of range. -/
def Format.round (fmt : Format) (neg : Bool) (num den : Nat) : Option (Finite fmt) :=
  let e := fmt.exponent num den
  let m := roundEven (scale num den e).1 (scale num den e).2
  if h : m < 2 ^ fmt.precision then
    if e ≤ fmt.maxExponent then some ⟨neg, m, e, h⟩ else none
  else if e + 1 ≤ fmt.maxExponent then
    some ⟨neg, 2 ^ (fmt.precision - 1), e + 1, Nat.pow_lt_pow_right (by decide)
      (Nat.sub_lt fmt.precision_pos Nat.one_pos)⟩
  else none

/-! ## Representable fractions -/

section
variable {fmt : Format} {num den : Nat}

theorem log2_bounds {n : Nat} (h : 0 < n) :
    (2 : ℚ) ^ (n.log2 : Int) ≤ n ∧ (n : ℚ) < (2 : ℚ) ^ (n.log2 + 1 : Int) := by
  constructor
  · rw [zpow_natCast]; exact_mod_cast Nat.log2_self_le (by omega)
  · rw [show (n.log2 + 1 : Int) = ((n.log2 + 1 : Nat) : Int) by simp, zpow_natCast]
    exact_mod_cast Nat.lt_log2_self

/-- The fraction lies between two powers of two that its bit lengths give. -/
theorem div_bounds (hn : 0 < num) (hd : 0 < den) :
    (2 : ℚ) ^ (num.log2 - den.log2 - 1 : Int) < num / den ∧
      (num / den : ℚ) < (2 : ℚ) ^ (num.log2 - den.log2 + 1 : Int) := by
  have hnum := log2_bounds hn
  have hden := log2_bounds hd
  have hd' : (0 : ℚ) < den := by exact_mod_cast hd
  constructor
  · rw [lt_div_iff₀ hd']
    calc (2 : ℚ) ^ (num.log2 - den.log2 - 1 : Int) * den
        < (2 : ℚ) ^ (num.log2 - den.log2 - 1 : Int) * (2 : ℚ) ^ (den.log2 + 1 : Int) :=
          mul_lt_mul_of_pos_left hden.2 (by positivity)
      _ = (2 : ℚ) ^ (num.log2 : Int) := by
          rw [← zpow_add₀ (by norm_num)]; congr 1; ring
      _ ≤ num := hnum.1
  · rw [div_lt_iff₀ hd']
    calc (num : ℚ) < (2 : ℚ) ^ (num.log2 + 1 : Int) := hnum.2
      _ = (2 : ℚ) ^ (num.log2 - den.log2 + 1 : Int) * (2 : ℚ) ^ (den.log2 : Int) := by
          rw [← zpow_add₀ (by norm_num)]; congr 1; ring
      _ ≤ (2 : ℚ) ^ (num.log2 - den.log2 + 1 : Int) * den :=
          mul_le_mul_of_nonneg_left hden.1 (by positivity)

theorem two_zpow_lt_iff {a b : Int} : (2 : ℚ) ^ a < (2 : ℚ) ^ b ↔ a < b :=
  zpow_lt_zpow_iff_right₀ (by norm_num)

/-- The exponent leaves a mantissa of the format. -/
theorem div_lt_exponent (hn : 0 < num) (hd : 0 < den) :
    (num / den : ℚ) < (2 : ℚ) ^ (fmt.exponent num den + fmt.precision) := by
  have hb := (div_bounds hn hd).2
  simp only [Format.exponent, if_neg hn.ne']
  split
  · rename_i h; exact (below_iff num _ hd).1 h
  · refine lt_of_lt_of_le hb (zpow_le_zpow_right₀ (by norm_num) ?_)
    have := le_max_left (num.log2 - den.log2 - fmt.precision : Int) fmt.minExponent
    omega

/-- The exponent is no larger than that of any representation. -/
theorem exponent_le (hn : 0 < num) (hd : 0 < den) {e : Int} (he : fmt.minExponent ≤ e)
    (h : (num / den : ℚ) < (2 : ℚ) ^ (e + fmt.precision)) : fmt.exponent num den ≤ e := by
  have hb := two_zpow_lt_iff.1 ((div_bounds hn hd).1.trans h)
  simp only [Format.exponent, if_neg hn.ne']
  split
  · omega
  · rename_i hbelow
    have hlt : ¬ (num / den : ℚ) < _ := fun hc => hbelow ((below_iff num _ hd).2 hc)
    have := two_zpow_lt_iff.1 (lt_of_le_of_lt (not_lt.1 hlt) h)
    omega

/-- A fraction that is an integer at the chosen exponent is not changed by rounding. -/
theorem round_of_integer (neg : Bool) (hd : 0 < den) {n : Nat} (hn : n < 2 ^ fmt.precision)
    (he : fmt.exponent num den ≤ fmt.maxExponent)
    (h : (num / den : ℚ) = n * (2 : ℚ) ^ fmt.exponent num den) :
    fmt.round neg num den = some ⟨neg, n, fmt.exponent num den, hn⟩ := by
  have hs := scale_pos num (fmt.exponent num den) hd
  have hdiv : ((scale num den (fmt.exponent num den)).1 : ℚ) =
      n * (scale num den (fmt.exponent num den)).2 := by
    rw [← div_eq_iff (by exact_mod_cast hs.ne'), scale_div, h, mul_div_assoc, div_self, mul_one]
    exact (zpow_pos (by norm_num) _).ne'
  have hm : roundEven (scale num den (fmt.exponent num den)).1
      (scale num den (fmt.exponent num den)).2 = n := by
    rw [show (scale num den (fmt.exponent num den)).1 = _ by exact_mod_cast hdiv]
    exact roundEven_mul n hs
  simp only [Format.round, hm, dif_pos hn, if_pos he]

/-- **Rounding keeps a number of the format.** -/
theorem Format.round_exact (neg : Bool) (hd : 0 < den) {m : Nat} {e : Int}
    (hm : m < 2 ^ fmt.precision) (he : fmt.minExponent ≤ e) (he' : e ≤ fmt.maxExponent)
    (h : (num / den : ℚ) = m * (2 : ℚ) ^ e) :
    ∃ x : Finite fmt, fmt.round neg num den = some x ∧ x.neg = neg ∧
      (x.mantissa : ℚ) * (2 : ℚ) ^ x.exponent = num / den := by
  rcases Nat.eq_zero_or_pos num with rfl | hn
  · have hexp : fmt.exponent 0 den = fmt.minExponent := by simp [Format.exponent]
    have hround := @round_of_integer fmt 0 den neg hd 0 (by positivity) (by omega) (by simp)
    exact ⟨_, hround, rfl, by simp⟩
  · have hp (k : Int) : (2 : ℚ) ^ (k + fmt.precision) = 2 ^ fmt.precision * (2 : ℚ) ^ k := by
      rw [zpow_add₀ (by norm_num), zpow_natCast, mul_comm]
    have hpos (k : Int) : (0 : ℚ) < (2 : ℚ) ^ k := zpow_pos (by norm_num) k
    have hlt : (num / den : ℚ) < (2 : ℚ) ^ (e + fmt.precision) := by
      rw [h, hp]
      exact mul_lt_mul_of_pos_right (by exact_mod_cast hm) (hpos e)
    have hle := exponent_le hn hd he hlt
    -- the same number at the chosen, smaller exponent
    have hn' : (num / den : ℚ) = (m * 2 ^ (e - fmt.exponent num den).toNat : Nat) *
        (2 : ℚ) ^ fmt.exponent num den := by
      rw [h, Nat.cast_mul, Nat.cast_pow, Nat.cast_ofNat, ← zpow_natCast, mul_assoc,
        ← zpow_add₀ (by norm_num)]
      congr 2
      omega
    have hbound : m * 2 ^ (e - fmt.exponent num den).toNat < 2 ^ fmt.precision := by
      have := @div_lt_exponent fmt num den hn hd
      rw [hn', hp, mul_lt_mul_iff_left₀ (hpos _)] at this
      exact_mod_cast this
    exact ⟨_, round_of_integer neg hd hbound (by omega) hn', rfl, hn'.symm⟩

/-- **A fraction in range has a rounded value**, also when the mantissa is rounded up to the next
power of two. -/
theorem Format.round_in_range (neg : Bool) (hd : 0 < den)
    (hrange : fmt.minExponent < fmt.maxExponent)
    (h : (num / den : ℚ) < (2 : ℚ) ^ (fmt.maxExponent - 1 + fmt.precision)) :
    ∃ x, fmt.round neg num den = some x := by
  have he : fmt.exponent num den ≤ fmt.maxExponent - 1 := by
    rcases Nat.eq_zero_or_pos num with rfl | hn
    · rw [show fmt.exponent 0 den = fmt.minExponent by simp [Format.exponent]]
      omega
    · exact exponent_le hn hd (by omega) h
  simp only [Format.round]
  split
  · rw [if_pos (by omega)]
    exact ⟨_, rfl⟩
  · rw [if_pos (by omega)]
    exact ⟨_, rfl⟩

end

/-! ## Values -/

theorem Finite.represents {fmt : Format} (x : Finite fmt) (h : fmt.minExponent ≤ x.exponent)
    (h' : x.exponent ≤ fmt.maxExponent) : fmt.Represents x.toRat := by
  refine ⟨x.significand, x.exponent, ?_, h, h', rfl⟩
  have : |x.significand| = x.mantissa := by
    unfold Finite.significand
    split
    · rw [abs_neg, abs_of_nonneg (by omega)]
    · rw [abs_of_nonneg (by omega)]
  rw [this]
  exact_mod_cast x.bound

end Binary
