import SuperhumanDocs.Binary.Rounding
import SuperhumanDocs.Json.Number

/-!
# The operations of `f64`

`F64` lists the operations on floating-point numbers a program uses; `IeeeF64` adds what binary64
guarantees about them: finite numbers are those of the format, a decimal the format represents is
read exactly, and one in range is read as a finite number. `Binary64` is the type of binary64
values with correctly rounded operations.
-/

namespace Binary

open Json (Decimal Number)

/-- The operations on a floating-point type. -/
class F64 (F : Type) where
  /-- The number a decimal is read as. -/
  ofDecimal : Decimal → F
  /-- The infinities and NaN, by name. -/
  special : String → Option F
  isFinite : F → Bool
  div : F → F → F
  /-- The shortest decimal, without an exponent. -/
  display : F → String
  /-- The JSON number of a finite number, in some notation. -/
  toNumber : F → Option Number

/-- Read a decimal literal or the name of a special value. -/
def F64.parse {F : Type} [F64 F] (s : String) : Option F :=
  match Json.lex s.toList with
  | some l => if l.hasDigits then some (ofDecimal l.decimal) else none
  | none => special s

def binary64 : Format := ⟨53, -1074, 971, by decide⟩

/-- Floating-point numbers of the binary64 format. -/
class IeeeF64 (F : Type) extends F64 F where
  toRat : F → ℚ
  represents : ∀ x, isFinite x = true → binary64.Represents (toRat x)
  ofDecimal_exact : ∀ d : Decimal, binary64.Represents d.toRat →
    isFinite (ofDecimal d) = true ∧ toRat (ofDecimal d) = d.toRat
  ofDecimal_finite : ∀ d : Decimal, |d.toRat| < 2 ^ 1023 → isFinite (ofDecimal d) = true

/-- **Reading a decimal is exact on the numbers of the format only.** -/
theorem IeeeF64.ofDecimal_exact_iff {F : Type} [IeeeF64 F] {d : Decimal} (h : |d.toRat| < 2 ^ 1023) :
    IeeeF64.toRat (F64.ofDecimal d : F) = d.toRat ↔ binary64.Represents d.toRat := by
  constructor
  · intro hd
    rw [← hd]
    exact IeeeF64.represents _ (IeeeF64.ofDecimal_finite d h)
  · exact fun hd => (IeeeF64.ofDecimal_exact d hd).2

/-! ## Binary64 values -/

inductive Binary64 where
  | finite (x : Finite binary64) (low : -1074 ≤ x.exponent) (high : x.exponent ≤ 971)
  | infinite (neg : Bool)
  | nan
deriving DecidableEq

namespace Binary64

theorem exponent_ge (num den : Nat) : -1074 ≤ binary64.exponent num den := by
  have hmin : binary64.minExponent = -1074 := rfl
  unfold Format.exponent
  extract_lets e
  have he : -1074 ≤ e := by rw [← hmin]; exact le_max_right _ _
  split
  · rw [hmin]
  · split <;> omega

theorem round_range {neg : Bool} {num den : Nat} {x : Finite binary64}
    (h : binary64.round neg num den = some x) : -1074 ≤ x.exponent ∧ x.exponent ≤ 971 := by
  have hge := exponent_ge num den
  simp only [Format.round] at h
  split at h
  · split at h
    · rename_i hle
      cases h
      exact ⟨hge, hle⟩
    · cases h
  · split at h
    · rename_i hle
      cases h
      exact ⟨Int.le_trans hge (by simp), hle⟩
    · cases h

/-- The binary64 value nearest to `± num / den`. -/
def ofFraction (neg : Bool) (num den : Nat) : Binary64 :=
  match h : binary64.round neg num den with
  | some x => .finite x (round_range h).1 (round_range h).2
  | none => .infinite neg

theorem ofFraction_eq {neg : Bool} {num den : Nat} {x : Finite binary64}
    (h : binary64.round neg num den = some x) :
    ofFraction neg num den = .finite x (round_range h).1 (round_range h).2 := by
  unfold ofFraction
  split
  · rename_i h'; rw [h] at h'; cases h'; rfl
  · rename_i h'; rw [h] at h'; cases h'

def ofDecimal (d : Decimal) : Binary64 :=
  ofFraction d.neg (d.coefficient * 10 ^ d.exponent.toNat) (10 ^ (-d.exponent).toNat)

def isFinite : Binary64 → Bool
  | finite _ _ _ => true
  | _ => false

/-- The value of a finite number. -/
def toRat : Binary64 → ℚ
  | finite x _ _ => x.toRat
  | _ => 0

def special (s : String) : Option Binary64 :=
  let (neg, name) := match s.toLower.toList with
    | '-' :: cs => (true, cs)
    | '+' :: cs => (false, cs)
    | cs => (false, cs)
  if name = "inf".toList ∨ name = "infinity".toList then some (.infinite neg)
  else if name = "nan".toList then some .nan
  else none

/-- Division, correctly rounded. -/
def div : Binary64 → Binary64 → Binary64
  | nan, _ | _, nan => nan
  | infinite _, infinite _ => nan
  | infinite a, finite y _ _ => infinite (a != y.neg)
  | finite x _ _, infinite b => ofFraction (x.neg != b) 0 1
  | finite x _ _, finite y _ _ =>
    if y.mantissa = 0 then if x.mantissa = 0 then nan else infinite (x.neg != y.neg)
    else
      let (num, den) := scale x.mantissa y.mantissa (y.exponent - x.exponent)
      ofFraction (x.neg != y.neg) num den

/-- The shortest decimal that reads as the number. -/
def shortest (x : Finite binary64) : Decimal :=
  let (num, den) := scale x.mantissa 1 (-x.exponent)
  let digits : Int := (Nat.toDigits 10 num).length - (Nat.toDigits 10 den).length + 1
  let candidate (dropped : Nat) : Option Decimal :=
    let exponent := digits - dropped
    let coefficient := roundEven (num * 10 ^ (-exponent).toNat) (den * 10 ^ exponent.toNat)
    let d : Decimal := ⟨x.neg, coefficient, exponent⟩
    match ofDecimal d with
    | finite y _ _ => if y = x then some d else none
    | _ => none
  ((List.range 20).findSome? candidate).getD ⟨x.neg, 0, 0⟩

/-- The signed coefficient of a decimal. -/
def signed (d : Decimal) : Int := if d.neg then -d.coefficient else d.coefficient

def display : Binary64 → String
  | nan => "NaN"
  | infinite neg => if neg then "-inf" else "inf"
  | finite x _ _ =>
    if x.mantissa = 0 then if x.neg then "-0" else "0"
    else
      let d := shortest x
      String.ofList (Json.decimalText (signed d * 10 ^ d.exponent.toNat) (-d.exponent).toNat)

/-- The number in fixed point: what is relied on is its value, not how it is written. -/
def toNumber : Binary64 → Option Number
  | finite x _ _ =>
    let d := shortest x
    if 0 ≤ d.exponent then some (.ofFixed (signed d * 10 ^ (d.exponent.toNat + 1)) 1)
    else some (.ofFixed (signed d) (-d.exponent).toNat)
  | _ => none

theorem exp_toNumber {x : Binary64} {n : Number} (h : toNumber x = some n) :
    n.lexeme.exp = none := by
  cases x with
  | finite x low high =>
    simp only [toNumber] at h
    split at h <;> rw [← Option.some.inj h] <;> exact Number.exp_ofFixed ..
  | infinite neg => cases h
  | nan => cases h

/-! ## Exactness -/

theorem represents {x : Binary64} (h : x.isFinite = true) : binary64.Represents x.toRat := by
  cases x with
  | finite x low high => exact x.represents low high
  | infinite neg => cases h
  | nan => cases h

/-- The fraction of a decimal. -/
theorem decimal_div (d : Decimal) :
    ((d.coefficient * 10 ^ d.exponent.toNat : Nat) : ℚ) / (10 ^ (-d.exponent).toNat : Nat) =
      d.coefficient * (10 : ℚ) ^ d.exponent := by
  push_cast
  rw [mul_div_assoc]
  congr 1
  rcases le_total 0 d.exponent with h | h
  · rw [show (-d.exponent).toNat = 0 by omega, pow_zero, div_one, ← zpow_natCast]
    congr 1
    omega
  · rw [show d.exponent.toNat = 0 by omega, pow_zero, one_div, ← zpow_natCast, ← zpow_neg]
    congr 1
    omega

theorem abs_toRat (d : Decimal) : |d.toRat| = d.coefficient * (10 : ℚ) ^ d.exponent := by
  have hsign : |d.sign| = 1 := by unfold Decimal.sign; split <;> norm_num
  rw [Decimal.toRat, abs_mul, abs_mul, hsign, one_mul, Nat.abs_cast,
    abs_of_pos (zpow_pos (by norm_num : (0 : ℚ) < 10) d.exponent)]

/-- **A decimal of the format is read exactly.** -/
theorem ofDecimal_exact (d : Decimal) (h : binary64.Represents d.toRat) :
    (ofDecimal d).isFinite = true ∧ (ofDecimal d).toRat = d.toRat := by
  obtain ⟨m, e, hm, he, he', hd⟩ := h
  have habs : (d.coefficient : ℚ) * (10 : ℚ) ^ d.exponent = m.natAbs * (2 : ℚ) ^ e := by
    rw [← abs_toRat, hd, abs_mul, abs_of_pos (zpow_pos (by norm_num : (0 : ℚ) < 2) e),
      ← Int.cast_abs, Int.abs_eq_natAbs, Int.cast_natCast]
  obtain ⟨x, hx, hneg, hval⟩ := @Format.round_exact binary64
    (d.coefficient * 10 ^ d.exponent.toNat) (10 ^ (-d.exponent).toNat) d.neg (by positivity)
    m.natAbs e (by rw [Int.abs_eq_natAbs] at hm; exact_mod_cast hm) he he' ((decimal_div d).trans habs)
  rw [ofDecimal, ofFraction_eq hx]
  refine ⟨rfl, ?_⟩
  rw [decimal_div] at hval
  rw [toRat, Finite.toRat, Finite.significand, hneg, Decimal.toRat, Decimal.sign, mul_assoc, ← hval]
  split <;> simp

theorem ofDecimal_finite (d : Decimal) (h : |d.toRat| < 2 ^ 1023) :
    (ofDecimal d).isFinite = true := by
  have hrange : ((d.coefficient * 10 ^ d.exponent.toNat : Nat) : ℚ) /
      (10 ^ (-d.exponent).toNat : Nat) <
        (2 : ℚ) ^ (binary64.maxExponent - 1 + binary64.precision) := by
    rw [decimal_div, ← abs_toRat]
    exact h
  obtain ⟨x, hx⟩ := Format.round_in_range d.neg (by positivity) (by decide) hrange
  rw [ofDecimal, ofFraction_eq hx]
  rfl

instance : IeeeF64 Binary64 where
  ofDecimal := ofDecimal
  special := special
  isFinite := isFinite
  div := div
  display := display
  toNumber := toNumber
  toRat := toRat
  represents _ h := represents h
  ofDecimal_exact := ofDecimal_exact
  ofDecimal_finite := ofDecimal_finite

example : (F64.parse "12.5" : Option Binary64).map
    (fun x => F64.display (F64.div x (ofDecimal ⟨false, 100, 0⟩))) = some "0.125" := by
  decide +kernel

end Binary64

end Binary
