import SuperhumanDocs.Binary.Binary64

/-!
# Exact arithmetic

`ExactF64` lists what a program may rely on if floating-point numbers were the rational numbers:
decimals are read exactly, division is exact, and a number with a finite decimal expansion is
displayed as that. `ℚ` is an instance.
-/

set_option autoImplicit false

namespace Binary

open Json (Decimal Number)

/-- The text is a literal of the number. -/
def LiteralOf (q : ℚ) (text : String) : Prop :=
  ∃ l, Json.lex text.toList = some l ∧ l.hasDigits = true ∧ l.decimal.toRat = q

theorem LiteralOf.unique {p q : ℚ} {text : String} (hp : LiteralOf p text)
    (hq : LiteralOf q text) : p = q := by
  obtain ⟨l, hl, -, rfl⟩ := hp
  obtain ⟨m, hm, -, rfl⟩ := hq
  rw [hl, Option.some.injEq] at hm
  rw [hm]

/-- A literal is read, with the value of its decimal. -/
theorem F64.parse_of_lex {F : Type} [F64 F] {s : String} {l : Json.Lexeme}
    (hlex : Json.lex s.toList = some l) (hdigits : l.hasDigits = true) :
    (F64.parse s : Option F) = some (F64.ofDecimal l.decimal) := by
  simp only [F64.parse, hlex, hdigits, if_true]

class ExactF64 (F : Type) extends F64 F where
  toRat : F → ℚ
  ofDecimal_toRat : ∀ d : Decimal, toRat (ofDecimal d) = d.toRat
  div_toRat : ∀ x y : F, toRat y ≠ 0 → toRat (div x y) = toRat x / toRat y
  /-- No special value has a digit in its name. -/
  special_digit : ∀ (s : String), (∃ c ∈ s.toList, c.isDigit = true) → special s = none
  display_decimal : ∀ (x : F) (z : Int) (scale : Nat), toRat x = z / 10 ^ scale →
    LiteralOf (toRat x) (display x)

/-- A text with a digit that is no literal is not read. -/
theorem ExactF64.parse_of_lex_none {F : Type} [ExactF64 F] {s : String}
    (hlex : Json.lex s.toList = none) (hdigit : ∃ c ∈ s.toList, c.isDigit = true) :
    (F64.parse s : Option F) = none := by
  rw [F64.parse, hlex]
  exact ExactF64.special_digit s hdigit

/-! ## The rational numbers -/

namespace Exact

/-- A divisor of a power of ten divides one of no higher exponent than itself. -/
theorem dvd_ten_pow {d e : Nat} (h : d ∣ 10 ^ e) : d ∣ 10 ^ d := by
  induction d using Nat.strong_induction_on with
  | _ d ih =>
    by_cases hone : d ≤ 1
    · have hpos : 0 < d := Nat.pos_of_dvd_of_pos h (by positivity)
      rw [show d = 1 by omega]
      exact one_dvd _
    · -- the common factor with ten goes, and the rest divides a lower power
      obtain ⟨c, hc⟩ := Nat.gcd_dvd_left d 10
      have hgcd : Nat.gcd d 10 ≠ 1 := by
        intro hcoprime
        have := Nat.Coprime.eq_one_of_dvd (Nat.Coprime.pow_right e hcoprime) h
        omega
      have hgpos : 0 < Nat.gcd d 10 := Nat.gcd_pos_of_pos_right d (by decide)
      have hcpos : 0 < c := by
        apply Nat.pos_of_ne_zero
        rintro rfl
        omega
      have hlt : c < d := by
        have hdouble : 2 * c ≤ Nat.gcd d 10 * c := Nat.mul_le_mul_right c (by omega)
        omega
      have hrest := ih c hlt ((Dvd.intro_left _ hc.symm).trans h)
      have hten : d ∣ 10 ^ (c + 1) := by
        rw [hc, pow_succ, Nat.mul_comm]
        exact Nat.mul_dvd_mul hrest (Nat.gcd_dvd_right d 10)
      exact hten.trans (Nat.pow_dvd_pow 10 hlt)

/-- The number in fixed point, if it has a finite decimal expansion. -/
def decimalOf (q : ℚ) : Option Number :=
  ((List.range (q.den + 1)).find? fun scale => q.den ∣ 10 ^ scale).map fun scale =>
    Number.ofFixed (q.num * (10 ^ scale / q.den : Nat)) scale

theorem decimalOf_spec {q : ℚ} {z : Int} {scale : Nat} (h : q = z / 10 ^ scale) :
    ∃ n, decimalOf q = some n ∧ n.toRat = q := by
  have hdvd : q.den ∣ 10 ^ scale := by
    have := Rat.den_dvd z (10 ^ scale)
    rw [h]
    exact_mod_cast this
  have hfound : ((List.range (q.den + 1)).find? fun scale => q.den ∣ 10 ^ scale).isSome := by
    rw [List.find?_isSome]
    exact ⟨q.den, by simp, by simpa using dvd_ten_pow hdvd⟩
  obtain ⟨found, hfound⟩ := Option.isSome_iff_exists.1 hfound
  have hdivides : q.den ∣ 10 ^ found := by simpa using List.find?_some hfound
  refine ⟨_, by rw [decimalOf, hfound, Option.map_some], ?_⟩
  obtain ⟨c, hc⟩ := hdivides
  have hten : (10 : ℚ) ^ found = q.den * c := by exact_mod_cast hc
  have hc0 : (c : ℚ) ≠ 0 := by
    rintro hzero
    rw [hzero, mul_zero] at hten
    exact absurd hten (by positivity)
  rw [Number.toRat_ofFixed, hten, hc, Nat.mul_div_cancel_left _ q.den_pos]
  push_cast
  rw [mul_div_mul_right _ _ hc0]
  exact Rat.num_div_den q

theorem literalOf_number (n : Number) : LiteralOf n.toRat n.text :=
  ⟨n.lexeme, n.lex_text, Json.Lexeme.hasDigits_of_isJson n.lexeme_isJson, rfl⟩

instance : ExactF64 ℚ where
  ofDecimal := Decimal.toRat
  special _ := none
  isFinite _ := true
  div := (· / ·)
  display q := (decimalOf q).elim "" Number.text
  toNumber := decimalOf
  toRat := id
  ofDecimal_toRat _ := rfl
  div_toRat _ _ _ := rfl
  special_digit _ _ := rfl
  display_decimal q z scale h := by
    obtain ⟨n, hn, hq⟩ := decimalOf_spec (show q = z / 10 ^ scale from h)
    show LiteralOf q ((decimalOf q).elim "" Number.text)
    rw [hn, Option.elim_some, ← hq]
    exact literalOf_number n

end Exact

end Binary
