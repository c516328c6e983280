import Mathlib.Data.List.TakeWhile
import Mathlib.Data.Rat.Cast.Order
import Mathlib.Tactic.Positivity
import Mathlib.Tactic.Ring

/-!
# Decimal literals and JSON numbers

`lex` splits a number literal into its sign, integer digits, fraction and exponent; a `Decimal`
is the exact value such a literal denotes. A JSON `Number` keeps the literal it was written as
(an arbitrary-precision number): the grammar of RFC 8259 is a field, so every `Number` has a
value (`Number.toRat`).

* `lex_text`: a lexed literal is read back from its parts (`lex_signed`); one with two points is
  none (`lex_points`).
* `Number.ofInt`, `toRat_ofInt`: integers are numbers.
* `Number.ofFixed`, `toRat_ofFixed`: fixed-point decimals are numbers.
-/

namespace Json

/-! ## Decimals -/

/-- The decimal `(-1) ^ neg * coefficient * 10 ^ exponent`. -/
structure Decimal where
  neg : Bool
  coefficient : Nat
  exponent : Int
deriving DecidableEq, Repr

/-- The sign of a decimal as a factor. -/
def Decimal.sign (d : Decimal) : ℚ := if d.neg then -1 else 1

def Decimal.toRat (d : Decimal) : ℚ := d.sign * d.coefficient * (10 : ℚ) ^ d.exponent

/-! ## Literals -/

/-- The parts of a number literal; `frac` is `none` when there is no point. -/
structure Lexeme where
  sign : Option Char
  int : List Char
  frac : Option (List Char)
  exp : Option (Option Char × List Char)
deriving DecidableEq, Repr

/-- An optional sign. -/
def lexSign : List Char → Option Char × List Char
  | '+' :: cs => (some '+', cs)
  | '-' :: cs => (some '-', cs)
  | cs => (none, cs)

/-- A run of digits. -/
def lexDigits (cs : List Char) : List Char × List Char :=
  (cs.takeWhile Char.isDigit, cs.dropWhile Char.isDigit)

/-- A point and the digits after it. -/
def lexFrac : List Char → Option (List Char) × List Char
  | '.' :: cs => (some (lexDigits cs).1, (lexDigits cs).2)
  | cs => (none, cs)

/-- The exponent, up to the end of the literal. -/
def lexExp : List Char → Option (Option (Option Char × List Char))
  | [] => some none
  | c :: cs =>
    if c = 'e' ∨ c = 'E' then
      match (lexSign cs).2 with
      | [] => none
      | d :: ds => if (d :: ds).all Char.isDigit then some (some ((lexSign cs).1, d :: ds)) else none
    else none

/-- The parts of a number literal, if the whole text is one. -/
def lex (cs : List Char) : Option Lexeme :=
  let (sign, cs) := lexSign cs
  let (int, cs) := lexDigits cs
  let (frac, cs) := lexFrac cs
  (lexExp cs).map fun exp => { sign, int, frac, exp }

/-- The exponent an exponent part denotes. -/
def Lexeme.exponent (l : Lexeme) : Int :=
  match l.exp with
  | none => 0
  | some (some '-', ds) => -(Nat.ofDigitChars 10 ds 0 : Int)
  | some (_, ds) => Nat.ofDigitChars 10 ds 0

/-- The decimal a literal denotes. -/
def Lexeme.decimal (l : Lexeme) : Decimal where
  neg := l.sign == some '-'
  coefficient := Nat.ofDigitChars 10 (l.int ++ l.frac.getD []) 0
  exponent := l.exponent - (l.frac.getD []).length

/-- The literal has a digit before its exponent. -/
def Lexeme.hasDigits (l : Lexeme) : Bool := !l.int.isEmpty || !(l.frac.getD []).isEmpty

/-- The literal is a JSON number: no plus sign, an integer part without a leading zero, and
digits after a point. -/
def Lexeme.isJson (l : Lexeme) : Bool :=
  l.sign != some '+' && !l.int.isEmpty && (l.int.length == 1 || l.int.head? != some '0') &&
    l.frac != some []

theorem Lexeme.hasDigits_of_isJson {l : Lexeme} (h : l.isJson = true) : l.hasDigits = true := by
  simp only [Lexeme.isJson, Bool.and_eq_true] at h
  simp [Lexeme.hasDigits, h.1.1.2]

/-! ## Numbers -/

/-- The text is a JSON number. -/
def isNumber (s : String) : Bool :=
  match lex s.toList with
  | some l => l.isJson
  | none => false

/-- A JSON number, kept as the text it was written as. -/
structure Number where
  text : String
  valid : isNumber text = true
deriving DecidableEq

theorem Number.ext_text {m n : Number} (h : m.text = n.text) : m = n := by
  cases m; cases n; cases h; rfl

theorem isNumber_lex {s : String} (h : isNumber s = true) :
    ∃ l, lex s.toList = some l ∧ l.isJson = true := by
  unfold isNumber at h
  split at h
  · exact ⟨_, ‹_›, h⟩
  · cases h

/-- The parts of the number's text. -/
def Number.lexeme (n : Number) : Lexeme :=
  (lex n.text.toList).get (by obtain ⟨l, hl, -⟩ := isNumber_lex n.valid; simp [hl])

theorem Number.lex_text (n : Number) : lex n.text.toList = some n.lexeme := by
  simp [Number.lexeme]

/-- The exact value of the number. -/
def Number.toRat (n : Number) : ℚ := n.lexeme.decimal.toRat

theorem Number.toRat_eq {n : Number} {l : Lexeme} (h : lex n.text.toList = some l) :
    n.toRat = l.decimal.toRat := by
  have := n.lex_text
  rw [h, Option.some.injEq] at this
  rw [Number.toRat, this]

theorem Number.lexeme_isJson (n : Number) : n.lexeme.isJson = true := by
  obtain ⟨l, hl, hj⟩ := isNumber_lex n.valid
  have := n.lex_text
  rw [hl, Option.some.injEq] at this
  exact this ▸ hj

/-! ## Reading a literal back -/

/-- The characters of a number literal. -/
def isNumberChar (c : Char) : Bool :=
  c.isDigit || c == '+' || c == '-' || c == '.' || c == 'e' || c == 'E'

theorem isNumberChar_of_isDigit {c : Char} (h : c.isDigit = true) : isNumberChar c = true := by
  simp [isNumberChar, h]

theorem lexSign_chars (cs : List Char) :
    (lexSign cs).2 = cs ∨ ∃ c, cs = c :: (lexSign cs).2 ∧ (c = '+' ∨ c = '-') := by
  unfold lexSign
  split
  · exact .inr ⟨_, rfl, .inl rfl⟩
  · exact .inr ⟨_, rfl, .inr rfl⟩
  · exact .inl rfl

theorem lexExp_chars {cs : List Char} {e : Option (Option Char × List Char)}
    (h : lexExp cs = some e) : ∀ c ∈ cs, isNumberChar c = true := by
  cases cs with
  | nil => simp
  | cons c cs =>
    simp only [lexExp] at h
    split at h
    · rename_i hc
      have hds : ∀ d ∈ (lexSign cs).2, isNumberChar d = true := by
        split at h
        · cases h
        · rename_i d ds hs
          split at h
          · rename_i hall
            rw [hs]
            exact fun x hx => isNumberChar_of_isDigit (List.all_eq_true.1 hall x hx)
          · cases h
      intro x hx
      rcases List.mem_cons.1 hx with rfl | hx
      · rcases hc with rfl | rfl <;> rfl
      · rcases lexSign_chars cs with hs | ⟨s, hs, hsign⟩
        · exact hds x (by rw [hs]; exact hx)
        · rw [hs] at hx
          rcases List.mem_cons.1 hx with rfl | hx
          · rcases hsign with rfl | rfl <;> rfl
          · exact hds x hx
    · cases h

/-- There is no point in an exponent. -/
theorem lexExp_point {cs : List Char} {e : Option (Option Char × List Char)}
    (h : lexExp cs = some e) : '.' ∉ cs := by
  cases cs with
  | nil => simp
  | cons c cs =>
    by_cases hc : c = 'e' ∨ c = 'E'
    · rw [lexExp, if_pos hc] at h
      have hds : '.' ∉ (lexSign cs).2 := by
        intro hmem
        cases hs : (lexSign cs).2 with
        | nil => rw [hs] at hmem; cases hmem
        | cons d ds =>
          simp only [hs] at h hmem
          by_cases hall : (d :: ds).all Char.isDigit = true
          · exact absurd (List.all_eq_true.1 hall '.' hmem) (by decide)
          · rw [if_neg hall] at h
            cases h
      have hne : '.' ≠ c := by rcases hc with rfl | rfl <;> decide
      rcases lexSign_chars cs with hs | ⟨s, hs, hsign⟩
      · rw [hs] at hds
        simp [hne, hds]
      · have hsne : '.' ≠ s := by rcases hsign with rfl | rfl <;> decide
        rw [hs]
        simp [hne, hsne, hds]
    · rw [lexExp, if_neg hc] at h
      cases h

/-- Every character of a lexed literal is a number character. -/
theorem lex_chars {cs : List Char} {l : Lexeme} (h : lex cs = some l) :
    ∀ c ∈ cs, isNumberChar c = true := by
  simp only [lex, Option.map_eq_some_iff] at h
  obtain ⟨e, he, -⟩ := h
  have htail := lexExp_chars he
  have hfrac : ∀ c ∈ (lexDigits (lexSign cs).2).2, isNumberChar c = true := by
    intro c hc
    revert htail
    unfold lexFrac
    split
    · rename_i ds hds
      intro htail
      rw [hds] at hc
      rcases List.mem_cons.1 hc with rfl | hc
      · rfl
      · rw [← List.takeWhile_append_dropWhile (p := Char.isDigit) (l := ds)] at hc
        rcases List.mem_append.1 hc with hc | hc
        · exact isNumberChar_of_isDigit (List.mem_takeWhile_imp hc)
        · exact htail c hc
    · exact fun htail => htail c hc
  have hint : ∀ c ∈ (lexSign cs).2, isNumberChar c = true := by
    intro c hc
    rw [← List.takeWhile_append_dropWhile (p := Char.isDigit) (l := (lexSign cs).2)] at hc
    rcases List.mem_append.1 hc with hc | hc
    · exact isNumberChar_of_isDigit (List.mem_takeWhile_imp hc)
    · exact hfrac c hc
  intro c hc
  rcases lexSign_chars cs with hs | ⟨s, hs, hsign⟩
  · exact hint c (by rw [hs]; exact hc)
  · rw [hs] at hc
    rcases List.mem_cons.1 hc with rfl | hc
    · rcases hsign with rfl | rfl <;> rfl
    · exact hint c hc

theorem Number.text_chars (n : Number) : ∀ c ∈ n.text.toList, isNumberChar c = true :=
  lex_chars n.lex_text

theorem Number.text_ne_nil (n : Number) : n.text.toList ≠ [] := by
  intro h
  have := n.lexeme_isJson
  have hl := n.lex_text
  rw [h] at hl
  rw [show lex [] = some ⟨none, [], none, none⟩ from rfl, Option.some.injEq] at hl
  rw [← hl] at this
  cases this

/-! ## Writing integers and fixed-point decimals -/

theorem toDigits_isDigit (n : Nat) : ∀ c ∈ Nat.toDigits 10 n, c.isDigit = true :=
  fun _ hc => Nat.isDigit_of_mem_toDigits (by decide) (by decide) hc

/-- A positive number is written without a leading zero. -/
theorem toDigits_head {n : Nat} (hn : 0 < n) : (Nat.toDigits 10 n).head? ≠ some '0' := by
  induction n using Nat.base_induction 10 (by decide) with
  | single m hm =>
    rw [Nat.toDigits_of_lt_base hm, List.head?_cons, ne_eq, Option.some.injEq,
      Nat.digitChar_eq_zero]
    omega
  | digit m k hk hm ih =>
    rw [← Nat.toDigits_append_toDigits (by decide) hm hk,
      List.head?_append_of_ne_nil _ Nat.toDigits_ne_nil]
    exact ih hm

/-- Digits as an integer part: not empty, no leading zero. -/
theorem toDigits_int (n : Nat) :
    (Nat.toDigits 10 n).length = 1 ∨ (Nat.toDigits 10 n).head? ≠ some '0' := by
  rcases Nat.eq_zero_or_pos n with rfl | hn
  · exact .inl rfl
  · exact .inr (toDigits_head hn)

/-- `n` in exactly `k` digits (for `n < 10 ^ k`). -/
def padDigits (k n : Nat) : List Char :=
  List.replicate (k - (Nat.toDigits 10 n).length) '0' ++ Nat.toDigits 10 n

theorem padDigits_isDigit (k n : Nat) : ∀ c ∈ padDigits k n, c.isDigit = true := by
  intro c hc
  rcases List.mem_append.1 hc with hc | hc
  · rw [List.eq_of_mem_replicate hc]; rfl
  · exact toDigits_isDigit n c hc

theorem padDigits_ne_nil (k n : Nat) : padDigits k n ≠ [] := by simp [padDigits]

theorem padDigits_length {k n : Nat} (hk : 0 < k) (hn : n < 10 ^ k) : (padDigits k n).length = k := by
  have := (Nat.length_toDigits_le_iff (by decide) hk).2 hn
  simp only [padDigits, List.length_append, List.length_replicate]
  omega

theorem ofDigitChars_padDigits (k n init : Nat) (hk : 0 < k) (hn : n < 10 ^ k) :
    Nat.ofDigitChars 10 (padDigits k n) init = 10 ^ k * init + n := by
  rw [Nat.ofDigitChars_eq_ofDigitChars_zero, padDigits_length hk hn, padDigits,
    Nat.ofDigitChars_append, Nat.ofDigitChars_replicate_zero, Nat.mul_zero,
    Nat.ofDigitChars_ten_toDigits]

/-- A fraction with its point. -/
def fracText : Option (List Char) → List Char
  | none => []
  | some ds => '.' :: ds

/-- The text of a sign, an integer part and a fraction. -/
def fixedText (neg : Bool) (int : List Char) (frac : Option (List Char)) : List Char :=
  (if neg then ['-'] else []) ++ int ++ fracText frac

theorem lexDigits_append {ds r : List Char} (hd : ∀ c ∈ ds, c.isDigit = true)
    (hr : ∀ c, r.head? = some c → c.isDigit = false) : lexDigits (ds ++ r) = (ds, r) := by
  have hall : ds.all Char.isDigit = true := List.all_eq_true.2 hd
  unfold lexDigits
  rw [List.takeWhile_append_of_pos hd, List.dropWhile_append_of_pos hd]
  cases r with
  | nil => simp
  | cons c r => simp [hr c rfl]

theorem lexSign_digits {ds r : List Char} (hn : ds ≠ []) (hd : ∀ c ∈ ds, c.isDigit = true) :
    lexSign (ds ++ r) = (none, ds ++ r) := by
  cases ds with
  | nil => exact absurd rfl hn
  | cons c ds =>
    have hc := hd c (.head _)
    unfold lexSign
    split
    · rename_i h; cases h; cases hc
    · rename_i h; cases h; cases hc
    · rfl

/-- A sign before digits is read. -/
theorem lexSign_signed {sign : Option Char} (hsign : ∀ c ∈ sign, c = '+' ∨ c = '-')
    {ds r : List Char} (hn : ds ≠ []) (hd : ∀ c ∈ ds, c.isDigit = true) :
    lexSign (sign.toList ++ (ds ++ r)) = (sign, ds ++ r) := by
  cases sign with
  | none =>
    rw [Option.toList_none, List.nil_append]
    exact lexSign_digits hn hd
  | some c => rcases hsign c rfl with rfl | rfl <;> rfl

/-- The parts of a literal without an exponent are read back. -/
theorem lex_signed {sign : Option Char} {int : List Char} {frac : Option (List Char)}
    (hsign : ∀ c ∈ sign, c = '+' ∨ c = '-') (hn : int ≠ []) (hi : ∀ c ∈ int, c.isDigit = true)
    (hf : ∀ ds, frac = some ds → ∀ c ∈ ds, c.isDigit = true) :
    lex (sign.toList ++ (int ++ fracText frac)) = some { sign, int, frac, exp := none } := by
  simp only [lex, lexSign_signed hsign hn hi]
  cases frac with
  | none =>
    rw [lexDigits_append hi (by simp [fracText])]
    rfl
  | some ds =>
    rw [lexDigits_append hi (by intro c hc; cases hc; rfl)]
    have hds := lexDigits_append (r := []) (hf ds rfl) (by simp)
    rw [List.append_nil] at hds
    simp [fracText, lexFrac, hds, lexExp]

/-- A text with two points is no literal. -/
theorem lex_points {sign : Option Char} {int more : List Char}
    (hsign : ∀ c ∈ sign, c = '+' ∨ c = '-') (hn : int ≠ []) (hi : ∀ c ∈ int, c.isDigit = true)
    (hmore : '.' ∈ more) : lex (sign.toList ++ (int ++ '.' :: more)) = none := by
  simp only [lex, lexSign_signed hsign hn hi]
  rw [lexDigits_append hi (by intro c hc; cases hc; rfl)]
  -- the second point is left after the digits of the fraction
  have hleft : '.' ∈ (lexDigits more).2 := by
    rw [← List.takeWhile_append_dropWhile (p := Char.isDigit) (l := more)] at hmore
    rcases List.mem_append.1 hmore with hdigit | hleft
    · exact absurd (List.mem_takeWhile_imp hdigit) (by decide)
    · exact hleft
  simp only [lexFrac]
  cases hexp : lexExp (lexDigits more).2 with
  | none => rfl
  | some e => exact absurd hleft (lexExp_point hexp)

/-- The parts of a fixed-point literal are read back. -/
theorem lex_fixedText {neg : Bool} {int : List Char} {frac : Option (List Char)} (hn : int ≠ [])
    (hi : ∀ c ∈ int, c.isDigit = true) (hf : ∀ ds, frac = some ds → ∀ c ∈ ds, c.isDigit = true) :
    lex (fixedText neg int frac) =
      some { sign := if neg then some '-' else none, int, frac, exp := none } := by
  have htext : fixedText neg int frac =
      (if neg then some '-' else none : Option Char).toList ++ (int ++ fracText frac) := by
    cases neg <;> simp [fixedText]
  rw [htext]
  exact lex_signed (by cases neg <;> simp) hn hi hf

/-- The text of the integer `z`. -/
def intText (z : Int) : List Char := fixedText (decide (z < 0)) (Nat.toDigits 10 z.natAbs) none

theorem lex_intText (z : Int) : lex (intText z) = some
    { sign := if z < 0 then some '-' else none, int := Nat.toDigits 10 z.natAbs, frac := none,
      exp := none } := by
  rw [intText, lex_fixedText Nat.toDigits_ne_nil (toDigits_isDigit _) (by simp)]
  simp

/-- The fixed-point text of `z / 10 ^ scale`, with exactly `scale` digits after the point. -/
def decimalText (z : Int) (scale : Nat) : List Char :=
  fixedText (decide (z < 0)) (Nat.toDigits 10 (z.natAbs / 10 ^ scale))
    (if scale = 0 then none else some (padDigits scale (z.natAbs % 10 ^ scale)))

theorem lex_decimalText (z : Int) (scale : Nat) : lex (decimalText z scale) = some
    { sign := if z < 0 then some '-' else none, int := Nat.toDigits 10 (z.natAbs / 10 ^ scale),
      frac := if scale = 0 then none else some (padDigits scale (z.natAbs % 10 ^ scale)),
      exp := none } := by
  rw [decimalText, lex_fixedText Nat.toDigits_ne_nil (toDigits_isDigit _)]
  · simp
  · intro ds hds
    split at hds
    · cases hds
    · cases hds; exact padDigits_isDigit _ _

/-- The literal of a sign, an unpadded integer part and a nonempty fraction is JSON. -/
theorem isJson_fixed {n : Nat} {frac : Option (List Char)} (neg : Prop) [Decidable neg]
    (hf : frac ≠ some []) :
    Lexeme.isJson { sign := if neg then some '-' else none, int := Nat.toDigits 10 n, frac,
                    exp := none } = true := by
  have hs : (if neg then some '-' else none) ≠ some '+' := by split <;> simp
  have hi := toDigits_int n
  simp only [Lexeme.isJson, Bool.and_eq_true, bne_iff_ne, Bool.or_eq_true, beq_iff_eq]
  exact ⟨⟨⟨hs, by simp⟩, hi⟩, hf⟩

/-- The number `z / 10 ^ scale`, written in fixed point. -/
def Number.ofFixed (z : Int) (scale : Nat) : Number where
  text := String.ofList (decimalText z scale)
  valid := by
    rw [isNumber, String.toList_ofList, lex_decimalText]
    apply isJson_fixed
    split
    · simp
    · simpa using padDigits_ne_nil _ _

/-- The number `z`, written as an integer. -/
def Number.ofInt (z : Int) : Number where
  text := String.ofList (intText z)
  valid := by
    rw [isNumber, String.toList_ofList, lex_intText]
    exact isJson_fixed _ (by simp)

/-- The sign of an integer times its absolute value. -/
theorem sign_natAbs (z : Int) : (if z < 0 then (-1 : ℚ) else 1) * z.natAbs = z := by
  split
  · rename_i h
    rw [← Int.cast_natCast, Int.natCast_natAbs, abs_of_neg h]; simp
  · rename_i h
    rw [← Int.cast_natCast, Int.natCast_natAbs, abs_of_nonneg (by omega)]; simp

theorem Number.toRat_ofInt (z : Int) : (Number.ofInt z).toRat = z := by
  rw [Number.toRat_eq (n := Number.ofInt z)
    (by rw [Number.ofInt, String.toList_ofList]; exact lex_intText z)]
  simp only [Lexeme.decimal, Decimal.toRat, Decimal.sign, Lexeme.exponent, Option.getD_none,
    List.append_nil, Nat.ofDigitChars_ten_toDigits, List.length_nil]
  rw [← sign_natAbs z]
  split <;> simp_all

theorem Number.exp_ofFixed (z : Int) (scale : Nat) : (Number.ofFixed z scale).lexeme.exp = none := by
  have hl := (Number.ofFixed z scale).lex_text
  rw [Number.ofFixed, String.toList_ofList, lex_decimalText, Option.some_inj] at hl
  rw [Number.ofFixed, ← hl]

/-- A literal without an exponent denotes its digits with the point put in. -/
theorem Lexeme.toRat_fixed (sign : Option Char) (int : List Char) (frac : Option (List Char)) :
    (Lexeme.decimal { sign, int, frac, exp := none }).toRat =
      (if sign = some '-' then (-1 : ℚ) else 1) *
        (Nat.ofDigitChars 10 (int ++ frac.getD []) 0 / 10 ^ (frac.getD []).length) := by
  show (if (sign == some '-') = true then (-1 : ℚ) else 1) *
      (Nat.ofDigitChars 10 (int ++ frac.getD []) 0 : Nat) *
        (10 : ℚ) ^ ((0 : Int) - (frac.getD []).length) = _
  rw [zero_sub, zpow_neg, zpow_natCast, ← div_eq_mul_inv, mul_div_assoc]
  simp only [beq_iff_eq]

/-- **A fixed-point literal denotes its value.** -/
theorem Number.toRat_ofFixed (z : Int) (scale : Nat) :
    (Number.ofFixed z scale).toRat = z / 10 ^ scale := by
  rw [Number.toRat_eq (n := Number.ofFixed z scale)
    (by rw [Number.ofFixed, String.toList_ofList]; exact lex_decimalText z scale)]
  have hc : Nat.ofDigitChars 10 (Nat.toDigits 10 (z.natAbs / 10 ^ scale) ++
      (if scale = 0 then none else some (padDigits scale (z.natAbs % 10 ^ scale))).getD []) 0 =
        z.natAbs := by
    rw [Nat.ofDigitChars_append, Nat.ofDigitChars_ten_toDigits]
    split
    · rename_i h; subst h; simp
    · rename_i h
      rw [Option.getD_some, ofDigitChars_padDigits _ _ _ (by omega) (Nat.mod_lt _ (by positivity))]
      exact Nat.div_add_mod _ _
  have hlen : ((if scale = 0 then none else
      some (padDigits scale (z.natAbs % 10 ^ scale))).getD []).length = scale := by
    split
    · rename_i h; subst h; rfl
    · rename_i h
      exact padDigits_length (by omega) (Nat.mod_lt _ (by positivity))
  rw [Lexeme.toRat_fixed, hc, hlen, ← mul_div_assoc]
  have hs := sign_natAbs z
  split <;> simp_all

end Json
