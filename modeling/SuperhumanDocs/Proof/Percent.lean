import Mathlib.Tactic.Linarith
import SuperhumanDocs.Binary.Exact
import SuperhumanDocs.ScanValue

/-!
# Formatted percentages

A percent cell is text as a locale formats it (`PercentText`).

* `normalizedPercent_text`: what is read of it is the number without its spaces and its minus sign
  U+2212, with every comma as a point.
* `percent_kept_iff`: so the value is kept unless thousands are grouped by a comma or a point, or
  the minus sign is U+2212 and the value is not 0.
-/

set_option autoImplicit false

namespace SuperhumanDocs

open Binary (F64 ExactF64 LiteralOf)

/-! ## Percent texts -/

/-- One digit or more. -/
structure Digits where
  chars : List Char
  ne_nil : chars ≠ []
  isDigit : ∀ c ∈ chars, c.isDigit = true

inductive PercentSign where
  | none
  | plus
  | minus
  /-- The typographic minus U+2212. -/
  | minusSign
deriving DecidableEq, Repr

namespace PercentSign

def char : PercentSign → Option Char
  | none => .none
  | plus => some '+'
  | minus => some '-'
  | minusSign => some '\u2212'

def factor : PercentSign → ℚ
  | none | plus => 1
  | minus | minusSign => -1

end PercentSign

/-- The mark between the integer digits and the fraction; the other one may group thousands. -/
inductive DecimalMark where
  | point
  | comma
deriving DecidableEq, Repr

namespace DecimalMark

def char : DecimalMark → Char
  | point => '.'
  | comma => ','

def other : DecimalMark → DecimalMark
  | point => comma
  | comma => point

end DecimalMark

/-- A space character, that of Unicode. -/
def isSpaceChar (c : Char) : Bool :=
  c ∈ [' ', '\t', '\n', '\x0b', '\x0c', '\x0d', '\u0085', '\u00a0', '\u1680', '\u2000', '\u2001',
    '\u2002', '\u2003', '\u2004', '\u2005', '\u2006', '\u2007', '\u2008', '\u2009', '\u200a',
    '\u2028', '\u2029', '\u202f', '\u205f', '\u3000']

/-- Groups of three digits from the right. -/
def groupThousands (separator : Char) : List Char → List Char
  | [] => []
  | c :: cs =>
    if cs ≠ [] ∧ cs.length % 3 = 0 then c :: separator :: groupThousands separator cs
    else c :: groupThousands separator cs

/-- The characters that may group thousands besides the marks. -/
inductive GroupSpace where
  | space
  | noBreak
  | narrowNoBreak
deriving DecidableEq, Repr

def GroupSpace.char : GroupSpace → Char
  | space => ' '
  | noBreak => '\u00a0'
  | narrowNoBreak => '\u202f'

/-- A number without its sign. -/
inductive PercentNumber where
  /-- Ungrouped, or grouped by spaces. -/
  | plain (group : Option GroupSpace) (int : Digits) (fraction : Option (DecimalMark × Digits))
  /-- Grouped by one mark, with a fraction after the other. -/
  | marked (mark : DecimalMark) (int : Digits) (fraction : Digits)

namespace PercentNumber

def int : PercentNumber → Digits
  | plain _ int _ => int
  | marked _ int _ => int

def fraction : PercentNumber → Option (DecimalMark × Digits)
  | plain _ _ fraction => fraction
  | marked mark _ fraction => some (mark, fraction)

def fractionDigits (number : PercentNumber) : List Char :=
  (number.fraction.map fun fraction => fraction.2.chars).getD []

/-- The separator of thousands. -/
def separator : PercentNumber → Option Char
  | plain group _ _ => group.map GroupSpace.char
  | marked mark _ _ => some mark.other.char

def intText (number : PercentNumber) : List Char :=
  match number.separator with
  | none => number.int.chars
  | some separator => groupThousands separator number.int.chars

def fractionText (number : PercentNumber) : List Char :=
  match number.fraction with
  | none => []
  | some (mark, digits) => mark.char :: digits.chars

def text (number : PercentNumber) : List Char := number.intText ++ number.fractionText

/-- The number written. -/
def value (number : PercentNumber) : ℚ :=
  (Nat.ofDigitChars 10 (number.int.chars ++ number.fractionDigits) 0 : ℚ) /
    10 ^ number.fractionDigits.length

/-- Thousands are grouped by a comma or a point. -/
def marksThousands : PercentNumber → Bool
  | plain _ _ _ => false
  | marked _ int _ => 3 < int.chars.length

end PercentNumber

/-- The text of a percent cell: a fence has a line break after its opening, before its end, or
not. -/
structure PercentText where
  fence : Option (Bool × Bool)
  sign : PercentSign
  number : PercentNumber
  spaces : List Char
  areSpaces : ∀ c ∈ spaces, isSpaceChar c = true

def lineBreak (present : Bool) : List Char := if present then ['\n'] else []

namespace PercentText

def body (cell : PercentText) : List Char :=
  cell.sign.char.toList ++ (cell.number.text ++ (cell.spaces ++ ['%']))

def text (cell : PercentText) : String :=
  match cell.fence with
  | none => String.ofList cell.body
  | some (opened, closed) =>
    String.ofList ("```".toList ++ (lineBreak opened ++ (cell.body ++ lineBreak closed)) ++
      "```".toList)

/-- The percentage. -/
def value (cell : PercentText) : ℚ := cell.sign.factor * cell.number.value

end PercentText

/-! ## Grouped digits -/

theorem groupThousands_head (separator : Char) (cs : List Char) :
    (groupThousands separator cs).head? = cs.head? := by
  cases cs with
  | nil => rfl
  | cons c cs =>
    rw [groupThousands]
    by_cases h : cs ≠ [] ∧ cs.length % 3 = 0
    · rw [if_pos h]
      rfl
    · rw [if_neg h]
      rfl

/-- Up to three digits are one group. -/
theorem groupThousands_short (separator : Char) {cs : List Char} (h : cs.length ≤ 3) :
    groupThousands separator cs = cs := by
  induction cs with
  | nil => rfl
  | cons c cs ih =>
    rw [List.length_cons] at h
    have hlast : ¬ (cs ≠ [] ∧ cs.length % 3 = 0) := by
      intro ⟨hne, hmod⟩
      have := List.length_pos_iff.2 hne
      omega
    rw [groupThousands, if_neg hlast, ih (by omega)]

/-- More digits begin with a group and a separator. -/
theorem groupThousands_long (separator : Char) {cs : List Char} (h : 3 < cs.length)
    (hdigits : ∀ c ∈ cs, c.isDigit = true) : ∃ first rest, first ≠ [] ∧
      (∀ c ∈ first, c.isDigit = true) ∧
      groupThousands separator cs = first ++ separator :: rest := by
  induction cs with
  | nil => cases h
  | cons c cs ih =>
    rw [List.length_cons] at h
    have hc := hdigits c List.mem_cons_self
    rw [groupThousands]
    by_cases hgroup : cs ≠ [] ∧ cs.length % 3 = 0
    · rw [if_pos hgroup]
      exact ⟨[c], _, by simp, by simpa using hc, rfl⟩
    · rw [if_neg hgroup]
      have hlength : 3 < cs.length := by
        by_contra hle
        have hthree : cs.length = 3 := by omega
        exact hgroup ⟨List.length_pos_iff.1 (by omega), by omega⟩
      obtain ⟨first, rest, -, hfirst, heq⟩ :=
        ih hlength fun d hd => hdigits d (List.mem_cons_of_mem c hd)
      refine ⟨c :: first, rest, by simp, fun d hd => ?_, by rw [heq]; rfl⟩
      rcases List.mem_cons.1 hd with rfl | hd
      · exact hc
      · exact hfirst d hd

theorem PercentNumber.text_head (number : PercentNumber) :
    ∃ c, number.text.head? = some c ∧ c.isDigit = true := by
  obtain ⟨c, cs, hcs⟩ := List.exists_cons_of_ne_nil number.int.ne_nil
  have hint : number.intText.head? = some c := by
    unfold intText
    cases number.separator with
    | none => rw [hcs]; rfl
    | some separator => rw [groupThousands_head, hcs]; rfl
  refine ⟨c, ?_, number.int.isDigit c (by simp [hcs])⟩
  rw [text, List.head?_append, hint, Option.some_or]

/-! ## The fence -/

theorem stripPrefix_of_head {value affix : String} {a : Char} (ha : affix.toList.head? = some a)
    (h : value.toList.head? ≠ some a) : stripPrefix value affix = none := by
  cases hstrip : stripPrefix value affix with
  | none => rfl
  | some inner =>
    rw [← stripPrefix_eq_some.1 hstrip, List.head?_append, ha] at h
    exact absurd rfl h

theorem stripSuffix_of_last {value affix : String} {a : Char}
    (ha : affix.toList.getLast? = some a) (h : value.toList.getLast? ≠ some a) :
    stripSuffix value affix = none := by
  cases hstrip : stripSuffix value affix with
  | none => rfl
  | some inner =>
    rw [← stripSuffix_eq_some.1 hstrip, List.getLast?_append, ha] at h
    exact absurd rfl h

theorem stripPrefix_lineBreak (present : Bool) {cs : List Char} (h : cs.head? ≠ some '\n') :
    (stripPrefix (String.ofList (lineBreak present ++ cs)) "\n").getD
      (String.ofList (lineBreak present ++ cs)) = String.ofList cs := by
  cases present with
  | true =>
    have hstrip : stripPrefix (String.ofList (lineBreak true ++ cs)) "\n" =
        some (String.ofList cs) := by
      simp [stripPrefix_eq_some, String.toList_ofList, lineBreak]
    rw [hstrip, Option.getD_some]
  | false =>
    rw [stripPrefix_of_head (a := '\n') rfl (by rwa [String.toList_ofList])]
    rfl

theorem stripSuffix_lineBreak (present : Bool) {cs : List Char} (h : cs.getLast? ≠ some '\n') :
    (stripSuffix (String.ofList (cs ++ lineBreak present)) "\n").getD
      (String.ofList (cs ++ lineBreak present)) = String.ofList cs := by
  cases present with
  | true =>
    have hstrip : stripSuffix (String.ofList (cs ++ lineBreak true)) "\n" =
        some (String.ofList cs) := by
      simp [stripSuffix_eq_some, String.toList_ofList, lineBreak]
    rw [hstrip, Option.getD_some]
  | false =>
    rw [show cs ++ lineBreak false = cs from List.append_nil cs,
      stripSuffix_of_last (a := '\n') rfl (by rwa [String.toList_ofList]), Option.getD_none]

namespace PercentText

variable (cell : PercentText)

/-- A cell begins with a sign or a digit. -/
theorem body_head : ∃ c, cell.body.head? = some c ∧
    (c ∈ ['+', '-', '\u2212'] ∨ c.isDigit = true) := by
  obtain ⟨c, hc, hdigit⟩ := cell.number.text_head
  unfold body
  cases hsign : cell.sign with
  | none => exact ⟨c, by simp [PercentSign.char, hc], .inr hdigit⟩
  | plus => exact ⟨'+', rfl, .inl (by decide)⟩
  | minus => exact ⟨'-', rfl, .inl (by decide)⟩
  | minusSign => exact ⟨'\u2212', rfl, .inl (by decide)⟩

theorem body_last : cell.body.getLast? = some '%' := by
  rw [body, ← List.append_assoc, ← List.append_assoc, List.getLast?_concat]

theorem unfence : unfenceRichText cell.text = String.ofList cell.body := by
  obtain ⟨c, hc, hchar⟩ := cell.body_head
  have hne {other : Char} (hsign : other ∉ ['+', '-', '\u2212']) (hdigit : other.isDigit = false) :
      c ≠ other := by
    rintro rfl
    rcases hchar with hmem | hisDigit
    · exact hsign hmem
    · rw [hdigit] at hisDigit
      cases hisDigit
  have hlast := cell.body_last
  cases hfence : cell.fence with
  | none =>
    have hnone : stripPrefix (String.ofList cell.body) "```" = none := by
      apply stripPrefix_of_head (a := Char.ofNat 96) (by decide)
      rw [String.toList_ofList, hc, ne_eq, Option.some.injEq]
      exact hne (by decide) (by decide)
    rw [text, hfence]
    simp only [unfenceRichText, hnone, Option.bind_none]
  | some fence =>
    obtain ⟨opened, closed⟩ := fence
    have hopen : stripPrefix cell.text "```" = some (String.ofList
        ((lineBreak opened ++ (cell.body ++ lineBreak closed)) ++ "```".toList)) := by
      simp only [stripPrefix_eq_some, text, hfence, String.toList_ofList, List.append_assoc]
    have hclose : stripSuffix (String.ofList
        ((lineBreak opened ++ (cell.body ++ lineBreak closed)) ++ "```".toList)) "```" =
          some (String.ofList (lineBreak opened ++ (cell.body ++ lineBreak closed))) := by
      simp only [stripSuffix_eq_some, String.toList_ofList]
    have hfirst : (cell.body ++ lineBreak closed).head? ≠ some '\n' := by
      rw [List.head?_append, hc, Option.some_or, ne_eq, Option.some.injEq]
      exact hne (by decide) (by decide)
    simp only [unfenceRichText, hopen, Option.bind_some, hclose]
    rw [stripPrefix_lineBreak opened hfirst, stripSuffix_lineBreak closed (by simp [hlast])]

end PercentText

/-! ## What is read -/

/-- The characters that are read as a number. -/
def keptChars (cs : List Char) : List Char :=
  (cs.filter isPercentChar).map fun ch => if ch = ',' then '.' else ch

theorem keptChars_append (xs ys : List Char) :
    keptChars (xs ++ ys) = keptChars xs ++ keptChars ys := by
  rw [keptChars, List.filter_append, List.map_append, keptChars, keptChars]

theorem keptChars_cons (c : Char) (cs : List Char) :
    keptChars (c :: cs) = keptChars [c] ++ keptChars cs :=
  keptChars_append [c] cs

theorem keptChars_digit {c : Char} (h : c.isDigit = true) : keptChars [c] = [c] := by
  have hcomma : c ≠ ',' := by
    rintro rfl
    cases h
  simp [keptChars, isPercentChar, h, hcomma]

theorem keptChars_digits {cs : List Char} (h : ∀ c ∈ cs, c.isDigit = true) :
    keptChars cs = cs := by
  induction cs with
  | nil => rfl
  | cons c cs ih =>
    rw [keptChars_cons, keptChars_digit (h c List.mem_cons_self),
      ih fun d hd => h d (List.mem_cons_of_mem c hd)]
    rfl

theorem keptChars_spaces {cs : List Char} (h : ∀ c ∈ cs, isSpaceChar c = true) :
    keptChars cs = [] := by
  have hnone (c : Char) (hc : isSpaceChar c = true) : isPercentChar c = false := by
    rw [isSpaceChar, decide_eq_true_eq] at hc
    have hall := (List.all_eq_true (p := fun c => !isPercentChar c)).1 (by decide) c hc
    simpa using hall
  have hfilter : cs.filter isPercentChar = [] := by
    rw [List.filter_eq_nil_iff]
    intro c hc
    simp [hnone c (h c hc)]
  rw [keptChars, hfilter, List.map_nil]

/-- Grouped digits with the separator that is left of theirs. -/
theorem keptChars_grouped {separator : Char} {cs : List Char} (h : ∀ c ∈ cs, c.isDigit = true) :
    (keptChars [separator] = [] → keptChars (groupThousands separator cs) = cs) ∧
      (keptChars [separator] = ['.'] →
        keptChars (groupThousands separator cs) = groupThousands '.' cs) := by
  induction cs with
  | nil => exact ⟨fun _ => rfl, fun _ => rfl⟩
  | cons c cs ih =>
    have hc := keptChars_digit (h c List.mem_cons_self)
    have hrest := ih fun d hd => h d (List.mem_cons_of_mem c hd)
    rw [groupThousands, groupThousands]
    by_cases hgroup : cs ≠ [] ∧ cs.length % 3 = 0
    · rw [if_pos hgroup, if_pos hgroup]
      refine ⟨fun hsep => ?_, fun hsep => ?_⟩
      · rw [keptChars_cons, hc, keptChars_cons, hsep, hrest.1 hsep]
        rfl
      · rw [keptChars_cons, hc, keptChars_cons, hsep, hrest.2 hsep]
        rfl
    · rw [if_neg hgroup, if_neg hgroup]
      refine ⟨fun hsep => ?_, fun hsep => ?_⟩
      · rw [keptChars_cons, hc, hrest.1 hsep]
        rfl
      · rw [keptChars_cons, hc, hrest.2 hsep]
        rfl

/-- The sign that is read: U+2212 is not. -/
def PercentSign.kept : PercentSign → Option Char
  | none | minusSign => .none
  | plus => some '+'
  | minus => some '-'

theorem PercentSign.keptChars_char (sign : PercentSign) :
    keptChars sign.char.toList = sign.kept.toList := by
  cases sign <;> decide

theorem PercentSign.kept_sign (sign : PercentSign) :
    ∀ c ∈ sign.kept, c = '+' ∨ c = '-' := by
  cases sign <;> simp [PercentSign.kept]

theorem DecimalMark.keptChars_char (mark : DecimalMark) : keptChars [mark.char] = ['.'] := by
  cases mark <;> decide

theorem GroupSpace.keptChars_char (group : GroupSpace) : keptChars [group.char] = [] := by
  cases group <;> decide

theorem keptChars_fraction (mark : DecimalMark) (digits : Digits) :
    keptChars (mark.char :: digits.chars) = '.' :: digits.chars := by
  rw [keptChars_cons, mark.keptChars_char, keptChars_digits digits.isDigit]
  rfl

namespace PercentNumber

/-- Of a number whose thousands no mark groups the digits and the fraction are left. -/
theorem keptChars_text {number : PercentNumber} (h : number.marksThousands = false) :
    keptChars number.text = number.int.chars ++
      Json.fracText (number.fraction.map fun fraction => fraction.2.chars) := by
  have hint : keptChars number.intText = number.int.chars := by
    cases number with
    | plain group int fraction =>
      cases group with
      | none => exact keptChars_digits int.isDigit
      | some group => exact (keptChars_grouped int.isDigit).1 group.keptChars_char
    | marked mark int fraction =>
      have hlength : int.chars.length ≤ 3 := by simpa [marksThousands] using h
      show keptChars (groupThousands mark.other.char int.chars) = int.chars
      rw [groupThousands_short _ hlength]
      exact keptChars_digits int.isDigit
  rw [text, keptChars_append, hint, fractionText]
  cases number.fraction with
  | none => rfl
  | some fraction => rw [keptChars_fraction]; rfl

/-- Of a number whose thousands a mark groups two points are left. -/
theorem keptChars_marked {number : PercentNumber} (h : number.marksThousands = true) :
    ∃ first rest, first ≠ [] ∧ (∀ c ∈ first, c.isDigit = true) ∧ '.' ∈ rest ∧
      keptChars number.text = first ++ '.' :: rest := by
  cases number with
  | plain group int fraction => cases h
  | marked mark int fraction =>
    have hlength : 3 < int.chars.length := by simpa [marksThousands] using h
    obtain ⟨first, rest, hne, hdigits, hgroups⟩ := groupThousands_long '.' hlength int.isDigit
    refine ⟨first, rest ++ '.' :: fraction.chars, hne, hdigits, by simp, ?_⟩
    show keptChars (groupThousands mark.other.char int.chars ++ mark.char :: fraction.chars) = _
    rw [keptChars_append, (keptChars_grouped int.isDigit).2 mark.other.keptChars_char, hgroups,
      keptChars_fraction, List.append_assoc]
    rfl

end PercentNumber

theorem PercentText.keptChars_body (cell : PercentText) :
    keptChars cell.body = cell.sign.kept.toList ++ keptChars cell.number.text := by
  have hpercent : keptChars ['%'] = [] := by decide
  rw [body, keptChars_append, cell.sign.keptChars_char, keptChars_append, keptChars_append,
    keptChars_spaces cell.areSpaces, hpercent, List.append_nil, List.append_nil]

section
variable (F : Type) [ExactF64 F]

/-- What is left of a cell is read and divided by 100. -/
theorem normalizedPercent_text (cell : PercentText) :
    normalizedPercent F (.string cell.text) =
      (F64.parse (String.ofList (keptChars cell.body)) : Option F).map fun percentage =>
        F64.display (F64.div percentage (F64.ofDecimal ⟨false, 100, 0⟩)) := by
  have hmem : '%' ∈ cell.body := by simp [PercentText.body]
  have hlex : Json.lex (String.ofList cell.body).toList = none := by
    rw [String.toList_ofList]
    cases h : Json.lex cell.body with
    | none => rfl
    | some l => exact absurd (Json.lex_chars h '%' hmem) (by decide)
  have hdigit : ∃ c ∈ (String.ofList cell.body).toList, c.isDigit = true := by
    obtain ⟨c, hc, hisDigit⟩ := cell.number.text_head
    refine ⟨c, ?_, hisDigit⟩
    rw [String.toList_ofList, PercentText.body]
    exact List.mem_append_right _ (List.mem_append_left _ (List.mem_of_mem_head? hc))
  have hparse : (F64.parse (String.ofList cell.body) : Option F) = none :=
    ExactF64.parse_of_lex_none hlex hdigit
  have hcontains : cell.body.contains '%' = true := by simpa using hmem
  simp only [normalizedPercent, scalarText, cell.unfence, Option.bind_eq_bind, Option.bind_some,
    hparse, Option.isSome_none, Bool.false_eq_true, if_false, String.toList_ofList, hcontains,
    Bool.not_true]
  rw [← keptChars]
  cases (F64.parse (String.ofList (keptChars cell.body)) : Option F) <;> rfl

/-- Thousands grouped by a mark are not read. -/
theorem normalizedPercent_marked {cell : PercentText}
    (h : cell.number.marksThousands = true) :
    normalizedPercent F (.string cell.text) = none := by
  obtain ⟨first, rest, hne, hdigits, hpoint, hkept⟩ := cell.number.keptChars_marked h
  have hlex : Json.lex (String.ofList (keptChars cell.body)).toList = none := by
    rw [String.toList_ofList, cell.keptChars_body, hkept]
    exact Json.lex_points cell.sign.kept_sign hne hdigits hpoint
  obtain ⟨c, hc⟩ := List.exists_mem_of_ne_nil first hne
  have hdigit : ∃ c ∈ (String.ofList (keptChars cell.body)).toList, c.isDigit = true := by
    refine ⟨c, ?_, hdigits c hc⟩
    rw [String.toList_ofList, cell.keptChars_body, hkept]
    simp [hc]
  rw [normalizedPercent_text, ExactF64.parse_of_lex_none hlex hdigit, Option.map_none]

/-- The factor of the sign that is read. -/
def PercentSign.keptFactor (sign : PercentSign) : ℚ := if sign = .minus then -1 else 1

/-- The number that the digits of a cell write, with the sign that is left. -/
theorem PercentText.toRat_decimal (cell : PercentText) :
    (Json.Lexeme.decimal
      { sign := cell.sign.kept, int := cell.number.int.chars,
        frac := cell.number.fraction.map fun fraction => fraction.2.chars, exp := none }).toRat =
      cell.sign.keptFactor * cell.number.value := by
  have hsign : (if cell.sign.kept = some '-' then (-1 : ℚ) else 1) = cell.sign.keptFactor := by
    cases cell.sign <;> rfl
  rw [Json.Lexeme.toRat_fixed, hsign]
  rfl

/-- A percentage is a decimal, also when it is divided by 100. -/
theorem PercentText.value_div (cell : PercentText) :
    ∃ (z : Int) (scale : Nat),
      cell.sign.keptFactor * cell.number.value / 100 = z / 10 ^ scale := by
  have hsign : ∃ sign : Int, (sign : ℚ) = cell.sign.keptFactor := by
    unfold PercentSign.keptFactor
    split
    · exact ⟨-1, by norm_num⟩
    · exact ⟨1, by norm_num⟩
  obtain ⟨sign, hsign⟩ := hsign
  refine ⟨sign * Nat.ofDigitChars 10 (cell.number.int.chars ++ cell.number.fractionDigits) 0,
    cell.number.fractionDigits.length + 2, ?_⟩
  rw [PercentNumber.value, ← hsign, pow_add, ← mul_div_assoc, div_div]
  norm_num

/-- Otherwise the number is read with the sign that is left. -/
theorem normalizedPercent_unmarked {cell : PercentText}
    (h : cell.number.marksThousands = false) :
    ∃ text, normalizedPercent F (.string cell.text) = some text ∧
      LiteralOf (cell.sign.keptFactor * cell.number.value / 100) text := by
  have hfraction : ∀ ds, (cell.number.fraction.map fun fraction => fraction.2.chars) = some ds →
      ∀ c ∈ ds, c.isDigit = true := by
    intro ds hds
    obtain ⟨fraction, -, rfl⟩ := Option.map_eq_some_iff.1 hds
    exact fraction.2.isDigit
  have hlex := Json.lex_signed cell.sign.kept_sign cell.number.int.ne_nil cell.number.int.isDigit
    hfraction
  rw [← PercentNumber.keptChars_text h, ← cell.keptChars_body,
    ← String.toList_ofList (l := keptChars cell.body)] at hlex
  have hdigits := cell.number.int.ne_nil
  rw [normalizedPercent_text, F64.parse_of_lex hlex (by simp [Json.Lexeme.hasDigits, hdigits]),
    Option.map_some]
  refine ⟨_, rfl, ?_⟩
  have hhundred : ExactF64.toRat (F64.ofDecimal ⟨false, 100, 0⟩ : F) = 100 := by
    rw [ExactF64.ofDecimal_toRat]
    simp [Json.Decimal.toRat, Json.Decimal.sign]
  have hquotient : ExactF64.toRat (F64.div (F64.ofDecimal (Json.Lexeme.decimal
      { sign := cell.sign.kept, int := cell.number.int.chars,
        frac := cell.number.fraction.map fun fraction => fraction.2.chars, exp := none }))
      (F64.ofDecimal ⟨false, 100, 0⟩) : F) = cell.sign.keptFactor * cell.number.value / 100 := by
    rw [ExactF64.div_toRat _ _ (by rw [hhundred]; norm_num), hhundred, ExactF64.ofDecimal_toRat,
      cell.toRat_decimal]
  obtain ⟨z, scale, hvalue⟩ := cell.value_div
  rw [← hquotient]
  exact ExactF64.display_decimal _ z scale (hquotient.trans hvalue)

theorem normalizedValue_percent {formatType : String} (h : formatType.toLower = "percent")
    (value : Json.Value) : normalizedValue F formatType value = normalizedPercent F value := by
  simp only [normalizedValue, h]

/-- The sign is lost only from a percentage other than 0. -/
theorem PercentText.keptFactor_value (cell : PercentText) :
    cell.sign.keptFactor * cell.number.value = cell.value ↔
      (cell.sign = .minusSign → cell.value = 0) := by
  unfold value
  cases hsign : cell.sign with
  | none => simp [PercentSign.keptFactor, PercentSign.factor]
  | plus => simp [PercentSign.keptFactor, PercentSign.factor]
  | minus => simp [PercentSign.keptFactor, PercentSign.factor]
  | minusSign =>
    have hne : PercentSign.minusSign ≠ .minus := by decide
    rw [PercentSign.keptFactor, if_neg hne, PercentSign.factor, one_mul, neg_one_mul]
    constructor
    · intro hself _
      linarith
    · intro hzero
      have := hzero rfl
      linarith

/-- **A percentage is kept unless a mark groups its thousands or its minus sign is U+2212.** -/
theorem percent_kept_iff {formatType : String} (hformat : formatType.toLower = "percent")
    (cell : PercentText) :
    (∃ text, normalizedValue F formatType (.string cell.text) = some text ∧
        LiteralOf (cell.value / 100) text) ↔
      cell.number.marksThousands = false ∧ (cell.sign = .minusSign → cell.value = 0) := by
  rw [normalizedValue_percent F hformat, ← cell.keptFactor_value]
  constructor
  · intro ⟨text, hread, hvalue⟩
    cases hmarks : cell.number.marksThousands with
    | true =>
      rw [normalizedPercent_marked F hmarks] at hread
      cases hread
    | false =>
      obtain ⟨text', hread', hkept⟩ := normalizedPercent_unmarked F hmarks
      rw [hread', Option.some.injEq] at hread
      rw [hread] at hkept
      have hsame := hkept.unique hvalue
      exact ⟨rfl, by linarith⟩
  · intro ⟨hmarks, hsame⟩
    rw [← hsame]
    exact normalizedPercent_unmarked F hmarks

end

/-- Minus 1234.5 percent, its thousands grouped by a space. -/
def spacedPercent : PercentText where
  fence := some (true, false)
  sign := .minus
  number := .plain (some .narrowNoBreak) ⟨"1234".toList, by decide, by simp⟩
    (some (.comma, ⟨['5'], by decide, by simp⟩))
  spaces := ['\u00a0']
  areSpaces := by simp; decide

/-- Minus five percent, its sign U+2212. -/
def typographicPercent : PercentText where
  fence := none
  sign := .minusSign
  number := .plain none ⟨['5'], by decide, by simp⟩ none
  spaces := []
  areSpaces := by simp

/-- 1234.5 percent, its thousands grouped by a comma. -/
def commaPercent : PercentText where
  fence := none
  sign := .none
  number := .marked .point ⟨"1234".toList, by decide, by simp⟩
    ⟨['5'], by decide, by simp⟩
  spaces := []
  areSpaces := by simp

theorem percent_kept_iff_spaced : "percent".toLower = "percent" ∧
    ((∃ text, normalizedValue ℚ "percent" (.string spacedPercent.text) = some text ∧
        LiteralOf (spacedPercent.value / 100) text) ↔
      spacedPercent.number.marksThousands = false ∧
        (spacedPercent.sign = .minusSign → spacedPercent.value = 0)) :=
  ⟨by decide +kernel, percent_kept_iff ℚ (by decide +kernel) spacedPercent⟩

/-- **A minus sign U+2212 is lost, and a number with commas is not read.** -/
theorem percent_not_kept :
    (typographicPercent.text = "\u22125%" ∧
      normalizedValue ℚ "percent" (.string typographicPercent.text) = some "0.05" ∧
      ¬ LiteralOf (typographicPercent.value / 100) "0.05") ∧
    (commaPercent.text = "1,234.5%" ∧
      normalizedValue ℚ "percent" (.string commaPercent.text) = none) := by
  have hliteral : LiteralOf (5 / 100) "0.05" := ⟨⟨none, ['0'], some ['0', '5'], none⟩,
    by decide +kernel, by decide, by decide +kernel⟩
  refine ⟨⟨by decide +kernel, by decide +kernel, ?_⟩, by decide +kernel, by decide +kernel⟩
  intro hminus
  have hvalue : typographicPercent.value = -5 := by decide +kernel
  have := hminus.unique hliteral
  rw [hvalue] at this
  norm_num at this

end SuperhumanDocs
