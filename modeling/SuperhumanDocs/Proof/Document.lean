import SuperhumanDocs.Bridge.Value
import SuperhumanDocs.Mutation.Payload

/-!
# Values as JSON

`document` is the JSON value that a value of DuckDB arrives as: directly for the simple types, by
way of a text for decimals and huge integers, and by way of a written document for the composite
types.

* `Denotes.document`: an exact number arrives as a JSON number of the same value.
* `document_composite`: a composite value arrives as the document it is written as.
-/

set_option autoImplicit false

namespace SuperhumanDocs

open Binary (F64)
open Effect (bind_eq_ok)
open Json (Number SerdeJson)

/-! ## Exact numbers -/

/-- The value of an integer, a huge integer or a decimal within the bounds of its type. -/
inductive DuckValue.Denotes {F : Type} : DuckValue F → ℚ → Prop
  | int (i : Int) (low : -2 ^ 63 ≤ i) (high : i < 2 ^ 63) : Denotes (.int i) i
  | uint (n : Nat) (high : n < 2 ^ 64) : Denotes (.uint n) n
  | hugeint (i : Int) (low : -2 ^ 127 ≤ i) (high : i < 2 ^ 127) : Denotes (.hugeint i) i
  | uhugeint (n : Nat) (high : n < 2 ^ 128) : Denotes (.uhugeint n) n
  | decimal (width scale : Nat) (z : Int) (hscale : scale < width) (hwidth : width ≤ 38)
    (hz : |z| < 10 ^ width) : Denotes (.decimal width scale z) (z / 10 ^ scale)

/-- Exact numbers are far within the range of binary64. -/
theorem DuckValue.Denotes.in_range {F : Type} {value : DuckValue F} {q : ℚ} (h : value.Denotes q) :
    |q| < 2 ^ 1023 := by
  have hint (i : Int) (hi : |i| < 2 ^ 128) : |(i : ℚ)| < 2 ^ 1023 := by
    have hq : |(i : ℚ)| < 2 ^ 128 := by exact_mod_cast hi
    exact hq.trans (pow_lt_pow_right₀ (by norm_num) (by decide))
  cases h with
  | int i low high => exact hint i (abs_lt.2 (by omega))
  | uint n high =>
    rw [← Int.cast_natCast]
    exact hint n (by rw [Nat.abs_cast]; omega)
  | hugeint i low high => exact hint i (abs_lt.2 (by omega))
  | uhugeint n high =>
    rw [← Int.cast_natCast]
    exact hint n (by rw [Nat.abs_cast]; omega)
  | decimal width scale z hscale hwidth hz =>
    have hpow : (10 : Int) ^ width ≤ 10 ^ 38 := pow_le_pow_right₀ (by norm_num) hwidth
    have hbound : (10 : Int) ^ 38 < 2 ^ 128 := by decide
    have hone : (1 : ℚ) ≤ 10 ^ scale := one_le_pow₀ (by norm_num)
    rw [abs_div, abs_of_pos (zero_lt_one.trans_le hone)]
    exact (div_le_self (abs_nonneg _) hone).trans_lt (hint z (by omega))

/-! ## Documents -/

/-- A list, an array or a struct. -/
def DuckValue.isComposite {F : Type} : DuckValue F → Bool
  | .list _ | .array _ | .struct _ => true
  | _ => false

section
variable {F : Type} [F64 F] [SerdeJson] [DuckDb F]

/-- The JSON value that a value arrives as. -/
def document (value : DuckValue F) : Except String Json.Value := do
  inputValueJson (← convert value)

theorem document_eq_ok {value : DuckValue F} {v : Json.Value} :
    document value = .ok v ↔ ∃ input, convert value = .ok input ∧ inputValueJson input = .ok v :=
  bind_eq_ok

theorem document_boolean (b : Bool) : document (.boolean b : DuckValue F) = .ok (.bool b) := rfl

theorem document_text (s typeAlias : String) :
    document (.text s typeAlias : DuckValue F) = .ok (.string s) := by
  simp only [document, convert, bind, Except.bind, inputValueJson, rustExtInputString,
    DuckDb.toString_text]

/-- A number passed as its text. -/
theorem fromStr_number {n : Number} (h : n.plain = true) :
    SerdeJson.fromStr n.text = .ok (.number n) := by
  have hprint : (Json.Value.number n).print = n.text := String.ofList_toList
  rw [← hprint]
  exact SerdeJson.fromStr_print (.number n) h

/-- **An exact number arrives as a JSON number of the same value**, alone or within a document. -/
theorem DuckValue.Denotes.document {value : DuckValue F} {q : ℚ} (h : value.Denotes q) :
    ∃ n : Number, n.toRat = q ∧ n.plain = true ∧ SuperhumanDocs.document value = .ok (.number n) ∧
      (rustBridgeJsonValue value).value = some (.number n) := by
  have htext (value : DuckValue F) (n : Number) (hn : n.plain = true)
      (hconvert : SuperhumanDocs.document value =
        (SerdeJson.fromStr (DuckDb.toString value)).mapError fun error =>
          s!"invalid composite DuckDB value: {error}")
      (hvalue : rustBridgeJsonValue value = .raw (DuckDb.toString value))
      (hstring : DuckDb.toString value = n.text) :
      SuperhumanDocs.document value = .ok (.number n) ∧
        (rustBridgeJsonValue value).value = some (.number n) := by
    constructor
    · rw [hconvert, hstring, fromStr_number hn]
      rfl
    · rw [hvalue, hstring, MutVal.value, dif_pos n.valid]
  cases h with
  | int i low high => exact ⟨_, Number.toRat_ofInt i, Number.plain_ofInt i, rfl, rfl⟩
  | uint n high => exact ⟨_, Number.toRat_ofInt n, Number.plain_ofInt n, rfl, rfl⟩
  | hugeint i low high =>
    exact ⟨_, Number.toRat_ofInt i, Number.plain_ofInt i,
      htext _ _ (Number.plain_ofInt i) rfl rfl (DuckDb.toString_hugeint i)⟩
  | uhugeint n high =>
    exact ⟨_, Number.toRat_ofInt n, Number.plain_ofInt n,
      htext _ _ (Number.plain_ofInt n) rfl rfl (DuckDb.toString_uhugeint n)⟩
  | decimal width scale z hscale hwidth hz =>
    exact ⟨_, Number.toRat_ofFixed z scale, Number.plain_ofFixed z scale,
      htext _ _ (Number.plain_ofFixed z scale) rfl rfl (DuckDb.toString_decimal width scale z hscale)⟩

/-- **A composite value arrives as the document it is written as.** -/
theorem document_composite {value : DuckValue F} {v : Json.Value} (h : value.isComposite = true)
    (hv : (rustBridgeJsonValue value).value = some v) (hr : v.readable Json.maxDepth = true) :
    document value = .ok v.canonicalize := by
  obtain ⟨text, hwrite, hread⟩ := DuckDb.fromStr_writeJson _ v hv hr
  have hjson : rustBridgeJson value = .ok text := by
    rw [rustBridgeJson, hwrite]
    rfl
  have hconvert : convert value = .ok { RustExtInputValue.zero with
      valueType := rustExtInputJson, stringValue := text } := by
    cases value with
    | list items | array items | struct fields => exact bind_eq_ok.2 ⟨text, hjson, rfl⟩
    | _ => cases h
  refine document_eq_ok.2 ⟨_, hconvert, ?_⟩
  change (SerdeJson.fromStr text).mapError _ = _
  rw [hread]
  rfl

end

end SuperhumanDocs
