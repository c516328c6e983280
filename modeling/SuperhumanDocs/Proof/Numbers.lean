import SuperhumanDocs.Bridge.Reference
import SuperhumanDocs.Proof.Document

/-!
# The numbers written

A number of DuckDB reaches the payload as a JSON number of the same value, but a scalar of the SDK
carries a binary64 number. So a cell denotes what was supplied exactly when that is a number of
binary64.

* `numbers_exact_iff`: when a cell of numbers denotes exactly what was supplied.
-/

set_option autoImplicit false

namespace SuperhumanDocs

open Binary (Binary64 F64 IeeeF64 binary64)
open Effect (bind_eq_ok mapM_eq_ok)
open Json (Number SerdeJson)

/-! ## What is supplied -/

/-- The formats written as JSON numbers. -/
def numericFormats : List String := ["number", "percent", "slider", "scale"]

section
variable {F : Type}

/-- A value of a numeric format, or of a currency, with its number. -/
inductive Amount (formatType : String) : DuckValue F → ℚ → Prop
  | number {value : DuckValue F} {q : ℚ} (hformat : formatType.toLower ∈ numericFormats)
    (hvalue : value.Denotes q) : Amount formatType value q
  | currency {currency amount : DuckValue F} {q : ℚ} (hformat : formatType.toLower = "currency")
    (hcurrency : (∃ type, currency = .null type) ∨ ∃ s typeAlias, currency = .text s typeAlias)
    (hamount : amount.Denotes q) :
    Amount formatType (.struct [("currency", currency), ("amount", amount)]) q

/-- The numbers a value supplies to a column. -/
inductive Supplies (column : Column) : DuckValue F → List ℚ → Prop
  | scalar {value : DuckValue F} {q : ℚ} (harray : column.isArray = false)
    (hvalue : Amount column.formatType value q) : Supplies column value [q]
  | list {items : List (DuckValue F)} {qs : List ℚ} (harray : column.isArray = true)
    (hitems : List.Forall₂ (Amount column.formatType) items qs) : Supplies column (.list items) qs
  | array {items : List (DuckValue F)} {qs : List ℚ} (harray : column.isArray = true)
    (hitems : List.Forall₂ (Amount column.formatType) items qs) : Supplies column (.array items) qs

end

/-! ## What is written -/

/-- The cell holds these numbers. -/
inductive Operations.Value.Denotes {F : Type} [IeeeF64 F] : Operations.Value F → List ℚ → Prop
  | scalar (x : F) : Denotes (.scalar (.number x)) [IeeeF64.toRat x]
  | flatList (xs : List F) : Denotes (.flatList (xs.map .number)) (xs.map IeeeF64.toRat)

theorem Operations.Value.Denotes.unique {F : Type} [IeeeF64 F] {cell : Operations.Value F}
    {qs qs' : List ℚ} (h : cell.Denotes qs) (h' : cell.Denotes qs') : qs = qs' := by
  cases h with
  | scalar x =>
    cases h'
    rfl
  | flatList xs =>
    generalize hcell : Operations.Value.flatList (xs.map .number) = cell at h'
    cases h' with
    | scalar x => cases hcell
    | flatList xs' =>
      have hmap : xs.map Operations.ScalarValue.number = xs'.map .number := by
        injection hcell
      rw [List.map_injective_iff.2 (fun a b h => by injection h) hmap]

section
variable {F : Type} [IeeeF64 F]

/-- A number in range is a scalar, of the same value for the numbers of binary64 only. -/
theorem scalarValue_number {n : Number} (h : |n.toRat| < 2 ^ 1023) :
    ∃ x : F, scalarValue (.number n) = .ok (.number x) ∧
      (IeeeF64.toRat x = n.toRat ↔ binary64.Represents n.toRat) := by
  have hfinite : F64.isFinite (F64.ofDecimal n.lexeme.decimal : F) = true :=
    IeeeF64.ofDecimal_finite _ h
  have hparse : (F64.parse n.text : Option F) = some (F64.ofDecimal n.lexeme.decimal) := by
    simp only [F64.parse, n.lex_text, Json.Lexeme.hasDigits_of_isJson n.lexeme_isJson, if_true]
  refine ⟨F64.ofDecimal n.lexeme.decimal, ?_, IeeeF64.ofDecimal_exact_iff h⟩
  simp only [scalarValue, asF64, hparse, Option.filter_some, hfinite, if_true]

/-- The item of a cell that a JSON value is written as. -/
def writtenItem {F : Type} [F64 F] (formatType : String) (v : Json.Value) :
    Except String (Operations.ScalarValue F) := do
  scalarValue (← simpleCellValue formatType v)

/-- The JSON value is reduced to a number of this value. -/
def Reduces (formatType : String) (v : Json.Value) (q : ℚ) : Prop :=
  ∃ n : Number, simpleCellValue formatType v = .ok (.number n) ∧ n.toRat = q ∧ |q| < 2 ^ 1023

theorem Reduces.written {formatType : String} {v : Json.Value} {q : ℚ}
    (h : Reduces formatType v q) : ∃ x : F, writtenItem formatType v = .ok (.number x) ∧
      (IeeeF64.toRat x = q ↔ binary64.Represents q) := by
  obtain ⟨n, hn, rfl, hrange⟩ := h
  obtain ⟨x, hx, hexact⟩ := @scalarValue_number F _ n hrange
  exact ⟨x, bind_eq_ok.2 ⟨_, hn, hx⟩, hexact⟩

theorem items_written {formatType : String} {vs : List Json.Value} {qs : List ℚ}
    (h : List.Forall₂ (Reduces formatType) vs qs) :
    ∃ xs : List F, vs.mapM (writtenItem formatType) = .ok (xs.map .number) ∧
      (xs.map IeeeF64.toRat = qs ↔ ∀ q ∈ qs, binary64.Represents q) := by
  induction h with
  | nil => exact ⟨[], rfl, by simp⟩
  | cons hv hvs ih =>
    obtain ⟨x, hx, hexact⟩ := @Reduces.written F _ _ _ _ hv
    obtain ⟨xs, hxs, hexacts⟩ := ih
    refine ⟨x :: xs, ?_, ?_⟩
    · rw [List.map_cons, mapM_eq_ok]
      exact .cons hx (mapM_eq_ok.1 hxs)
    · rw [List.map_cons, List.cons.injEq, hexact, hexacts, List.forall_mem_cons]

/-! ## What a supplied value is written as -/

/-- The formats that are not rich objects do not look into the value. -/
theorem simpleCellValue_numeric {formatType : String} (h : formatType.toLower ∈ numericFormats)
    (n : Number) : simpleCellValue formatType (.number n) = .ok (.number n) := by
  simp only [numericFormats, List.mem_cons, List.not_mem_nil, or_false] at h
  rcases h with h | h | h | h <;> simp [simpleCellValue, h, Json.Value.isNull, Json.Value.asObject,
    Json.Value.asArray]

/-- A currency is reduced to its amount. -/
theorem simpleCellValue_currency {formatType : String} (h : formatType.toLower = "currency")
    (n : Number) (fields : List (String × Json.Value)) :
    simpleCellValue formatType (.object (("amount", .number n) :: fields)) = .ok (.number n) := by
  simp [simpleCellValue, h, objectField, Json.lookup_cons_ite, Json.Value.isNull,
    Json.Value.asObject, Json.Value.asArray, Json.Value.asStr]

end

section
variable {F : Type} [F64 F] [SerdeJson]

theorem cellValue_scalar {column : Column} {input : RustExtInputValue F} {v : Json.Value}
    {item : Operations.ScalarValue F} (harray : column.isArray = false)
    (hv : inputValueJson input = .ok v) (hitem : writtenItem column.formatType v = .ok item) :
    cellValue column input = .ok (.scalar item) := by
  obtain ⟨simple, hsimple, hscalar⟩ := bind_eq_ok.1 hitem
  simp [cellValue, hv, harray, bind, Except.bind, hsimple, hscalar, pure, Except.pure]

theorem cellValue_array {column : Column} {input : RustExtInputValue F} {vs : List Json.Value}
    {items : List (Operations.ScalarValue F)} (harray : column.isArray = true)
    (hv : inputValueJson input = .ok (.array vs))
    (hitems : vs.mapM (writtenItem column.formatType) = .ok items) :
    cellValue column input = .ok (.flatList items) := by
  unfold writtenItem at hitems
  simp only [cellValue, hv, harray, Json.Value.asArray, if_true]
  exact bind_eq_ok.2 ⟨_, rfl, bind_eq_ok.2 ⟨_, hitems, rfl⟩⟩

end

section
variable {F : Type} [IeeeF64 F] [SerdeJson] [DuckDb F]

/-- **A supplied number becomes a document that reduces to a number of the same value.** -/
theorem Amount.document {formatType : String} {value : DuckValue F} {q : ℚ}
    (h : Amount formatType value q) :
    ∃ v, (rustBridgeJsonValue value).value = some v ∧ (∀ depth, v.readable (depth + 1) = true) ∧
      SuperhumanDocs.document value = .ok v.canonicalize ∧ Reduces formatType v.canonicalize q := by
  cases h with
  | number hformat hvalue =>
    obtain ⟨n, hn, hplain, hdocument, htree⟩ := hvalue.document
    exact ⟨.number n, htree, fun _ => hplain, hdocument, n, simpleCellValue_numeric hformat n, hn,
      hvalue.in_range⟩
  | @currency currency amount q hformat hcurrency hamount =>
    obtain ⟨n, hn, hplain, -, htree⟩ := hamount.document
    obtain ⟨c, hc, hread, hcanon⟩ : ∃ c, (rustBridgeJsonValue currency).value = some c ∧
        (∀ depth, c.readable depth = true) ∧ c.canonicalize = c := by
      rcases hcurrency with ⟨type, rfl⟩ | ⟨s, typeAlias, rfl⟩
      · exact ⟨.null, rfl, fun _ => rfl, rfl⟩
      · refine ⟨.string s, ?_, fun _ => rfl, rfl⟩
        rw [rustBridgeJsonValue, DuckDb.toString_text, MutVal.value]
    have hv : (rustBridgeJsonValue (.struct [("currency", currency), ("amount", amount)])).value =
        some (.object [("currency", c), ("amount", .number n)]) := by
      simp [rustBridgeJsonValue, rustBridgeJsonFields, MutVal.value, objValues, hc, htree]
    have hr (depth : Nat) : (Json.Value.object [("currency", c), ("amount", .number n)]).readable
        (depth + 1) = true := by
      simp [Json.Value.readable, Json.readableFields, hread, hplain]
    -- the fields are sorted by name
    have hsorted : (Json.Value.object [("currency", c), ("amount", .number n)]).canonicalize =
        .object [("amount", .number n), ("currency", c)] := by
      have hlt : "amount" < "currency" := by decide
      simp [Json.Value.canonicalize, Json.canonicalizeFields, Json.insert, hlt, hcanon]
    refine ⟨_, hv, hr, document_composite rfl hv (hr 126), n, ?_, hn, hamount.in_range⟩
    rw [hsorted]
    exact simpleCellValue_currency hformat n _

theorem items_document {formatType : String} {items : List (DuckValue F)} {qs : List ℚ}
    (h : List.Forall₂ (Amount formatType) items qs) :
    ∃ vs, arrValues (rustBridgeJsonItems items) = some vs ∧
      (∀ depth, Json.readableItems (depth + 1) vs = true) ∧
      List.Forall₂ (Reduces formatType) (Json.canonicalizeItems vs) qs := by
  induction h with
  | nil => exact ⟨[], rfl, fun _ => rfl, .nil⟩
  | cons hv hvs ih =>
    obtain ⟨v, hvalue, hread, -, hreduces⟩ := hv.document
    obtain ⟨vs, hvalues, hreads, hall⟩ := ih
    refine ⟨v :: vs, ?_, fun depth => ?_, .cons hreduces hall⟩
    · rw [rustBridgeJsonItems, arrValues, hvalue, hvalues]
    · rw [Json.readableItems, hread, hreads, Bool.and_self]

/-- **A supplied value is written, as what it denotes for the numbers of binary64 only.** -/
theorem Supplies.written {column : Column} {value : DuckValue F} {qs : List ℚ}
    (h : Supplies column value qs) :
    ∃ input cell, convert value = .ok input ∧ cellValue column input = .ok cell ∧
      (cell.Denotes qs ↔ ∀ q ∈ qs, binary64.Represents q) := by
  -- a list and an array are one document
  have hlist (value : DuckValue F) (items : List (DuckValue F)) (qs : List ℚ)
      (harray : column.isArray = true) (hitems : List.Forall₂ (Amount column.formatType) items qs)
      (hcomposite : value.isComposite = true)
      (htree : rustBridgeJsonValue value = .arr (rustBridgeJsonItems items)) :
      ∃ input cell, convert value = .ok input ∧ cellValue column input = .ok cell ∧
        (cell.Denotes qs ↔ ∀ q ∈ qs, binary64.Represents q) := by
    obtain ⟨vs, hvs, hread, hall⟩ := items_document hitems
    have hvalue : (rustBridgeJsonValue value).value = some (.array vs) := by
      rw [htree, MutVal.value, hvs]
      rfl
    have hdocument := document_composite hcomposite hvalue (hread 125)
    obtain ⟨input, hinput, hv⟩ := document_eq_ok.1 hdocument
    obtain ⟨xs, hxs, hexact⟩ := @items_written F _ _ _ _ hall
    refine ⟨input, .flatList (xs.map .number), hinput, cellValue_array harray hv hxs, ?_⟩
    · rw [← hexact]
      constructor
      · exact fun hdenotes => (Operations.Value.Denotes.flatList xs).unique hdenotes
      · rintro rfl
        exact .flatList xs
  cases h with
  | @scalar value q harray hvalue =>
    obtain ⟨v, -, -, hdocument, hreduces⟩ := hvalue.document
    obtain ⟨input, hinput, hv⟩ := document_eq_ok.1 hdocument
    obtain ⟨x, hx, hexact⟩ := @Reduces.written F _ _ _ _ hreduces
    refine ⟨input, .scalar (.number x), hinput, cellValue_scalar harray hv hx, ?_⟩
    · rw [List.forall_mem_singleton, ← hexact]
      constructor
      · intro hdenotes
        exact List.singleton_inj.1 ((Operations.Value.Denotes.scalar x).unique hdenotes)
      · rintro rfl
        exact .scalar x
  | list harray hitems => exact hlist _ _ _ harray hitems rfl rfl
  | array harray hitems => exact hlist _ _ _ harray hitems rfl rfl

/-! ## Payloads -/

def writtenCell (omitNulls : Bool) (column : RustExtWriteColumn) (value : DuckValue F) :
    Except String (Option (Operations.CellEdit F)) := do
  writeCell omitNulls column (← convert value)

end

theorem Supplies.non_null {F : Type} {column : Column} {value : DuckValue F} {qs : List ℚ}
    (h : Supplies column value qs) : value.isNull = false := by
  cases h with
  | scalar harray hvalue =>
    cases hvalue with
    | number hformat hvalue => cases hvalue <;> rfl
    | currency hformat hcurrency hamount => rfl
  | list harray hitems => rfl
  | array harray hitems => rfl

section
variable {F : Type} [IeeeF64 F] [SerdeJson] [DuckDb F]

/-- **The cell of an editable column that a value is supplied to.** -/
theorem Supplies.cell {column : Column} {value : DuckValue F} {qs : List ℚ}
    (h : Supplies column value qs) {capabilities : Nat}
    (hedit : supports capabilities rustExtColumnEditable = true) :
    ∃ input edit, convert value = .ok input ∧ edit.column = column.id ∧
      (∀ omitNulls, writeCell omitNulls ⟨some column, capabilities⟩ input = .ok (some edit)) ∧
      (edit.value.Denotes qs ↔ ∀ q ∈ qs, binary64.Represents q) := by
  obtain ⟨input, cell, hinput, hcell, hexact⟩ := h.written
  have hnull : input.valueType ≠ rustExtInputNull := by
    rw [convert_valueType hinput]
    exact inputType_ne_null h.non_null
  refine ⟨input, ⟨column.id, cell⟩, hinput, rfl, fun omitNulls => ?_, hexact⟩
  simp [writeCell, hedit, hnull, columnFromHandle, refFromRaw, hcell, bind, Except.bind, pure,
    Except.pure]

/-- A cell of the row has the column's id and holds exactly these numbers. -/
def HoldsExactly (column : Column) (qs : List ℚ) (row : Operations.RowEdit F) : Prop :=
  ∃ edit ∈ row.cells, edit.column = column.id ∧ edit.value.Denotes qs

/-- Whenever an insert or an update that passes the value to the column has a payload, the cell
holds exactly these numbers. -/
structure WrittenExactly (column : Column) (capabilities : Nat) (value : DuckValue F)
    (qs : List ℚ) : Prop where
  insert : ∀ columns values rowCount valueColumnCount tableCapabilities payload rowIndex input,
    convert value = .ok input →
    insertPayload columns values rowCount valueColumnCount tableCapabilities = .ok payload →
    rowIndex < rowCount →
    (⟨some column, capabilities⟩, input) ∈
      columns.zip (rowValues values rowIndex valueColumnCount) →
    ∃ row, payload.rows[rowIndex]? = some row ∧ HoldsExactly column qs row
  update : ∀ columns values tableCapabilities payload input, convert value = .ok input →
    updatePayload columns values tableCapabilities = .ok payload →
    (⟨some column, capabilities⟩, input) ∈ columns.zip values →
    HoldsExactly column qs payload.row

/-- What is written exactly has an exact cell: that of an update of the column alone. -/
theorem WrittenExactly.denotes {column : Column} {capabilities : Nat} {value : DuckValue F}
    {qs : List ℚ} (h : WrittenExactly column capabilities value qs) {input : RustExtInputValue F}
    (hinput : convert value = .ok input) {edit : Operations.CellEdit F}
    (hwrite : writeCell false ⟨some column, capabilities⟩ input = .ok (some edit)) :
    edit.value.Denotes qs := by
  have hrow : writeCells [⟨some column, capabilities⟩] [input] false = .ok { cells := [edit] } :=
    bind_eq_ok.2 ⟨[some edit], mapM_eq_ok.2 (.cons hwrite .nil), rfl⟩
  have hpayload : updatePayload [⟨some column, capabilities⟩] [input] rustExtTableUpdate =
      .ok { row := { cells := [edit] } } := bind_eq_ok.2 ⟨_, hrow, rfl⟩
  obtain ⟨edit', hmem, -, hdenotes⟩ := h.update _ _ _ _ input hinput hpayload (.head _)
  rwa [List.mem_singleton.1 hmem] at hdenotes

section
variable {column : Column} {capabilities : Nat}
  (hedit : supports capabilities rustExtColumnEditable = true)
include hedit

theorem Supplies.holdsExactly {value : DuckValue F} {qs : List ℚ} (h : Supplies column value qs)
    (hqs : ∀ q ∈ qs, binary64.Represents q) {input : RustExtInputValue F}
    (hinput : convert value = .ok input) {columns : List RustExtWriteColumn}
    {values : List (RustExtInputValue F)} {omitNulls : Bool} {row : Operations.RowEdit F}
    (hrow : writeCells columns values omitNulls = .ok row)
    (hpair : (⟨some column, capabilities⟩, input) ∈ columns.zip values) :
    HoldsExactly column qs row := by
  obtain ⟨input', edit, hinput', hid, hwrite, hexact⟩ := h.cell hedit
  cases hinput.symm.trans hinput'
  obtain ⟨cell, hcell, hmem⟩ := writeCells_cells hrow _ hpair
  cases hcell.symm.trans (hwrite omitNulls)
  exact ⟨edit, hmem edit rfl, hid, hexact.2 hqs⟩

/-- **When numbers are written exactly**: when they are numbers of binary64. Among these no two
are written as the same cell. -/
theorem numbers_exact_iff {value : DuckValue F} {qs : List ℚ} (h : Supplies column value qs) :
    (WrittenExactly column capabilities value qs ↔ ∀ q ∈ qs, binary64.Represents q) ∧
    ((∀ q ∈ qs, binary64.Represents q) → ∀ value' qs', Supplies column value' qs' →
      (∀ q ∈ qs', binary64.Represents q) → ∀ omitNulls,
      writtenCell omitNulls ⟨some column, capabilities⟩ value' =
        writtenCell omitNulls ⟨some column, capabilities⟩ value → qs' = qs) := by
  obtain ⟨input, edit, hinput, hid, hwrite, hexact⟩ := h.cell hedit
  refine ⟨⟨fun hwritten => hexact.1 (hwritten.denotes hinput (hwrite false)), fun hqs => ⟨?_, ?_⟩⟩,
    ?_⟩
  · intro columns values rowCount width tableCapabilities payload rowIndex input hinput hpayload
      hlt hpair
    obtain ⟨row, hget, hrow⟩ := insertPayload_rows hpayload rowIndex hlt
    exact ⟨row, hget, h.holdsExactly hedit hqs hinput hrow hpair⟩
  · intro columns values tableCapabilities payload input hinput hpayload hpair
    exact h.holdsExactly hedit hqs hinput (updatePayload_row hpayload) hpair
  · intro hqs value' qs' h' hqs' omitNulls heq
    obtain ⟨input', edit', hinput', -, hwrite', hexact'⟩ := h'.cell hedit
    have hcell : writtenCell omitNulls ⟨some column, capabilities⟩ value = .ok (some edit) :=
      bind_eq_ok.2 ⟨input, hinput, hwrite omitNulls⟩
    have hcell' : writtenCell omitNulls ⟨some column, capabilities⟩ value' = .ok (some edit') :=
      bind_eq_ok.2 ⟨input', hinput', hwrite' omitNulls⟩
    cases hcell'.symm.trans (heq.trans hcell)
    exact (hexact'.2 hqs').unique (hexact.2 hqs)

end

end

/-! ## Two numbers in one cell -/

open Json.Reference Reference

/-- The column of a number, to be written. -/
def numberColumn : Column where
  id := "c2"
  name := "Amount"
  formatType := "number"
  duckdbType := "DECIMAL(38,20)"
  duckdbTypeAlias := ""
  isArray := false
  capabilities := rustExtColumnEditable ||| rustExtColumnFilterEquality

theorem supplies_int (i : Int) (low : -2 ^ 63 ≤ i) (high : i < 2 ^ 63) :
    Supplies numberColumn (.int i : DuckValue Binary64) [(i : ℚ)] :=
  .scalar rfl (.number (by decide +kernel) (.int i low high))

theorem numbers_exact_iff_five :
    WrittenExactly numberColumn numberColumn.capabilities (.int 5 : DuckValue Binary64) [5] :=
  ((numbers_exact_iff (by decide) (supplies_int 5 (by decide) (by decide))).1).2 fun q hq => by
    rw [List.mem_singleton.1 hq]
    exact ⟨5, 0, by decide, by decide, by decide, by norm_num⟩

/-- The cell of `2 ^ 53`. -/
def cellOfTwoPow53 : Operations.CellEdit Binary64 where
  column := "c2"
  value := .scalar (.number (.finite ⟨false, 2 ^ 52, 1, by decide⟩ (by decide) (by decide)))

/-- **Two numbers are written as one cell**, so the second is not written exactly. -/
theorem numbers_collide :
    writtenCell false ⟨some numberColumn, numberColumn.capabilities⟩
        (.int (2 ^ 53) : DuckValue Binary64) =
      writtenCell false ⟨some numberColumn, numberColumn.capabilities⟩ (.int (2 ^ 53 + 1)) ∧
    ¬ WrittenExactly numberColumn numberColumn.capabilities
        (.int (2 ^ 53 + 1) : DuckValue Binary64) [((2 ^ 53 + 1 : Int) : ℚ)] := by
  have hcell : writtenCell false ⟨some numberColumn, numberColumn.capabilities⟩
      (.int (2 ^ 53) : DuckValue Binary64) = .ok (some cellOfTwoPow53) := by decide +kernel
  have hcell' : writtenCell false ⟨some numberColumn, numberColumn.capabilities⟩
      (.int (2 ^ 53 + 1) : DuckValue Binary64) = .ok (some cellOfTwoPow53) := by decide +kernel
  refine ⟨hcell.trans hcell'.symm, fun hwritten => ?_⟩
  obtain ⟨input, hinput, hwrite⟩ := bind_eq_ok.1 hcell'
  have heq := (hwritten.denotes hinput hwrite).unique (Operations.Value.Denotes.scalar _)
  have hvalue : (9007199254740993 : ℚ) = 4503599627370496 * 2 := by
    simpa [IeeeF64.toRat, Binary64.toRat, Binary.Finite.toRat, Binary.Finite.significand] using heq
  norm_num at hvalue

end SuperhumanDocs
