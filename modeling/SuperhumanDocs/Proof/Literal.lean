import SuperhumanDocs.Catalog
import SuperhumanDocs.Proof.Numbers
import SuperhumanDocs.Proof.Planning
import SuperhumanDocs.Proof.ScanValue

/-!
# Literals of scanned values

A filter `col = s` that is pushed down leaves the plan, so a row whose cell reads as `s` is kept
only when the literal of `s` decodes to that cell. For the columns that can be filtered on and
read as `BOOLEAN`, `DECIMAL`, `VARCHAR` or `JSON`, `Decodes` says for which cells it does.

* `literal_of_boolean`, `literal_of_number`, `literal_of_text`, `literal_of_json`: the four cases.
* `equality_keeps_iff`: when the pushed query keeps the row that the removed filter would keep.
-/

set_option autoImplicit false

namespace SuperhumanDocs

open Binary (Binary64 F64)
open Effect (bind_eq_ok)
open Json (Number SerdeJson)

/-! ## Formats -/

def textFormats : List String := ["text", "email", "select"]

def richFormats : List String :=
  ["date", "datetime", "time", "duration", "currency", "image", "person", "link", "hyperlink",
    "lookup"]

/-- The DuckDB types of the columns compared here; `JSON` is an alias of `VARCHAR`. -/
def comparedTypes : List String := ["BOOLEAN", "DECIMAL(38,20)", "VARCHAR"]

/-- What a format is, as far as reading and filtering go. -/
inductive FormatCase (formatType : String) : Prop
  | checkbox (hformat : formatType.toLower = "checkbox")
    (htype : scalarType formatType = "BOOLEAN") (halias : logicalTypeAlias formatType = "")
  | numeric (hformat : formatType.toLower ∈ numericFormats)
    (htype : scalarType formatType = "DECIMAL(38,20)") (halias : logicalTypeAlias formatType = "")
  | text (hformat : formatType.toLower ∈ textFormats)
    (htype : scalarType formatType = "VARCHAR") (halias : logicalTypeAlias formatType = "")
  | unsupported (hformat : formatType.toLower ≠ "checkbox" ∧
      formatType.toLower ∉ numericFormats ∧ formatType.toLower ∉ textFormats)
    (htype : scalarType formatType = "VARCHAR") (halias : logicalTypeAlias formatType = "JSON")
    (htext : ∀ (F : Type) [F64 F] (v : Json.Value), normalizedValue F formatType v = some v.print)

/-- **The formats behind the compared types.** -/
theorem format_cases {formatType : String} (h : scalarType formatType ∈ comparedTypes) :
    FormatCase formatType := by
  have htext : formatType.toLower ∈ textFormats → FormatCase formatType := by
    intro hformat
    have hall := hformat
    simp only [textFormats, List.mem_cons, List.not_mem_nil, or_false] at hall
    rcases hall with hlower | hlower | hlower <;>
      exact .text hformat (by simp [scalarType, hlower]) (by simp [logicalTypeAlias, hlower])
  have hnumeric : formatType.toLower ∈ numericFormats → FormatCase formatType := by
    intro hformat
    have hall := hformat
    simp only [numericFormats, List.mem_cons, List.not_mem_nil, or_false] at hall
    rcases hall with hlower | hlower | hlower | hlower <;>
      exact .numeric hformat (by simp [scalarType, hlower]) (by simp [logicalTypeAlias, hlower])
  by_cases hcheckbox : formatType.toLower = "checkbox"
  · exact .checkbox hcheckbox (by simp [scalarType, hcheckbox])
      (by simp [logicalTypeAlias, hcheckbox])
  by_cases hin : formatType.toLower ∈ textFormats
  · exact htext hin
  by_cases hin' : formatType.toLower ∈ numericFormats
  · exact hnumeric hin'
  -- of the other formats only the default one has a compared type
  simp only [textFormats, numericFormats, List.mem_cons, List.not_mem_nil, or_false, not_or]
    at hin hin'
  have hrich : formatType.toLower ∉ richFormats := by
    intro hrich
    simp only [richFormats, List.mem_cons, List.not_mem_nil, or_false] at hrich
    rcases hrich with hlower | hlower | hlower | hlower | hlower | hlower | hlower | hlower |
      hlower | hlower <;> simp [scalarType, hlower, comparedTypes] at h
  simp only [richFormats, List.mem_cons, List.not_mem_nil, or_false, not_or] at hrich
  refine .unsupported ⟨hcheckbox, ?_, ?_⟩ ?_ ?_ fun F _ v => ?_
  · simp [numericFormats, hin']
  · simp [textFormats, hin]
  · simp [scalarType, hin, hin', hrich]
  · simp [logicalTypeAlias, hin, hin', hrich]
  · simp [normalizedValue, hin, hin', hrich]

/-! ## What the server keeps -/

/-- What a cell counts as: a fenced text is its content. -/
def cellContent : Json.Value → Json.Value
  | .string s => .string (unfenceRichText s)
  | v => v

/-- The server keeps a row with this cell: the literal of the query decodes to it. -/
def Keeps [SerdeJson] (columnId query : String) (v : Json.Value) : Prop :=
  ∃ text decoded, query = columnId ++ ":" ++ text ∧ SerdeJson.fromStr text = .ok decoded ∧
    decoded.same (cellContent v) = true

/-- The cells of a format that the literal of their scanned value decodes to. -/
inductive Decodes (formatType : String) : Json.Value → Prop
  | boolean (hformat : formatType.toLower = "checkbox") (b : Bool) : Decodes formatType (.bool b)
  | number (hformat : formatType.toLower ∈ numericFormats) (n : Number) (z : Int)
    (hz : |z| < 10 ^ 38) (hn : n.toRat = z / 10 ^ 20) : Decodes formatType (.number n)
  | text (hformat : formatType.toLower ∈ textFormats) (s : String) : Decodes formatType (.string s)

theorem keeps_print [SerdeJson] {columnId : String} {literal : Json.Value}
    (h : literal.readable Json.maxDepth = true) (v : Json.Value) :
    Keeps columnId (columnId ++ ":" ++ literal.print) v ↔
      literal.canonicalize.same (cellContent v) = true := by
  have hread := SerdeJson.fromStr_print literal h
  constructor
  · intro ⟨text, decoded, hquery, hdecoded, hsame⟩
    have htext : literal.print = text := by
      rw [← String.toList_inj]
      simpa using congrArg String.toList hquery
    cases hread.symm.trans (htext ▸ hdecoded)
    exact hsame
  · intro hsame
    exact ⟨_, _, rfl, hread, hsame⟩

theorem same_bool {b : Bool} {v : Json.Value} :
    (Json.Value.bool b).same (cellContent v) = true ↔ v = .bool b := by
  cases v with
  | bool c =>
    simp only [Json.Value.same, cellContent, beq_iff_eq]
    exact eq_comm
  | _ => simp [Json.Value.same, cellContent]

theorem same_string {s : String} {v : Json.Value} :
    (Json.Value.string s).same (cellContent v) = true ↔
      ∃ inner, v = .string inner ∧ unfenceRichText inner = s := by
  cases v with
  | string inner =>
    simp only [Json.Value.same, cellContent, beq_iff_eq, Json.Value.string.injEq, exists_eq_left']
    exact eq_comm
  | _ => simp [Json.Value.same, cellContent]

theorem same_number {n : Number} {v : Json.Value} :
    (Json.Value.number n).same (cellContent v) = true ↔
      ∃ m, v = .number m ∧ n.toRat = m.toRat := by
  cases v <;> simp [Json.Value.same, cellContent]

/-- The printed text of a value is not what the value fences. -/
theorem unfence_ne_print (s : String) : unfenceRichText s ≠ (Json.Value.string s).print := by
  intro h
  have hlength := Json.length_quote s
  have hle := length_unfence s
  rw [h, Json.Value.toList_print, Json.Value.chars] at hle
  omega

/-! ## What a column reads -/

section
variable {F : Type} [F64 F] [SerdeJson] [DuckDb F]

variable (F) in
/-- The type of a column in DuckDB. -/
def columnType (column : Column) : LogicalType :=
  applyValueTypeAlias (DuckDb.parseType F column.duckdbType) column.duckdbTypeAlias

variable (F) in
/-- The type of a listed scalar is that of its format. -/
theorem columnType_eq {column : Column} (hlisted : column.Listed)
    (harray : column.isArray = false) :
    columnType F column = applyValueTypeAlias (DuckDb.parseType F (scalarType column.formatType))
      (logicalTypeAlias column.formatType) := by
  rw [columnType, hlisted.duckdbType, logicalType, if_neg (by simp [harray]),
    hlisted.duckdbTypeAlias]

/-- The value that a column reads in a row. -/
def scannedValue (column : Column) (row : Row) : DuckValue F :=
  scanColumnValue ⟨ffiColumn column, columnType F column⟩ ⟨some row, row.id⟩

/-- **What a listed column that can be filtered on reads**: the text of its first cell, as a value
of its type. -/
theorem scannedValue_some {column : Column} (hlisted : column.Listed)
    (hfilter : supports column.capabilities rustExtColumnFilterEquality = true) {row : Row}
    {cell : Cell} (hcell : firstCell column row = some cell) (hnull : cell.value.isNull = false)
    (htype : ∀ child typeAlias, columnType F column ≠ .list child typeAlias)
    (hvalue : (scannedValue column row : DuckValue F).isNull = false) :
    ∃ text, normalizedValue F column.formatType cell.value = some text ∧
      scannedValue column row = (scanTextToValue text (columnType F column) : DuckValue F) := by
  have harray := hlisted.scalar hfilter
  have hsystem : supports column.capabilities rustExtColumnSystem = false := by
    obtain ⟨calculated, hcapabilities⟩ := hlisted.capabilities
    rw [hcapabilities, harray]
    cases calculated <;> rfl
  have hscan : scanValue F column row = scanCell F column cell.value :=
    scanValue_of_firstCell F hsystem hcell
  have hread : (scannedValue column row : DuckValue F) =
      scanValueToValue (scanCell F column cell.value) (columnType F column) := by
    rw [← hscan]
    rfl
  rw [hread] at hvalue ⊢
  cases htext : normalizedValue F column.formatType cell.value with
  | none =>
    simp [scanCell, hnull, harray, htext, scanValueToValue, RustExtScanValue.default,
      DuckValue.isNull] at hvalue
  | some text =>
    refine ⟨text, rfl, ?_⟩
    simp only [scanCell, hnull, harray, htext, scanValueToValue, Bool.false_eq_true, if_false]

end

section
variable {F : Type} [F64 F]

/-- The text of a number, also of a percentage. -/
theorem normalizedValue_number {formatType : String} (h : formatType.toLower ∈ numericFormats)
    (n : Number) : normalizedValue F formatType (.number n) = some n.text := by
  have htext : scalarText (.number n) = some n.text := by
    rw [scalarText, Json.Value.print, Json.Value.chars, String.ofList_toList]
  have hparse : (F64.parse n.text : Option F).isSome = true := by
    simp [F64.parse, n.lex_text, Json.Lexeme.hasDigits_of_isJson n.lexeme_isJson]
  simp only [numericFormats, List.mem_cons, List.not_mem_nil, or_false] at h
  rcases h with h | h | h | h <;>
    simp [normalizedValue, h, normalizedPercent, htext, hparse]

end

section
variable {F : Type} [F64 F] [SerdeJson] [DuckDb F]

/-! ## The query of a value -/

/-- The query of a value keeps the cells that its literal decodes to. -/
theorem query_keeps {value : DuckValue F} {literal : Json.Value} (hvalue : value.isNull = false)
    (hliteral : document value = .ok literal) (hread : literal.readable Json.maxDepth = true)
    (columnId columnName : String) :
    ∃ input query description, convert value = .ok input ∧
      buildEqualityQuery columnId columnName input = .ok (query, description) ∧
      ∀ v, Keeps columnId query v ↔ literal.canonicalize.same (cellContent v) = true := by
  obtain ⟨input, hinput, hjson⟩ := document_eq_ok.1 hliteral
  have hnull : input.valueType ≠ rustExtInputNull := by
    rw [convert_valueType hinput]
    exact inputType_ne_null hvalue
  exact ⟨input, _, _, hinput, (buildEqualityQuery_eq_ok hnull).2 ⟨rfl, literal, hjson, rfl⟩,
    keeps_print hread⟩

/-! ## The four types -/

/-- The value has a literal, which decodes to the cell exactly when the format's cells do. -/
def LiteralDecodes (formatType : String) (v : Json.Value) (value : DuckValue F) : Prop :=
  ∃ literal, document value = .ok literal ∧ literal.readable Json.maxDepth = true ∧
    (literal.canonicalize.same (cellContent v) = true ↔ Decodes formatType v)

theorem literal_of_boolean {formatType : String} (hformat : formatType.toLower = "checkbox")
    {v : Json.Value} {text : String} (htext : normalizedValue F formatType v = some text)
    (hvalue : (scanTextToValue text .boolean : DuckValue F).isNull = false) :
    LiteralDecodes formatType v (scanTextToValue text .boolean : DuckValue F) := by
  simp only [scanTextToValue, LogicalType.boolean] at hvalue ⊢
  cases hcast : DuckDb.cast (F := F) text (.simple .boolean "") with
  | none => simp [hcast, DuckValue.isNull] at hvalue
  | some value =>
    obtain ⟨b, rfl⟩ := DuckDb.cast_boolean text value hcast
    refine ⟨.bool b, document_boolean b, rfl, same_bool.trans ⟨?_, ?_⟩⟩
    · rintro rfl
      exact .boolean hformat b
    · intro hdecodes
      cases hdecodes with
      | boolean _ c =>
        have hname : text = if c then "true" else "false" := by
          rw [← Option.some_inj, ← htext]
          cases c <;> simp [normalizedValue, hformat, scalarText, Json.Value.print, Json.Value.chars]
        have hc := DuckDb.cast_boolean_name (F := F) c
        rw [← hname] at hc
        cases hcast.symm.trans hc
        rfl
      | number hnumeric n z hz hn => simp [hformat, numericFormats] at hnumeric
      | text htexts s => simp [hformat, textFormats] at htexts

theorem literal_of_number {formatType : String} (hformat : formatType.toLower ∈ numericFormats)
    {v : Json.Value} {text : String} (htext : normalizedValue F formatType v = some text)
    (hvalue : (scanTextToValue text (.decimal 38 20 "") : DuckValue F).isNull = false) :
    LiteralDecodes formatType v (scanTextToValue text (.decimal 38 20 "") : DuckValue F) := by
  simp only [scanTextToValue] at hvalue ⊢
  cases hcast : DuckDb.cast (F := F) text (.decimal 38 20 "") with
  | none => simp [hcast, DuckValue.isNull] at hvalue
  | some value =>
    obtain ⟨z, rfl, hz⟩ := DuckDb.cast_decimal text 38 20 value hcast
    obtain ⟨n, hn, hplain, hdocument, -⟩ :=
      (DuckValue.Denotes.decimal 38 20 z (by decide) (by decide) hz : DuckValue.Denotes
        (.decimal 38 20 z : DuckValue F) _).document
    refine ⟨.number n, hdocument, hplain, same_number.trans ⟨?_, ?_⟩⟩
    · rintro ⟨m, rfl, hm⟩
      exact .number hformat m z hz (hm.symm.trans hn)
    · intro hdecodes
      cases hdecodes with
      | boolean hcheckbox b => simp [hcheckbox, numericFormats] at hformat
      | number _ m z' hz' hm =>
        -- the cell fits the type, so it is cast exactly
        cases (normalizedValue_number hformat m).symm.trans htext
        cases DuckDb.cast_decimal_exact m 38 20 z' _ hz' hm hcast
        exact ⟨m, rfl, hn.trans hm.symm⟩
      | text htexts s =>
        simp only [numericFormats, textFormats, List.mem_cons, List.not_mem_nil, or_false]
          at hformat htexts
        rcases htexts with h | h | h <;> simp [h] at hformat

theorem literal_of_text {formatType : String} (hformat : formatType.toLower ∈ textFormats)
    {v : Json.Value} {text : String} (htext : normalizedValue F formatType v = some text) :
    LiteralDecodes formatType v (scanTextToValue text .varchar : DuckValue F) := by
  have hscalar : scalarText v = some text := by
    rw [← htext]
    simp only [textFormats, List.mem_cons, List.not_mem_nil, or_false] at hformat
    rcases hformat with h | h | h <;> simp [normalizedValue, h]
  refine ⟨.string text, document_text text "", rfl, same_string.trans ⟨?_, ?_⟩⟩
  · rintro ⟨inner, rfl, -⟩
    exact .text hformat inner
  · intro hdecodes
    cases hdecodes with
    | boolean hcheckbox b => simp [hcheckbox, textFormats] at hformat
    | number hnumeric n z hz hn =>
      simp only [numericFormats, textFormats, List.mem_cons, List.not_mem_nil, or_false]
        at hformat hnumeric
      rcases hformat with h | h | h <;> simp [h] at hnumeric
    | text _ inner =>
      rw [scalarText, Option.some_inj] at hscalar
      exact ⟨inner, rfl, hscalar⟩

theorem literal_of_json {formatType : String}
    (hformat : formatType.toLower ≠ "checkbox" ∧ formatType.toLower ∉ numericFormats ∧
      formatType.toLower ∉ textFormats) (v : Json.Value) :
    LiteralDecodes formatType v
      (scanTextToValue v.print (.simple .varchar "JSON") : DuckValue F) := by
  refine ⟨.string v.print, document_text v.print "JSON", rfl, same_string.trans ⟨?_, ?_⟩⟩
  · rintro ⟨inner, rfl, hinner⟩
    exact absurd hinner (unfence_ne_print inner)
  · intro hdecodes
    cases hdecodes with
    | boolean hcheckbox b => exact absurd hcheckbox hformat.1
    | number hnumeric n z hz hn => exact absurd hnumeric hformat.2.1
    | text htexts s => exact absurd htexts hformat.2.2

/-- **What is scanned has a literal**: a case for each class of formats. -/
theorem scannedValue_literal {column : Column} (hlisted : column.Listed)
    (hfilter : supports column.capabilities rustExtColumnFilterEquality = true)
    (htype : scalarType column.formatType ∈ comparedTypes) {row : Row} {cell : Cell}
    (hcell : firstCell column row = some cell) (hnull : cell.value.isNull = false)
    (hvalue : (scannedValue column row : DuckValue F).isNull = false) :
    LiteralDecodes column.formatType cell.value (scannedValue column row : DuckValue F) := by
  have hread := @scannedValue_some F _ _ _ _ hlisted hfilter _ _ hcell hnull
  have htypeOf := columnType_eq F hlisted (hlisted.scalar hfilter)
  cases format_cases htype with
  | checkbox hformat htype halias =>
    have hcolumn : columnType F column = .boolean := by
      rw [htypeOf, htype, halias, DuckDb.parseType_boolean]
      rfl
    obtain ⟨text, htext, hscanned⟩ := hread (by simp [hcolumn, LogicalType.boolean]) hvalue
    rw [hscanned, hcolumn] at hvalue ⊢
    exact literal_of_boolean hformat htext hvalue
  | numeric hformat htype halias =>
    have hcolumn : columnType F column = .decimal 38 20 "" := by
      rw [htypeOf, htype, halias, DuckDb.parseType_decimal]
      rfl
    obtain ⟨text, htext, hscanned⟩ := hread (by simp [hcolumn]) hvalue
    rw [hscanned, hcolumn] at hvalue ⊢
    exact literal_of_number hformat htext hvalue
  | text hformat htype halias =>
    have hcolumn : columnType F column = .varchar := by
      rw [htypeOf, htype, halias, DuckDb.parseType_varchar]
      rfl
    obtain ⟨text, htext, hscanned⟩ := hread (by simp [hcolumn, LogicalType.varchar]) hvalue
    rw [hscanned, hcolumn]
    exact literal_of_text hformat htext
  | unsupported hformat htype halias hprint =>
    have hcolumn : columnType F column = .simple .varchar "JSON" := by
      rw [htypeOf, htype, halias, DuckDb.parseType_varchar]
      rfl
    obtain ⟨text, htext, hscanned⟩ := hread (by simp [hcolumn]) hvalue
    cases (hprint F cell.value).symm.trans htext
    rw [hscanned, hcolumn]
    exact literal_of_json hformat cell.value

/-- **When the query of a scanned value keeps the row it was scanned from.** -/
theorem equality_keeps_iff {body : String} {page : Page Column}
    (hlist : columnListFromJson body = .ok page) {column : Column} (hcolumn : column ∈ page.items)
    (hfilter : supports column.capabilities rustExtColumnFilterEquality = true)
    (htype : column.duckdbType ∈ comparedTypes) {row : Row} {cell : Cell}
    (hcell : firstCell column row = some cell) (hnull : cell.value.isNull = false)
    (hvalue : (scannedValue column row : DuckValue F).isNull = false) :
    ∃ input query description, convert (scannedValue column row : DuckValue F) = .ok input ∧
      buildEqualityQuery column.id column.name input = .ok (query, description) ∧
      (Keeps column.id query cell.value ↔ Decodes column.formatType cell.value) := by
  have hlisted := columnListFromJson_listed hlist column hcolumn
  have hscalar : column.duckdbType = scalarType column.formatType := by
    rw [hlisted.duckdbType, logicalType, if_neg (by simp [hlisted.scalar hfilter])]
  have hdecodes : LiteralDecodes column.formatType cell.value
      (scannedValue column row : DuckValue F) :=
    scannedValue_literal hlisted hfilter (hscalar ▸ htype) hcell hnull hvalue
  obtain ⟨literal, hliteral, hread, hiff⟩ := hdecodes
  obtain ⟨input, query, description, hinput, hquery, hkeeps⟩ :=
    query_keeps hvalue hliteral hread column.id column.name
  exact ⟨input, query, description, hinput, hquery, (hkeeps cell.value).trans hiff⟩

end

/-! ## A text and a canvas -/

open Json.Reference Reference

def listedColumn (formatType : String) : Column := formatColumn "c1" "Notes" formatType false

/-- The listing of one column. -/
def columnListing (formatType : String) : Json.Value :=
  listingPage ([listedColumn formatType].map columnJson) ""

theorem columnListFromJson_columnListing (formatType : String) :
    columnListFromJson (columnListing formatType).print =
      .ok { items := [listedColumn formatType], nextPageToken := "" } := by
  rw [columnListing]
  exact columns_page (by simp [listedColumn, formatColumn]) ""

/-- A row with one cell. -/
def cellRow (value : Json.Value) : Row where
  id := "r1"
  createdAt := ""
  updatedAt := ""
  deleted := false
  cells := [{ columnId := "c1", value }]

theorem equality_keeps_iff_text : ∃ input query description,
    convert (scannedValue (listedColumn "text") (cellRow (.string "Ada")) : DuckValue Binary64) =
      .ok input ∧
    buildEqualityQuery "c1" "Notes" input = .ok (query, description) ∧
    (Keeps "c1" query (.string "Ada") ↔ Decodes "text" (.string "Ada")) :=
  equality_keeps_iff (columnListFromJson_columnListing "text") (.head _) (by decide)
    (by decide +kernel)
    (show firstCell (listedColumn "text") (cellRow (.string "Ada")) =
      some ⟨"c1", .string "Ada"⟩ by decide +kernel)
    rfl (by decide +kernel)

/-- **The row of a canvas is lost**: its cell reads as the text of its JSON value, whose literal
decodes to that text and not to the value. -/
theorem equality_loses_canvas :
    columnListFromJson (columnListing "canvas").print =
      .ok { items := [listedColumn "canvas"], nextPageToken := "" } ∧
    supports (listedColumn "canvas").capabilities rustExtColumnFilterEquality = true ∧
    (listedColumn "canvas").duckdbType ∈ comparedTypes ∧
    firstCell (listedColumn "canvas") (cellRow (.bool true)) = some ⟨"c1", .bool true⟩ ∧
    (scannedValue (listedColumn "canvas") (cellRow (.bool true)) :
      DuckValue Binary64).isNull = false ∧
    ∃ input query description,
      convert (scannedValue (listedColumn "canvas") (cellRow (.bool true)) : DuckValue Binary64) =
        .ok input ∧
      buildEqualityQuery "c1" "Notes" input = .ok (query, description) ∧
      ¬ Keeps "c1" query (.bool true) := by
  refine ⟨columnListFromJson_columnListing _, by decide, by decide +kernel, by decide +kernel,
    by decide +kernel, ?_⟩
  have hliteral : document (scannedValue (listedColumn "canvas") (cellRow (.bool true)) :
      DuckValue Binary64) = .ok (.string "true") := by decide +kernel
  obtain ⟨input, query, description, hinput, hquery, hkeeps⟩ :=
    query_keeps (by decide +kernel) hliteral rfl "c1" "Notes"
  refine ⟨input, query, description, hinput, hquery, fun h => ?_⟩
  obtain ⟨inner, hinner, -⟩ := same_string.1 ((hkeeps _).1 h)
  cases hinner

end SuperhumanDocs
