import SuperhumanDocs.Proof.ReadBack
import SuperhumanDocs.Proof.Typing

/-!
# A pushed filter against the filter

An equality that is pushed leaves the plan, and from then on the server decides about its rows. The
server compares the cell of a row with the literal of the constant; DuckDB would have compared what
the cell reads as with the constant.

* `constant_literal`: the cells that the literal of a constant keeps.
* `keepsRow_iff`: on which rows the two agree.
* `pushdown_streams_iff`: when a query above a scan gets the same rows.
-/

set_option autoImplicit false

namespace SuperhumanDocs

open Binary (Binary64 F64)
open Effect (bind_eq_ok)
open Json (SerdeJson)

section
variable {F : Type} [F64 F] [SerdeJson] [DuckDb F] {column : Column} {constant : DuckValue F}

/-! ## Rows on which they differ -/

/-- The server keeps the row. -/
def KeepsRow (column : Column) (query : String) (row : Row) : Prop :=
  ∃ cell, firstCell column row = some cell ∧ Keeps column.id query cell.value

/-- A cell that is the constant for the server and not for DuckDB: a text, which reads as the JSON
of that text, or a number in a notation that is not cast. -/
inductive Gains (column : Column) (constant : DuckValue F) : Json.Value → Prop
  | text (halias : logicalTypeAlias column.formatType = "JSON") (inner : String)
    (hconstant : constant = .text (unfenceRichText inner) "JSON") :
    Gains column constant (.string inner)
  | number (hformat : column.formatType.toLower ∈ numericFormats) (n : Json.Number) (z : Int)
    (hconstant : constant = .decimal 38 20 z) (hn : n.toRat = z / 10 ^ 20)
    (hcast : DuckDb.cast (F := F) n.text (.decimal 38 20 "") = none) :
    Gains column constant (.number n)

/-- The row is lost, because its cell is not what the literal decodes to, or it is gained. -/
inductive Differs (column : Column) (constant : DuckValue F) (row : Row) : Prop
  | lost {cell : Cell} (hcell : firstCell column row = some cell)
    (hreads : scannedValue column row = constant) (hlost : ¬ Decodes column.formatType cell.value)
  | gained {cell : Cell} (hcell : firstCell column row = some cell)
    (hgains : Gains column constant cell.value)

/-! ## The literal of a constant -/

/-- What the literal of a constant keeps: cells that read as the constant, and those gained. -/
structure ConstantLiteral (column : Column) (constant : DuckValue F) (literal : Json.Value) :
    Prop where
  document : document constant = .ok literal
  readable : literal.readable Json.maxDepth = true
  reads : ∀ row cell, firstCell column row = some cell →
    literal.canonicalize.same (cellContent cell.value) = true →
    scannedValue column row = constant ∨ Gains column constant cell.value
  gains : ∀ v, Gains column constant v → literal.canonicalize.same (cellContent v) = true

/-- What a listed scalar reads from a cell that has a text. -/
theorem scannedValue_normalized (hlisted : column.Listed) (harray : column.isArray = false)
    {row : Row} {cell : Cell} (hcell : firstCell column row = some cell)
    (hnull : cell.value.isNull = false) {text : String}
    (htext : normalizedValue F column.formatType cell.value = some text)
    (hscalar : ∀ child typeAlias, columnType F column ≠ .list child typeAlias) :
    (scannedValue column row : DuckValue F) = scanTextToValue text (columnType F column) := by
  rw [scannedValue_cell hlisted hcell]
  simp only [scanCell, hnull, harray, htext, scanValueToValue, Bool.false_eq_true, if_false]

/-- **The literal of a constant of the column's type**, a case for each class of formats. -/
theorem constant_literal (hlisted : column.Listed) (harray : column.isArray = false)
    (htype : scalarType column.formatType ∈ comparedTypes)
    (hconstant : OfType (columnType F column) constant) (hnull : constant.isNull = false) :
    ∃ literal, ConstantLiteral column constant literal := by
  have htypeOf := columnType_eq F hlisted harray
  have hreads {row : Row} {cell : Cell} (hcell : firstCell column row = some cell) :=
    @scannedValue_normalized F _ _ _ column hlisted harray row cell hcell
  cases format_cases htype with
  | checkbox hformat htype halias =>
    rw [htype, halias, DuckDb.parseType_boolean] at htypeOf
    replace htypeOf : columnType F column = .simple .boolean "" := htypeOf
    rw [htypeOf] at hconstant
    cases hconstant with
    | null => cases hnull
    | int hid | uint hid | other hid => cases hid
    | real hid => simp at hid
    | boolean typeAlias b =>
      refine ⟨.bool b, document_boolean b, rfl, fun row cell hcell hsame => .inl ?_,
        fun v hgains => ?_⟩
      · have hvalue := same_bool.1 hsame
        have htext : normalizedValue F column.formatType cell.value =
            some (if b then "true" else "false") := by
          rw [hvalue]
          cases b <;>
            simp [normalizedValue, hformat, scalarText, Json.Value.print, Json.Value.chars]
        have hcast := DuckDb.cast_boolean_name (F := F) b
        rw [LogicalType.boolean] at hcast
        rw [hreads hcell (by rw [hvalue]; rfl) htext (by simp [htypeOf]), htypeOf,
          scanTextToValue, hcast]
        simp
      · cases hgains with
        | text _ _ hconstant => cases hconstant
        | number _ _ _ hconstant => cases hconstant
  | numeric hformat htype halias =>
    rw [htype, halias, DuckDb.parseType_decimal] at htypeOf
    replace htypeOf : columnType F column = .decimal 38 20 "" := htypeOf
    rw [htypeOf] at hconstant
    cases hconstant with
    | null => cases hnull
    | @decimal width scale typeAlias z hz =>
      obtain ⟨n, hn, hplain, hdocument, -⟩ :=
        (DuckValue.Denotes.decimal 38 20 z (by decide) (by decide) hz : DuckValue.Denotes
          (.decimal 38 20 z : DuckValue F) _).document
      refine ⟨.number n, hdocument, hplain, fun row cell hcell hsame => ?_, fun v hgains => ?_⟩
      · obtain ⟨m, hvalue, hm⟩ := same_number.1 hsame
        have htext : normalizedValue F column.formatType cell.value = some m.text := by
          rw [hvalue]
          exact normalizedValue_number hformat m
        have hexact := hm.symm.trans hn
        cases hcast : DuckDb.cast (F := F) m.text (.decimal 38 20 "") with
        | none =>
          rw [hvalue]
          exact .inr (.number hformat m z rfl hexact hcast)
        | some value =>
          have hread := hreads hcell (by rw [hvalue]; rfl) htext (by simp [htypeOf])
          rw [htypeOf, scanTextToValue, hcast] at hread
          · exact .inl (hread.trans (DuckDb.cast_decimal_exact m 38 20 z value hz hexact hcast))
          · simp
      · cases hgains with
        | text _ _ hconstant => cases hconstant
        | number _ m z' hconstant hm _ =>
          cases hconstant
          exact same_number.2 ⟨m, rfl, hn.trans hm.symm⟩
  | text hformat htype halias =>
    rw [htype, halias, DuckDb.parseType_varchar] at htypeOf
    replace htypeOf : columnType F column = .simple .varchar "" := htypeOf
    rw [htypeOf] at hconstant
    cases hconstant with
    | null => cases hnull
    | int hid | uint hid | other hid => cases hid
    | real hid => simp at hid
    | text s typeAlias =>
      refine ⟨.string s, document_text s "", rfl, fun row cell hcell hsame => .inl ?_,
        fun v hgains => ?_⟩
      · obtain ⟨inner, hvalue, hinner⟩ := same_string.1 hsame
        have htext : normalizedValue F column.formatType cell.value = some s := by
          rw [hvalue, ← hinner]
          simp only [textFormats, List.mem_cons, List.not_mem_nil, or_false] at hformat
          rcases hformat with h | h | h <;> simp [normalizedValue, h, scalarText]
        rw [hreads hcell (by rw [hvalue]; rfl) htext (by simp [htypeOf]), htypeOf]
        rfl
      · cases hgains with
        | text _ _ hconstant => simp at hconstant
        | number _ _ _ hconstant => cases hconstant
  | unsupported hformat htype halias hprint =>
    rw [htype, halias, DuckDb.parseType_varchar] at htypeOf
    replace htypeOf : columnType F column = .simple .varchar "JSON" := htypeOf
    rw [htypeOf] at hconstant
    cases hconstant with
    | null => cases hnull
    | int hid | uint hid | other hid => cases hid
    | real hid => simp at hid
    | text s typeAlias =>
      refine ⟨.string s, document_text s "JSON", rfl, fun row cell hcell hsame => .inr ?_, ?_⟩
      · obtain ⟨inner, hvalue, rfl⟩ := same_string.1 hsame
        rw [hvalue]
        exact .text halias inner rfl
      · intro v hgains
        cases hgains with
        | text _ inner hconstant =>
          injection hconstant with hs
          exact same_string.2 ⟨inner, rfl, hs.symm⟩
        | number _ _ _ hconstant => cases hconstant

/-! ## One row -/

/-- A cell that is gained does not read as the constant. -/
theorem Gains.scannedValue_ne (hlisted : column.Listed) (harray : column.isArray = false)
    (htype : scalarType column.formatType ∈ comparedTypes) {row : Row} {cell : Cell}
    (hcell : firstCell column row = some cell) (h : Gains column constant cell.value) :
    scannedValue column row ≠ constant := by
  have htypeOf := columnType_eq F hlisted harray
  have hreads := @scannedValue_normalized F _ _ _ column hlisted harray row cell hcell
  cases hv : cell.value with
  | string inner =>
    rw [hv] at h
    cases h with
    | text halias _ hconstant =>
      cases format_cases htype with
      | checkbox _ _ halias' | numeric _ _ halias' | text _ _ halias' =>
        exact absurd (halias.symm.trans halias') (by decide)
      | unsupported _ htype' _ hprint =>
        rw [htype', halias, DuckDb.parseType_varchar] at htypeOf
        replace htypeOf : columnType F column = .simple .varchar "JSON" := htypeOf
        rw [hreads (by rw [hv]; rfl) (hprint F _) (by simp [htypeOf]), htypeOf, hconstant, hv]
        intro heq
        injection heq with htext
        exact unfence_ne_print inner htext.symm
  | number n =>
    rw [hv] at h
    cases h with
    | number hformat _ z hconstant hn hcast =>
      have htext := normalizedValue_number (F := F) hformat n
      cases format_cases htype with
      | checkbox hformat' => simp [hformat', numericFormats] at hformat
      | text hformat' =>
        simp only [numericFormats, textFormats, List.mem_cons, List.not_mem_nil, or_false]
          at hformat hformat'
        rcases hformat' with h | h | h <;> simp [h] at hformat
      | unsupported hformat' => exact absurd hformat hformat'.2.1
      | numeric _ htype' halias =>
        rw [htype', halias, DuckDb.parseType_decimal] at htypeOf
        replace htypeOf : columnType F column = .decimal 38 20 "" := htypeOf
        rw [hreads (by rw [hv]; rfl) (hv ▸ htext) (by simp [htypeOf]), htypeOf, hconstant,
          scanTextToValue, hcast]
        · intro heq
          cases heq
        · simp
  | null | bool | array | object => rw [hv] at h; cases h

theorem scannedValue_cell_non_null (hlisted : column.Listed) {row : Row}
    (hvalue : (scannedValue column row : DuckValue F).isNull = false) :
    ∃ cell, firstCell column row = some cell ∧ cell.value.isNull = false := by
  cases hcell : firstCell column row with
  | none =>
    have hread : (scannedValue column row : DuckValue F) =
        scanValueToValue (scanValue F column row) (columnType F column) := rfl
    rw [hread, scanValue_eq_firstCell F hlisted.not_system, hcell] at hvalue
    cases hvalue
  | some cell =>
    refine ⟨cell, rfl, Bool.eq_false_iff.2 fun hnull => ?_⟩
    rw [scannedValue_cell hlisted hcell, scanCell, if_pos hnull] at hvalue
    cases hvalue

/-- **On which rows the server and the filter agree**: all but those lost and gained. -/
theorem keepsRow_iff (hlisted : column.Listed)
    (hfilter : supports column.capabilities rustExtColumnFilterEquality = true)
    (htype : scalarType column.formatType ∈ comparedTypes)
    (hconstant : OfType (columnType F column) constant) (hnull : constant.isNull = false)
    {input : RustExtInputValue F} {literal : Json.Value} (hinput : convert constant = .ok input)
    (hliteral : inputValueJson input = .ok literal) (row : Row) :
    (KeepsRow column (column.id ++ ":" ++ literal.print) row ↔
      scannedValue column row = constant) ↔ ¬ Differs column constant row := by
  obtain ⟨literal', hl⟩ :=
    constant_literal hlisted (hlisted.scalar hfilter) htype hconstant hnull
  have hdocument : document constant = .ok literal := document_eq_ok.2 ⟨input, hinput, hliteral⟩
  cases hdocument.symm.trans hl.document
  by_cases hreads : scannedValue column row = constant
  · -- the filter keeps the row; the literal is that of what the column reads
    have hvalue : (scannedValue column row : DuckValue F).isNull = false := hreads ▸ hnull
    obtain ⟨cell, hcell, hcellNull⟩ := scannedValue_cell_non_null hlisted hvalue
    obtain ⟨literal', hdocument', -, hdecodes⟩ :=
      scannedValue_literal hlisted hfilter htype hcell hcellNull hvalue
    rw [hreads] at hdocument'
    cases hdocument.symm.trans hdocument'
    have hkeeps : KeepsRow column (column.id ++ ":" ++ literal.print) row ↔
        Decodes column.formatType cell.value := by
      rw [KeepsRow, hcell, ← hdecodes]
      simp [keeps_print hl.readable]
    rw [hkeeps, iff_true_right hreads]
    constructor
    · intro hdecoded hdiffers
      cases hdiffers with
      | lost hcell' hreads' hlost =>
        cases hcell.symm.trans hcell'
        exact hlost hdecoded
      | gained hcell' hgains =>
        exact hgains.scannedValue_ne hlisted (hlisted.scalar hfilter) htype hcell' hreads
    · intro hdiffers
      exact Classical.byContradiction fun hlost => hdiffers (.lost hcell hreads hlost)
  · rw [iff_false_right hreads, not_iff_not]
    constructor
    · intro ⟨cell, hcell, hkeeps⟩
      obtain hreads' | hgains := hl.reads row cell hcell ((keeps_print hl.readable _).1 hkeeps)
      · exact absurd hreads' hreads
      · exact .gained hcell hgains
    · intro hdiffers
      cases hdiffers with
      | lost hcell hreads' => exact absurd hreads' hreads
      | gained hcell hgains =>
        exact ⟨_, hcell, (keeps_print hl.readable _).2 (hl.gains _ hgains)⟩

/-! ## A scan -/

/-- All the filters hold. -/
def passes (holds : Expression F → Row → Bool) (filters : List (Expression F)) (row : Row) : Bool :=
  filters.all (holds · row)

/-- DuckDB evaluates an equality of a column and a constant of its type as that of the values. -/
def Compares (get : LogicalGet) (table : RustBridgeTableInfo)
    (holds : Expression F → Row → Bool) : Prop :=
  ∀ binding column (constant : DuckValue F) row, IsColumn get table binding column →
    column.duckdbType ∈ comparedTypes → OfType (columnType F column) constant →
    constant.isNull = false →
    (holds (.comparison .equal (.columnRef binding) (.constant constant)) row = true ↔
      scannedValue column row = constant) ∧
    (holds (.comparison .equal (.constant constant) (.columnRef binding)) row = true ↔
      scannedValue column row = constant)

omit [F64 F] [SerdeJson] [DuckDb F] in
theorem passes_append (holds : Expression F → Row → Bool) (before after : List (Expression F))
    (expr : Expression F) (row : Row) :
    passes holds (before ++ expr :: after) row =
      (holds expr row && passes holds (before ++ after) row) := by
  simp only [passes, List.all_append, List.all_cons, Bool.and_left_comm]

variable {docId tableId : String} {includeSystemColumns : Bool} {catalogReplies : List Reply}
  {columns : List Column} {table : Table}

/-- A column of a loaded table that can be filtered on is a listed one. -/
theorem loaded_filterable
    (hcolumns : (loadColumns docId tableId includeSystemColumns catalogReplies).result =
      .ok columns) {get : LogicalGet} {binding : ColumnBinding}
    (hcolumn : IsColumn get (borrowRustBridgeTableInfo F (ffiCatalogTable table columns)) binding
      column)
    (hfilter : supports column.capabilities rustExtColumnFilterEquality = true) :
    column.Listed := by
  obtain ⟨-, columnIndex, info, -, -, hinfo, hhandle⟩ := hcolumn
  obtain ⟨raw, hraw, rfl⟩ := List.mem_map.1 (List.mem_of_getElem? hinfo)
  obtain ⟨column', hmem, rfl⟩ := List.mem_map.1 hraw
  cases hhandle
  obtain hlisted | ⟨metadata, -, hmetadata⟩ := loadColumns_listed hcolumns _ hmem
  · exact hlisted
  · rw [hmetadata] at hfilter
    change supports (rowMetadataColumn "").capabilities _ = true at hfilter
    exact absurd hfilter (by decide)

variable {newClient : ClientConfig → Except String Unit} {config : ClientConfig}
  {bindData : RustBridgeScanBindData} {projectionIds : List Nat} {columnIndexes : List ColumnIndex}
  {outputTypes : List LogicalType} {state : RustBridgeScanGlobalState} {replies : List Reply}
  {responses : List RowsResponse} {standardVectorSize : Nat}

omit [F64 F] [SerdeJson] [DuckDb F] in
theorem new_asks (h : RustBridgeScanGlobalState.new newClient config table bindData projectionIds
    columnIndexes outputTypes = .ok state) :
    state.scan.query = bindData.pushedQuery ∧ state.scan.sortBy = bindData.pushedSortBy := by
  unfold RustBridgeScanGlobalState.new at h
  obtain ⟨indexes, -, h⟩ := bind_eq_ok.1 h
  obtain ⟨scan, hscan, h⟩ := bind_eq_ok.1 h
  unfold ScanHandle.new at hscan
  obtain ⟨_, -, hscan⟩ := bind_eq_ok.1 hscan
  cases h
  cases hscan
  exact ⟨rfl, rfl⟩

/-- The rows of an unlimited run. -/
theorem run_visible (hV : 0 < standardVectorSize)
    (hnew : RustBridgeScanGlobalState.new newClient config table bindData projectionIds
      columnIndexes outputTypes = .ok state)
    (hlimit : bindData.pushedLimit = 0) (hrange : state.InRange)
    (hc : Consumes state.scan replies responses)
    {chunks : List (List (List (DuckValue F)))} {final : RustBridgeScanGlobalState}
    {rest : List Reply} (hrun : ScanRun standardVectorSize state replies chunks final rest) :
    chunks.flatten.map Except.ok =
      (visibleRows responses).map fun row => state.outputRow (ffiScanRow row) := by
  obtain ⟨hscan, hout⟩ := scanning_new hnew hc
  obtain ⟨hflat, -⟩ := hrun.flatten hV hscan hrange
  rw [hflat, hout, hlimit, Paging.limited_zero, flatten_visiblePages, List.map_map]
  rfl

/-- A pushed scan: it asks the query, its runs stream the rows that the server keeps, and of these
the remaining filters select what all filters select of all rows exactly when the server and the
filter agree on the rows that the remaining ones select. -/
structure Streams (standardVectorSize : Nat) (state : RustBridgeScanGlobalState)
    (replies : List Reply) (query : String) (rows : List Row) (keeps : Row → Bool)
    (holds : Expression F → Row → Bool) (expr : Expression F)
    (filters rest : List (Expression F)) : Prop where
  query : state.scan.query = query
  runs : ∃ chunks final left,
    ScanRun (F := F) standardVectorSize state replies chunks final left
  streamed : ∀ chunks final left,
    ScanRun (F := F) standardVectorSize state replies chunks final left →
      chunks.flatten.map Except.ok =
        (rows.filter keeps).map fun row => state.outputRow (ffiScanRow row)
  selected : (rows.filter keeps).filter (passes holds rest) = rows.filter (passes holds filters) ↔
    ∀ row ∈ rows, passes holds rest row = true → keeps row = holds expr row

omit [F64 F] [SerdeJson] [DuckDb F] in
theorem filter_eq_filter_iff {α : Type} {p q : α → Bool} {xs : List α} :
    xs.filter p = xs.filter q ↔ ∀ x ∈ xs, p x = q x := by
  constructor
  · intro h x hx
    have hmem : x ∈ xs.filter p ↔ x ∈ xs.filter q := by rw [h]
    simp only [List.mem_filter, hx, true_and] at hmem
    exact Bool.eq_iff_iff.2 hmem
  · exact List.filter_congr

omit [F64 F] [SerdeJson] [DuckDb F] in
/-- What is left of the rows is the same when each row is treated the same. -/
theorem filter_filter_eq_iff {rows : List Row} {keeps : Row → Bool}
    {holds : Expression F → Row → Bool} {before after : List (Expression F)} {expr : Expression F} :
    (rows.filter keeps).filter (passes holds (before ++ after)) =
        rows.filter (passes holds (before ++ expr :: after)) ↔
      ∀ row ∈ rows, passes holds (before ++ after) row = true → keeps row = holds expr row := by
  rw [List.filter_filter, filter_eq_filter_iff]
  refine forall₂_congr fun row _ => ?_
  rw [passes_append]
  cases passes holds (before ++ after) row <;> simp

/-- **When a query above a scan gets the rows of its filters, though one of them is pushed**: the
server and that filter agree on the rows, that is, for the types compared here, none of them is lost
or gained. -/
theorem pushdown_streams_iff (hV : 0 < standardVectorSize) (hlimit : bindData.pushedLimit = 0)
    (hcolumns : (loadColumns docId tableId includeSystemColumns catalogReplies).result =
      .ok columns)
    (htable : bindData.table = borrowRustBridgeTableInfo F (ffiCatalogTable table columns))
    (get : LogicalGet) (filters : List (Expression F)) (holds : Expression F → Row → Bool) :
    (rustBridgeScanPushdownComplexFilter get bindData filters).2 = (bindData, filters) ∨
    ∃ before expr after column constant query description,
      filters = before ++ expr :: after ∧
      Pushable get bindData.table expr column constant query ∧
      (rustBridgeScanPushdownComplexFilter get bindData filters).2 =
        ({ bindData with pushedQuery := query, pushedQueryDescription := description },
          before ++ after) ∧
      ∀ keeps : Row → Bool, (∀ row, keeps row = true ↔ KeepsRow column query row) →
        (∀ rows newClient config projectionIds columnIndexes outputTypes state replies responses,
          RustBridgeScanGlobalState.new newClient config table
            { bindData with pushedQuery := query, pushedQueryDescription := description }
            projectionIds columnIndexes outputTypes = .ok state →
          state.InRange → Consumes state.scan replies responses →
          visibleRows responses = rows.filter keeps →
          Streams standardVectorSize state replies query rows keeps holds expr filters
            (before ++ after)) ∧
        (column.duckdbType ∈ comparedTypes → OfType (columnType F column) constant →
          Compares get bindData.table holds →
          ∀ row, keeps row = holds expr row ↔ ¬ Differs column constant row) := by
  obtain hsame | ⟨-, before, expr, after, column, constant, query, description, hfilters, hrest,
    hpush, hbindData⟩ := pushdown_cases get bindData filters
  · exact .inl hsame
  refine .inr ⟨before, expr, after, column, constant, query, description, hfilters, hpush,
    Prod.ext hbindData hrest, fun keeps hkeeps => ⟨?_, ?_⟩⟩
  · intro rows newClient config projectionIds columnIndexes outputTypes state replies responses
      hnew hrange hc hvisible
    obtain ⟨hscan, -⟩ := scanning_new hnew hc
    refine ⟨(new_asks hnew).1, scanRun_exists hscan hrange, fun chunks final left hrun => ?_, ?_⟩
    · rw [← hvisible]
      exact run_visible hV hnew hlimit hrange hc hrun
    · rw [hfilters]
      exact filter_filter_eq_iff
  · intro htype hconstant hcompares row
    obtain ⟨binding, hcolumn, hexpr⟩ := hpush.equality
    obtain ⟨input, literal, hinput, hliteral, rfl⟩ := hpush.query
    have hlisted : column.Listed := loaded_filterable hcolumns (htable ▸ hcolumn) hpush.capability
    have hscalar : scalarType column.formatType ∈ comparedTypes := by
      rwa [hlisted.duckdbType, logicalType, if_neg (by simp [hlisted.scalar hpush.capability])]
        at htype
    have hholds : holds expr row = true ↔ scannedValue column row = constant := by
      have hcompared := hcompares binding column constant row hcolumn htype hconstant hpush.non_null
      obtain rfl | rfl := hexpr
      · exact hcompared.1
      · exact hcompared.2
    rw [Bool.eq_iff_iff, hkeeps, hholds]
    exact keepsRow_iff hlisted hpush.capability hscalar hconstant hpush.non_null hinput hliteral row

end

/-! ## A filter on a canvas -/

open Json.Reference Reference

def canvasGet : LogicalGet where
  tableIndex := 7
  columnIds := [⟨0⟩]

/-- `canvas = 'true'`. -/
def canvasFilter : Expression Binary64 :=
  .comparison .equal (.columnRef ⟨7, 0⟩) (.constant (.text "true" "JSON"))

/-- An equality of the canvas holds in the row. -/
def CanvasEquals (expr : Expression Binary64) (row : Row) : Prop :=
  ∃ binding, expr = .comparison .equal (.columnRef binding)
      (.constant (scannedValue (listedColumn "canvas") row)) ∨
    expr = .comparison .equal (.constant (scannedValue (listedColumn "canvas") row))
      (.columnRef binding)

theorem isColumn_canvas {binding : ColumnBinding} {column : Column}
    (h : IsColumn canvasGet canvasTable binding column) : column = listedColumn "canvas" := by
  obtain ⟨-, columnIndex, info, hindex, -, hinfo, hhandle⟩ := h
  cases List.mem_singleton.1 (List.mem_of_getElem? hindex)
  cases hinfo
  exact (Option.some.inj hhandle).symm

open Classical in
theorem compares_canvas :
    Compares canvasGet canvasTable fun expr row => decide (CanvasEquals expr row) := by
  intro binding column constant row hcolumn _ _ _
  rw [isColumn_canvas hcolumn]
  simp [CanvasEquals, eq_comm]

/-- A row with a text. -/
def quotedRow : Row := { cellRow (.string "true") with id := "r2" }

theorem listedCells_quotedRow : ∀ row ∈ [quotedRow], ListedCells row := by
  simp only [List.forall_mem_singleton]
  exact ⟨rfl, rfl⟩

theorem firstCell_canvas (v : Json.Value) :
    firstCell (listedColumn "canvas") (cellRow v) = some ⟨"c1", v⟩ := by
  have hid : eqIgnoreAsciiCase "c1" (listedColumn "canvas").id = true := by decide +kernel
  simp [firstCell, cellRow, hid]

open Classical in
/-- Of a canvas, the row that reads as the constant is lost, and one that does not is gained. -/
theorem pushdown_streams_iff_canvas : ∃ query, Streams 2048
    { canvasState with scan := { canvasState.scan with query } }
    [reply 200 (pageJson [quotedRow] "" "")] query [cellRow (.bool true), quotedRow]
    (fun row => decide (KeepsRow (listedColumn "canvas") query row))
    (fun expr row => decide (CanvasEquals expr row)) canvasFilter [canvasFilter] [] ∧
    ∀ row, decide (KeepsRow (listedColumn "canvas") query row) =
        decide (CanvasEquals canvasFilter row) ↔
      ¬ Differs (listedColumn "canvas") (.text "true" "JSON" : DuckValue Binary64) row := by
  obtain hsame | ⟨before, expr, after, column, constant, query, description, hfilters, hpush, -,
      hagree⟩ := pushdown_streams_iff (show 0 < 2048 by decide)
    (show (RustBridgeScanBindData.new canvasTable).pushedLimit = 0 from rfl) loadColumns_canvas rfl
    canvasGet [canvasFilter] fun expr row => decide (CanvasEquals expr row)
  · have hrest : (rustBridgeScanPushdownComplexFilter canvasGet (.new canvasTable)
        [canvasFilter]).2.2.length = 0 := by decide +kernel
    rw [hsame] at hrest
    cases hrest
  · cases before with
    | cons first before => simp at hfilters
    | nil =>
      obtain ⟨rfl, rfl⟩ := List.cons_eq_cons.1 hfilters
      obtain ⟨binding, hcolumn, hexpr⟩ := hpush.equality
      obtain ⟨input, literal, hinput, hliteral, hquery⟩ := hpush.query
      cases isColumn_canvas hcolumn
      obtain hexpr | hexpr := hexpr
      · cases hexpr
        have hdocument := document_eq_ok.2 ⟨input, hinput, hliteral⟩
        rw [document_text] at hdocument
        cases hdocument
        have hkeeps (v : Json.Value) : Keeps "c1" query v ↔
            ∃ inner, v = .string inner ∧ unfenceRichText inner = "true" := by
          rw [hquery]
          exact (keeps_print rfl v).trans same_string
        have hlost : ¬ KeepsRow (listedColumn "canvas") query (cellRow (.bool true)) := by
          intro ⟨cell, hcell, hkept⟩
          cases (firstCell_canvas _).symm.trans hcell
          obtain ⟨inner, hinner, -⟩ := (hkeeps _).1 hkept
          cases hinner
        have hgained : KeepsRow (listedColumn "canvas") query quotedRow :=
          ⟨_, firstCell_canvas (.string "true"), (hkeeps _).2 ⟨"true", rfl, by decide⟩⟩
        obtain ⟨hstreams, hdiffers⟩ := hagree _ fun row => decide_eq_true_iff
        refine ⟨query, hstreams _ (fun _ => .ok ()) config []
          [⟨columnIdentifierRowId⟩, ⟨0⟩] [.varchar, .simple .varchar "JSON"] _ _ _ rfl ?_
          (.next rfl (list_pageJson rfl listedCells_quotedRow 200 "" "" []) (.done rfl)) ?_,
          hdiffers (by decide +kernel) ?_ compares_canvas⟩
        · exact canvasState_typed.inRange
        · rw [List.filter_cons_of_neg (by simpa using hlost),
            List.filter_cons_of_pos (by simpa using hgained)]
          rfl
        · rw [columnType_canvas]
          exact .text "true" "JSON"
      · cases hexpr

end SuperhumanDocs
