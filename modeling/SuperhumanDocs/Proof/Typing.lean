import SuperhumanDocs.Bridge.Types
import SuperhumanDocs.Proof.Literal
import SuperhumanDocs.Proof.Columns
import SuperhumanDocs.Proof.ScanRun

/-!
# Every output is of its type

A cell holds any JSON value, whatever the format of its column says, and the scan makes a value for
a vector of the type of the column of it.

* `loadColumns_listed`: the columns of a loaded table are those of the listing and the metadata.
* `scanColumnValue_ofType`: what a column reads is of its type.
* `scan_values_typed`: no cell stops a scan, and each value of a run is of the type of its vector.
-/

set_option autoImplicit false

namespace SuperhumanDocs

open Binary (Binary64 F64)
open Effect (bind_eq_ok mapM_eq_ok)
open Json (SerdeJson)

/-! ## The columns of a loaded table -/

theorem Column.Listed.rename {column : Column} (h : column.Listed) (name : String) :
    ({ column with name } : Column).Listed :=
  ⟨h.duckdbType, h.duckdbTypeAlias, h.capabilities⟩

section
variable [SerdeJson] {docId tableId : String} {includeSystemColumns : Bool} {replies : List Reply}

theorem columnPages_listed {all columns : List Column} {pageToken : String}
    (hall : ∀ column ∈ all, column.Listed)
    (h : (columnPages docId tableId all pageToken replies).result = .ok columns) :
    ∀ column ∈ columns, column.Listed := by
  induction replies generalizing all pageToken with
  | nil => cases h
  | cons reply replies ih =>
    rw [columnPages] at h
    cases hpage : execute reply >>= columnListFromJson with
    | error e => simp [hpage] at h
    | ok page =>
      obtain ⟨body, -, hlist⟩ := bind_eq_ok.1 hpage
      have hmore : ∀ column ∈ all ++ page.items, column.Listed := by
        intro column hcolumn
        obtain hcolumn | hcolumn := List.mem_append.1 hcolumn
        · exact hall column hcolumn
        · exact columnListFromJson_listed hlist column hcolumn
      simp only [hpage] at h
      by_cases hlast : page.nextPageToken.isEmpty = true
      · rw [if_pos hlast] at h
        cases h
        exact hmore
      · rw [if_neg hlast] at h
        exact ih hmore h

/-- **The columns of a loaded table**: those of the listing and the metadata, renamed. -/
theorem loadColumns_listed {columns : List Column}
    (h : (loadColumns docId tableId includeSystemColumns replies).result = .ok columns) :
    ∀ column ∈ columns, column.Listed ∨
      ∃ metadata ∈ ["createdAt", "updatedAt"],
        column = { rowMetadataColumn metadata with name := column.name } := by
  unfold loadColumns CatalogCall.map at h
  cases hpages : (columnPages docId tableId [] "" replies).result with
  | error stop => simp [hpages, Except.map] at h
  | ok all =>
    rw [hpages] at h
    cases h
    have hlisted : ∀ column ∈ all, column.Listed := columnPages_listed (by simp) hpages
    intro column hcolumn
    -- only the name differs from that of a column before
    obtain ⟨i, hi, rfl⟩ := List.getElem_of_mem hcolumn
    have hfields :=
      prepareColumns_fields (if includeSystemColumns then appendRowMetadata all else all)
    have hlt := hfields.length_eq.symm ▸ hi
    have hrenamed := hfields.get hlt hi
    simp only [List.get_eq_getElem] at hrenamed
    have hmem := List.getElem_mem hlt
    rw [hrenamed]
    generalize (if includeSystemColumns then appendRowMetadata all else all)[i] = before at hmem
    have hbefore : before ∈ all ∨
        ∃ metadata ∈ ["createdAt", "updatedAt"], before = rowMetadataColumn metadata := by
      cases includeSystemColumns with
      | false => exact .inl hmem
      | true =>
        obtain hmem | hmem := List.mem_append.1 hmem
        · exact .inl hmem
        · obtain ⟨metadata, hmetadata, rfl⟩ := List.mem_map.1 hmem
          exact .inr ⟨metadata, hmetadata, rfl⟩
    obtain hbefore | ⟨metadata, hmetadata, rfl⟩ := hbefore
    · exact .inl ((hlisted before hbefore).rename _)
    · exact .inr ⟨metadata, hmetadata, rfl⟩

end

/-! ## Types that texts are read as -/

/-- The texts of the type, or of the items of a list, are `VARCHAR` or `JSON`. -/
def LogicalType.TextAlias : LogicalType → Prop
  | simple .varchar typeAlias => typeAlias = "" ∨ typeAlias = "JSON"
  | list child _ => child.TextAlias
  | _ => True

theorem LogicalType.Plain.textAlias : ∀ {type : LogicalType}, type.Plain → type.TextAlias
  | .simple id _, h => by cases id <;> first | exact .inl h | trivial
  | .list _ _, h => h.1.textAlias
  | .decimal .., _ | .array .., _ | .struct .., _ => trivial

theorem applyValueTypeAlias_json : ∀ {type : LogicalType}, type.Plain →
    (applyValueTypeAlias type "JSON").TextAlias
  | .simple id _, _ => by cases id <;> first | exact .inr rfl | trivial
  | .list child _, h => by
    rw [applyValueTypeAlias, if_neg (by decide)]
    exact applyValueTypeAlias_json h.1
  | .decimal .., _ | .struct .., _ => trivial
  | .array child size _, _ => by
    rw [applyValueTypeAlias, if_neg (by decide)]
    trivial

theorem applyValueTypeAlias_textAlias {type : LogicalType} (h : type.Plain) {typeAlias : String}
    (hjson : typeAlias = "" ∨ typeAlias = "JSON") :
    (applyValueTypeAlias type typeAlias).TextAlias := by
  obtain rfl | rfl := hjson
  · unfold applyValueTypeAlias
    rw [if_pos (by decide)]
    exact h.textAlias
  · exact applyValueTypeAlias_json h

theorem logicalTypeAlias_cases (formatType : String) :
    logicalTypeAlias formatType = "" ∨ logicalTypeAlias formatType = "JSON" := by
  unfold logicalTypeAlias
  split <;> simp

section
variable {F : Type} [F64 F] [SerdeJson] [DuckDb F]

theorem scanTextToValue_ofType (hcasts : CastsToType F) {type : LogicalType} (h : type.TextAlias)
    (value : String) : OfType type (scanTextToValue value type : DuckValue F) := by
  unfold scanTextToValue
  split
  · rename_i typeAlias
    obtain rfl | rfl := h
    · exact .text value ""
    · exact .text value "JSON"
  · split
    · rename_i hcast
      exact hcasts _ _ _ hcast
    · exact .null type

/-- **A value that is read as a type is of that type**, whatever the texts are. -/
theorem scanValueToValue_ofType (hcasts : CastsToType F) {type : LogicalType} (h : type.TextAlias)
    (value : RustExtScanValue) : OfType type (scanValueToValue value type : DuckValue F) := by
  unfold scanValueToValue
  split
  · exact .null type
  · split
    · rename_i childType typeAlias
      refine .list typeAlias fun item hitem => ?_
      obtain ⟨arrayValue, -, rfl⟩ := List.mem_map.1 hitem
      split
      · exact .null childType
      · exact scanTextToValue_ofType hcasts (show childType.TextAlias from h) _
    · exact scanTextToValue_ofType hcasts h _

variable (F) in
/-- DuckDB reads the type names of the formats as types without an alias. -/
def ParsesPlain : Prop :=
  ∀ formatType isArray, (DuckDb.parseType F (logicalType formatType isArray)).Plain

/-! ## Outputs -/

variable {docId tableId : String} {includeSystemColumns : Bool} {catalogReplies : List Reply}
  {columns : List Column} {table : Table}

theorem columnType_textAlias (hparse : ParsesPlain F)
    (hcolumns : (loadColumns docId tableId includeSystemColumns catalogReplies).result =
      .ok columns) {column : Column} (hcolumn : column ∈ columns) :
    (applyValueTypeAlias (DuckDb.parseType F column.duckdbType)
      column.duckdbTypeAlias).TextAlias := by
  obtain hlisted | ⟨metadata, -, hmetadata⟩ := loadColumns_listed hcolumns column hcolumn
  · rw [hlisted.duckdbType, hlisted.duckdbTypeAlias]
    exact applyValueTypeAlias_textAlias (hparse _ _) (logicalTypeAlias_cases _)
  · rw [hmetadata]
    exact applyValueTypeAlias_textAlias (hparse "datetime" false) (.inl rfl)

/-- **What a column of a loaded table reads is of its type**, in any row. -/
theorem scanColumnValue_ofType (hcasts : CastsToType F) (hparse : ParsesPlain F)
    (hcolumns : (loadColumns docId tableId includeSystemColumns catalogReplies).result =
      .ok columns) {info : RustBridgeColumnInfo}
    (hinfo : info ∈ (borrowRustBridgeTableInfo F (ffiCatalogTable table columns)).columns)
    (row : RustExtScanRow) : OfType info.duckdbType (scanColumnValue info row : DuckValue F) := by
  obtain ⟨raw, hraw, rfl⟩ := List.mem_map.1 hinfo
  obtain ⟨column, hcolumn, rfl⟩ := List.mem_map.1 hraw
  unfold scanColumnValue
  split
  · exact .null _
  · exact scanValueToValue_ofType hcasts (columnType_textAlias hparse hcolumns hcolumn) _

theorem scanOutputValue_ofType (hcasts : CastsToType F) (hparse : ParsesPlain F)
    (hcolumns : (loadColumns docId tableId includeSystemColumns catalogReplies).result =
      .ok columns) {row : RustExtScanRow} {index : ColumnIndex} {type : LogicalType}
    (htype : OutputType (borrowRustBridgeTableInfo F (ffiCatalogTable table columns)) index type)
    {value : DuckValue F}
    (h : scanOutputValue (borrowRustBridgeTableInfo F (ffiCatalogTable table columns)) row index
      type = .ok value) : OfType type value := by
  unfold OutputType at htype
  unfold scanOutputValue at h
  split at htype
  · rename_i hvirtual
    rw [if_pos hvirtual] at h
    by_cases hrowId : index.primaryIndex = columnIdentifierRowId
    · -- the table has a row id, whose type is `VARCHAR`
      rw [if_pos hrowId] at h
      cases h
      obtain ⟨name, hname⟩ | hother := htype
      · unfold RustBridgeTableInfo.getVirtualColumns at hname
        split at hname
        · have htype := congrArg (fun column => column.2.2) (List.mem_singleton.1 hname)
          simp only at htype
          rw [htype]
          exact .text _ _
        · cases hname
      · exact absurd hrowId hother
    · rw [if_neg hrowId] at h
      cases h
      exact .null type
  · rename_i hvirtual
    obtain ⟨info, hinfo, rfl⟩ := htype
    rw [if_neg hvirtual, hinfo] at h
    cases h
    exact scanColumnValue_ofType hcasts hparse hcolumns (List.mem_of_getElem? hinfo) row

/-! ## Runs -/

/-- The vectors of the outputs are of the types of their columns. -/
def RustBridgeScanGlobalState.Typed (state : RustBridgeScanGlobalState) : Prop :=
  List.Forall₂ (OutputType state.table) state.columnIndexes state.outputTypes

omit [F64 F] [SerdeJson] [DuckDb F] in
theorem RustBridgeScanGlobalState.Typed.inRange {state : RustBridgeScanGlobalState}
    (h : state.Typed) : state.InRange := by
  intro index hindex
  obtain ⟨i, hi, rfl⟩ := List.getElem_of_mem hindex
  have htype := h.get hi (h.length_eq ▸ hi)
  simp only [List.get_eq_getElem, OutputType] at htype
  split at htype
  · exact .inl ‹_›
  · obtain ⟨column, hcolumn, -⟩ := htype
    exact .inr (List.getElem?_eq_some_iff.1 hcolumn).1

theorem outputRow_ofType (hcasts : CastsToType F) (hparse : ParsesPlain F)
    (hcolumns : (loadColumns docId tableId includeSystemColumns catalogReplies).result =
      .ok columns) {state : RustBridgeScanGlobalState}
    (htable : state.table = borrowRustBridgeTableInfo F (ffiCatalogTable table columns))
    (htyped : state.Typed) {row : RustExtScanRow} {values : List (DuckValue F)}
    (h : state.outputRow row = .ok values) : List.Forall₂ OfType state.outputTypes values := by
  unfold RustBridgeScanGlobalState.Typed at htyped
  unfold RustBridgeScanGlobalState.outputRow at h
  rw [htable] at htyped h
  have hvalues := mapM_eq_ok.1 h
  clear h
  generalize state.columnIndexes = indexes at htyped hvalues
  generalize state.outputTypes = types at htyped hvalues
  induction htyped generalizing values with
  | nil =>
    cases hvalues
    exact .nil
  | cons htype _ ih =>
    cases hvalues with
    | cons hvalue hvalues =>
      exact .cons (scanOutputValue_ofType hcasts hparse hcolumns htype hvalue) (ih hvalues)

variable {newClient : ClientConfig → Except String Unit} {config : ClientConfig}
  {bindData : RustBridgeScanBindData} {projectionIds : List Nat} {columnIndexes : List ColumnIndex}
  {outputTypes : List LogicalType} {state : RustBridgeScanGlobalState} {replies : List Reply}
  {responses : List RowsResponse} {standardVectorSize : Nat}

omit [F64 F] [SerdeJson] [DuckDb F] in
theorem new_table (h : RustBridgeScanGlobalState.new newClient config table bindData projectionIds
    columnIndexes outputTypes = .ok state) : state.table = bindData.table := by
  unfold RustBridgeScanGlobalState.new at h
  obtain ⟨indexes, -, h⟩ := bind_eq_ok.1 h
  obtain ⟨scan, -, h⟩ := bind_eq_ok.1 h
  cases h
  rfl

/-- **No cell stops a scan, and every value is of the type of its vector**: for a table as it is
loaded, any rows of the server and any limit. -/
theorem scan_values_typed (hcasts : CastsToType F) (hparse : ParsesPlain F)
    (hV : 0 < standardVectorSize)
    (hcolumns : (loadColumns docId tableId includeSystemColumns catalogReplies).result =
      .ok columns)
    (htable : bindData.table = borrowRustBridgeTableInfo F (ffiCatalogTable table columns))
    (hnew : RustBridgeScanGlobalState.new newClient config table bindData projectionIds
      columnIndexes outputTypes = .ok state)
    (htyped : state.Typed) (hc : Consumes state.scan replies responses) :
    (∃ chunks final rest, ScanRun (F := F) standardVectorSize state replies chunks final rest) ∧
    ∀ chunks final rest, ScanRun (F := F) standardVectorSize state replies chunks final rest →
      ∀ chunk ∈ chunks, ∀ values ∈ chunk, List.Forall₂ OfType state.outputTypes values := by
  obtain ⟨hscan, -⟩ := scanning_new hnew hc
  refine ⟨scanRun_exists hscan htyped.inRange,
    fun chunks final rest hrun chunk hchunk values hv => ?_⟩
  obtain ⟨hflat, -⟩ := hrun.flatten hV hscan htyped.inRange
  have hmem : Except.ok values ∈ (state.outstanding responses).map state.outputRow := by
    rw [← hflat]
    exact List.mem_map_of_mem (List.mem_flatten.2 ⟨chunk, hchunk, hv⟩)
  obtain ⟨row, -, hrow⟩ := List.mem_map.1 hmem
  exact outputRow_ofType hcasts hparse hcolumns ((new_table hnew).trans htable) htyped hrow

end

/-! ## A scan of a canvas -/

open Json.Reference Reference

theorem castsToType : CastsToType Binary64 := by
  intro s type value h
  change Reference.cast s type = some value at h
  unfold Reference.cast at h
  split at h
  · obtain ⟨b, rfl⟩ := DuckDb.cast_boolean s value h
    exact .boolean _ b
  · obtain ⟨z, rfl, hz⟩ := DuckDb.cast_decimal s _ _ value h
    exact .decimal _ _ _ hz
  · cases h

theorem parseScalarType_plain (name : String) : (parseScalarType name).Plain := by
  unfold parseScalarType
  split <;> rfl

theorem parsesPlain : ParsesPlain Binary64 := by
  intro formatType isArray
  change (parseType (logicalType formatType isArray)).Plain
  unfold parseType
  split
  · exact ⟨parseScalarType_plain _, rfl⟩
  · exact parseScalarType_plain _

/-- A table with a canvas. -/
def canvasTable : RustBridgeTableInfo :=
  borrowRustBridgeTableInfo Binary64 (ffiCatalogTable table [listedColumn "canvas"])

/-- A scan of its row ids and its canvas. -/
def canvasState : RustBridgeScanGlobalState :=
  { scanState 0 with
    table := canvasTable
    columnIndexes := [⟨columnIdentifierRowId⟩, ⟨0⟩]
    outputTypes := [.varchar, .simple .varchar "JSON"] }

theorem loadColumns_canvas :
    (loadColumns "doc" "t1" false [reply 200 (columnListing "canvas")]).result =
      .ok [listedColumn "canvas"] := by
  have hvalid : ValidNames [listedColumn "canvas"] :=
    ⟨by simp [listedColumn, formatColumn], List.pairwise_singleton _ _⟩
  rw [columnListing, loadColumns_page (by simp [listedColumn, formatColumn])]
  exact congrArg Except.ok (prepareColumns_of_valid hvalid)

theorem columnType_canvas :
    columnType Binary64 (listedColumn "canvas") = .simple .varchar "JSON" := by
  have htype : (listedColumn "canvas").duckdbType = "VARCHAR" := by decide +kernel
  have halias : (listedColumn "canvas").duckdbTypeAlias = "JSON" := by decide +kernel
  rw [columnType, htype, halias, DuckDb.parseType_varchar]
  rfl

theorem canvasState_typed : canvasState.Typed := by
  refine .cons ?_ (.cons ?_ .nil)
  · exact .inl ⟨"rowid", .head _⟩
  · exact ⟨_, rfl, columnType_canvas.symm⟩

/-! ## A scan of cells of every shape -/

/-- Columns of several formats. -/
def shapeColumns : List Column :=
  [formatColumn "c1" "Name" "text" false, formatColumn "c2" "Notes" "canvas" false,
    formatColumn "c3" "Done" "checkbox" false, formatColumn "c4" "Amount" "number" false,
    formatColumn "c5" "Tags" "select" true, formatColumn "c6" "Scores" "number" true]

/-- The types of their vectors. -/
def shapeTypes : List LogicalType :=
  [.varchar, .simple .varchar "JSON", .boolean, .decimal 38 20 "", .list .varchar "",
    .list (.decimal 38 20 "") ""]

/-- Rows whose cells are all of one shape, whatever the format of their column is. -/
def shapeRows : List Row :=
  [("r1", .null), ("r2", .bool true), ("r3", .number (.ofInt 12)), ("r4", .string "12"),
    ("r5", .array [.string "12", .null, .bool false, .object []]),
    ("r6", .object [("amount", .number (.ofInt 5)), ("name", .string "12")])].map
    fun shape : String × Json.Value =>
      { id := shape.1
        createdAt := ""
        updatedAt := ""
        deleted := false
        cells := shapeColumns.map fun column => { columnId := column.id, value := shape.2 } }

theorem listedCells_shapeRows : ∀ row ∈ shapeRows, ListedCells row := by
  have hcanonical : ∀ row ∈ shapeRows, (cellsJson row).canonicalize = cellsJson row := by
    decide +kernel
  have hreadable : ∀ row ∈ shapeRows, (cellsJson row).readable 124 = true := by decide +kernel
  exact fun row hrow => ⟨hcanonical row hrow, hreadable row hrow⟩

def shapeTable : RustBridgeTableInfo :=
  borrowRustBridgeTableInfo Binary64 (ffiCatalogTable table shapeColumns)

/-- A scan of the row ids and of all columns. -/
def shapeState : RustBridgeScanGlobalState :=
  { scanState 0 with
    table := shapeTable
    columnIndexes := ⟨columnIdentifierRowId⟩ :: (List.range shapeColumns.length).map ColumnIndex.mk
    outputTypes := .varchar :: shapeTypes }

theorem loadColumns_shapes :
    (loadColumns "doc" "t1" false
      [reply 200 (listingPage (shapeColumns.map columnJson) "")]).result = .ok shapeColumns := by
  have hvalid : ValidNames shapeColumns := by
    refine ⟨by decide +kernel, ?_⟩
    decide +kernel
  rw [loadColumns_page (by decide +kernel)]
  exact congrArg Except.ok (prepareColumns_of_valid hvalid)

theorem shapeState_typed : shapeState.Typed := by
  have htype {column : Column} (duckdbType typeAlias : String)
      (h : column.duckdbType = duckdbType ∧ column.duckdbTypeAlias = typeAlias) :
      applyValueTypeAlias (Reference.parseType duckdbType) typeAlias =
        columnType Binary64 column := by
    rw [columnType, h.1, h.2]
    rfl
  refine .cons (.inl ⟨"rowid", .head _⟩) (.cons ⟨_, rfl, ?_⟩ (.cons ⟨_, rfl, ?_⟩
    (.cons ⟨_, rfl, ?_⟩ (.cons ⟨_, rfl, ?_⟩ (.cons ⟨_, rfl, ?_⟩ (.cons ⟨_, rfl, ?_⟩ .nil))))))
  · exact htype "VARCHAR" "" (by decide +kernel)
  · exact htype "VARCHAR" "JSON" (by decide +kernel)
  · exact htype "BOOLEAN" "" (by decide +kernel)
  · exact htype "DECIMAL(38,20)" "" (by decide +kernel)
  · exact htype "VARCHAR[]" "" (by decide +kernel)
  · exact htype "DECIMAL(38,20)[]" "" (by decide +kernel)

/-- **Cells of every shape under every format**: all rows are read. -/
theorem scan_values_typed_shapes :
    ∃ chunks final rest, ScanRun (F := Binary64) 2048 shapeState
      [reply 200 (pageJson shapeRows "" "")] chunks final rest ∧
    chunks.flatten.length = shapeRows.length ∧
    ∀ chunk ∈ chunks, ∀ values ∈ chunk, List.Forall₂ OfType (.varchar :: shapeTypes) values := by
  have hnew : RustBridgeScanGlobalState.new (fun _ => .ok ()) config table (.new shapeTable) []
      shapeState.columnIndexes (.varchar :: shapeTypes) = .ok shapeState := rfl
  have hconsumes : Consumes shapeState.scan [reply 200 (pageJson shapeRows "" "")]
      [{ rows := shapeRows, nextPageToken := "", nextSyncToken := "" }] :=
    .next rfl (list_pageJson rfl listedCells_shapeRows 200 "" "" []) (.done rfl)
  obtain ⟨⟨chunks, final, rest, hrun⟩, htyped⟩ := scan_values_typed castsToType parsesPlain
    (show 0 < 2048 by decide) loadColumns_shapes rfl hnew shapeState_typed hconsumes
  refine ⟨chunks, final, rest, hrun, ?_, htyped chunks final rest hrun⟩
  obtain ⟨hscan, houtstanding⟩ := scanning_new hnew hconsumes
  obtain ⟨hflat, -⟩ := hrun.flatten (by decide) hscan shapeState_typed.inRange
  have hlength := congrArg List.length hflat
  rw [houtstanding, List.length_map, List.length_map] at hlength
  exact hlength

end SuperhumanDocs
