import SuperhumanDocs.Paging.Top
import SuperhumanDocs.Proof.Pushdown

/-!
# A pushed order and limit

An ordering with a limit above a scan is pushed into it. The scan then stops at the page on which it
has streamed as many rows as the limit, and the operator above it orders the rows it got.

* `sorted_metadata`: only the metadata columns are pushed, and the SDK sorts by what they read.
* `order_streams_tops`: when the first rows of those streamed are the first of the table.
-/

set_option autoImplicit false

namespace SuperhumanDocs

open Binary (Binary64 F64)
open Json (SerdeJson)
open Effect (bind_eq_ok)
open Paging (TopN limited limited_map limited_prefix le_length_limited)

/-- The text of a row that the server sorts by. -/
def RowsSortBy.text : RowsSortBy → Row → Option String
  | .createdAt, row => nonEmptyString row.createdAt
  | .updatedAt, row => nonEmptyString row.updatedAt
  | .natural, _ => none

section
variable {F : Type} [F64 F] [SerdeJson] [DuckDb F] {docId tableId : String}
  {includeSystemColumns : Bool} {catalogReplies : List Reply} {columns : List Column} {table : Table}
  {column : Column}

/-- A column of a loaded table that is sorted by is one of the metadata. -/
theorem loaded_sortable
    (hcolumns : (loadColumns docId tableId includeSystemColumns catalogReplies).result =
      .ok columns) (hcolumn : column ∈ columns)
    (hsort : supports column.capabilities rustExtColumnSortAsc = true) :
    ∃ metadata ∈ ["createdAt", "updatedAt"],
      column = { rowMetadataColumn metadata with name := column.name } := by
  obtain hlisted | hmetadata := loadColumns_listed hcolumns _ hcolumn
  · obtain ⟨calculated, hcapabilities⟩ := hlisted.capabilities
    have hnone : ∀ calculated isArray : Bool,
        supports (columnCapabilities calculated isArray) rustExtColumnSortAsc = false := by decide
    rw [hcapabilities, hnone] at hsort
    cases hsort
  · exact hmetadata

variable (F) in
/-- DuckDB knows the name of the type of the metadata. -/
def ParsesTimestamps : Prop := DuckDb.parseType F "TIMESTAMPTZ" = .simple .timestampTz ""

/-- The moment that the server sorts a row by. -/
def RowsSortBy.value (order : RowsSortBy) (row : Row) : DuckValue F :=
  (order.text row).elim (.null (.simple .timestampTz ""))
    (scanTextToValue · (.simple .timestampTz ""))

/-- **A column that is sorted by reads what the server sorts by.** -/
theorem sorted_metadata (hparse : ParsesTimestamps F) {metadata : String}
    (hmetadata : metadata ∈ ["createdAt", "updatedAt"])
    (hcolumn : column = { rowMetadataColumn metadata with name := column.name }) :
    ∃ order, rowsSortBy column.id = .ok (some order) ∧
      ∀ row, (scannedValue column row : DuckValue F) = order.value row := by
  have hid : column.id = metadata := by
    rw [hcolumn]
    rfl
  have hsystem : supports column.capabilities rustExtColumnSystem = true := by
    rw [hcolumn]
    change supports (rowMetadataColumn "").capabilities _ = true
    decide
  have htype : columnType F column = .simple .timestampTz "" := by
    have hname : logicalType "datetime" false = "TIMESTAMPTZ" := by decide +kernel
    rw [hcolumn]
    change applyValueTypeAlias (DuckDb.parseType F (logicalType "datetime" false)) "" = _
    rw [hname, hparse]
    rfl
  have hread (row : Row) : (scannedValue column row : DuckValue F) =
      scanValueToValue (scanSystemValue column row) (.simple .timestampTz "") := by
    have hvalue : scanValue F column row = scanSystemValue column row := by
      rw [scanValue, if_pos hsystem]
    rw [← hvalue, ← htype]
    rfl
  have hsort (text : String) :
      (scanValueToValue (if text.isEmpty then .default
        else { RustExtScanValue.default with isNull := false, value := text })
        (.simple .timestampTz "") : DuckValue F) =
      (nonEmptyString text).elim (.null (.simple .timestampTz ""))
        (scanTextToValue · (.simple .timestampTz "")) := by
    unfold nonEmptyString
    split <;> rfl
  rw [List.mem_pair] at hmetadata
  obtain rfl | rfl := hmetadata
  · refine ⟨.createdAt, by rw [hid]; rfl, fun row => ?_⟩
    have hcreated : eqIgnoreAsciiCase "createdAt" "createdAt" = true := by decide +kernel
    rw [hread, scanSystemValue, hid, if_pos hcreated]
    exact hsort row.createdAt
  · refine ⟨.updatedAt, by rw [hid]; rfl, fun row => ?_⟩
    have hcreated : ¬ eqIgnoreAsciiCase "updatedAt" "createdAt" = true := by decide +kernel
    have hupdated : eqIgnoreAsciiCase "updatedAt" "updatedAt" = true := by decide +kernel
    rw [hread, scanSystemValue, hid, if_neg hcreated, if_pos hupdated]
    exact hsort row.updatedAt

/-! ## What is pushed -/

/-- The options ask for the first rows by a column, in ascending order. -/
def OrdersBy (options : Option RowGroupOrderOptions) (columns : List Column) (column : Column)
    (limit : Nat) : Prop :=
  ∃ orderOptions, options = some orderOptions ∧ orderOptions.rowLimit = some limit ∧
    orderOptions.orderType ≠ .descending ∧
    columns[orderOptions.columnIdx.primaryIndex]? = some column

/-- What is pushed is a column that can be sorted by, and the limit. -/
theorem scanOrder_some {options : Option RowGroupOrderOptions} {sortBy : String} {limit : Nat}
    (h : scanOrder (borrowRustBridgeTableInfo F (ffiCatalogTable table columns)) options =
      some (sortBy, limit)) :
    ∃ column, OrdersBy options columns column limit ∧ sortBy = column.id ∧
      supports column.capabilities rustExtColumnSortAsc = true := by
  obtain ⟨orderOptions, hoptions, h⟩ := Option.bind_eq_some_iff.1 h
  obtain ⟨rowLimit, hlimit, h⟩ := Option.bind_eq_some_iff.1 h
  split at h
  · cases h
  · rename_i hascending
    obtain ⟨info, hinfo, h⟩ := Option.bind_eq_some_iff.1 h
    obtain ⟨id, hsort, h⟩ := Option.bind_eq_some_iff.1 h
    cases h
    rw [borrowRustBridgeTableInfo, ffiCatalogTable, List.map_map, List.getElem?_map,
      Option.map_eq_some_iff] at hinfo
    obtain ⟨column, hcolumn, rfl⟩ := hinfo
    simp only [rustExtScanSortBy, Function.comp_apply, ffiColumn, columnFromHandle, refFromRaw]
      at hsort
    split at hsort
    · cases hsort
      exact ⟨column, ⟨orderOptions, hoptions, hlimit, hascending, hcolumn⟩, rfl, ‹_›⟩
    · cases hsort

variable {bindData : RustBridgeScanBindData}

/-- A scan with a pushed order: it asks for the order, it streams the first rows of the listing, and
the first of those in some order are the first of the listing exactly when no row that is left comes
before one of them; which is so when the listing is in that order. -/
structure StreamsTops (F : Type) [F64 F] [SerdeJson] [DuckDb F] (standardVectorSize : Nat)
    (state : RustBridgeScanGlobalState) (replies : List Reply) (sortBy : String) (limit : Nat)
    (rows streamed left : List Row) : Prop where
  sortBy : state.scan.sortBy = sortBy
  split : rows = streamed ++ left
  runs : ∃ chunks final rest,
    ScanRun (F := F) standardVectorSize state replies chunks final rest
  emitted : ∀ chunks final rest,
    ScanRun (F := F) standardVectorSize state replies chunks final rest →
      chunks.flatten.map Except.ok = streamed.map fun row => state.outputRow (ffiScanRow row)
  tops : ∀ le tops, TopN le limit streamed tops →
    (TopN le limit rows tops ↔ ∀ top ∈ tops, ∀ row ∈ left, le top row)
  sorted : ∀ le tops, rows.Pairwise le → TopN le limit streamed tops → TopN le limit rows tops

omit [SerdeJson] in
theorem OrdersBy.mem {options : Option RowGroupOrderOptions} {limit : Nat}
    (h : OrdersBy options columns column limit) : column ∈ columns := by
  obtain ⟨orderOptions, -, -, -, hcolumn⟩ := h
  exact List.mem_of_getElem? hcolumn

variable {newClient : ClientConfig → Except String Unit} {config : ClientConfig}
  {projectionIds : List Nat} {columnIndexes : List ColumnIndex} {outputTypes : List LogicalType}
  {state : RustBridgeScanGlobalState} {replies : List Reply} {responses : List RowsResponse}
  {standardVectorSize : Nat}

/-- A scan with a limit streams whole pages, up to the one on which the limit is reached. -/
theorem scan_streams_tops (hV : 0 < standardVectorSize)
    (hnew : RustBridgeScanGlobalState.new newClient config table bindData projectionIds
      columnIndexes outputTypes = .ok state)
    (hr : state.InRange) (hc : Consumes state.scan replies responses) :
    ∃ streamed left, StreamsTops F standardVectorSize state replies bindData.pushedSortBy
      bindData.pushedLimit (visibleRows responses) streamed left := by
  obtain ⟨hscan, hout⟩ := scanning_new hnew hc
  have hpages : visiblePages responses =
      (responses.map RowsResponse.visibleRows).map (List.map ffiScanRow) := by
    rw [visiblePages, List.map_map]
    rfl
  have hrows : visibleRows responses = (responses.map RowsResponse.visibleRows).flatten :=
    List.flatMap_def
  generalize responses.map RowsResponse.visibleRows = pages at hpages hrows
  obtain ⟨left, hsplit⟩ := limited_prefix bindData.pushedLimit pages
  have hread : min bindData.pushedLimit (limited bindData.pushedLimit pages ++ left).length ≤
      (limited bindData.pushedLimit pages).length := by
    rw [hsplit]
    exact le_length_limited _ _
  refine ⟨limited bindData.pushedLimit pages, left, ?_, hrows.trans hsplit.symm,
    scanRun_exists hscan hr, fun chunks final rest hrun => ?_, fun le tops h => ?_,
    fun le tops hsorted h => ?_⟩
  · exact (new_asks hnew).2
  · obtain ⟨hflat, -⟩ := hrun.flatten hV hscan hr
    rw [hflat, hout, hpages, limited_map, List.map_map]
    rfl
  · rw [hrows, ← hsplit]
    exact h.append_iff hread
  · rw [hrows, ← hsplit] at hsorted ⊢
    exact h.of_sorted hread hsorted

/-- **When the operator above a scan gets the first rows of an ordering, though the scan stops
early.** -/
theorem order_streams_tops (hV : 0 < standardVectorSize)
    (hparse : ParsesTimestamps F)
    (hcolumns : (loadColumns docId tableId includeSystemColumns catalogReplies).result =
      .ok columns)
    (htable : bindData.table = borrowRustBridgeTableInfo F (ffiCatalogTable table columns))
    (options : Option RowGroupOrderOptions) :
    rustBridgeScanSetScanOrder options bindData = bindData ∨
    ∃ column order limit, OrdersBy options columns column limit ∧
      (∃ metadata ∈ ["createdAt", "updatedAt"],
        column = { rowMetadataColumn metadata with name := column.name }) ∧
      rowsSortBy column.id = .ok (some order) ∧
      (∀ row, (scannedValue column row : DuckValue F) = order.value row) ∧
      rustBridgeScanSetScanOrder options bindData =
        { bindData with pushedSortBy := column.id, pushedLimit := limit } ∧
      ∀ newClient config projectionIds columnIndexes outputTypes state replies responses,
        RustBridgeScanGlobalState.new newClient config table
          { bindData with pushedSortBy := column.id, pushedLimit := limit } projectionIds
          columnIndexes outputTypes = .ok state →
        state.InRange → Consumes state.scan replies responses →
        ∃ streamed left, StreamsTops F standardVectorSize state replies column.id limit
          (visibleRows responses) streamed left := by
  unfold rustBridgeScanSetScanOrder
  cases horder : scanOrder bindData.table options with
  | none => exact .inl rfl
  | some pushed =>
    obtain ⟨sortBy, limit⟩ := pushed
    rw [htable] at horder
    obtain ⟨column, hby, rfl, hsort⟩ := scanOrder_some horder
    obtain ⟨metadata, hmetadata, hcolumn⟩ := loaded_sortable hcolumns hby.mem hsort
    obtain ⟨order, hid, hvalue⟩ := @sorted_metadata F _ _ _ column hparse metadata hmetadata hcolumn
    refine .inr ⟨column, order, limit, hby, ⟨metadata, hmetadata, hcolumn⟩, hid, hvalue, rfl, ?_⟩
    intro newClient config projectionIds columnIndexes outputTypes state replies responses hnew hr hc
    exact scan_streams_tops hV hnew hr hc

end

/-! ## The row created first -/

open Json.Reference Reference

def datedColumns : List Column :=
  [listedColumn "canvas", rowMetadataColumn "createdAt", rowMetadataColumn "updatedAt"]

def datedTable : RustBridgeTableInfo :=
  borrowRustBridgeTableInfo Binary64 (ffiCatalogTable table datedColumns)

/-- `ORDER BY createdAt LIMIT 1`. -/
def firstCreated : RowGroupOrderOptions where
  columnIdx := ⟨1⟩
  orderType := .ascending
  rowLimit := some 1

/-- A scan of the row ids and their timestamps in that order. -/
def datedState : RustBridgeScanGlobalState :=
  { scanState 1 with
    table := datedTable
    columnIndexes := [⟨columnIdentifierRowId⟩, ⟨1⟩]
    outputTypes := [.varchar, .simple .timestampTz ""]
    scan := { (scanState 1).scan with sortBy := "createdAt" } }

/-- A row by its id and when it was created. -/
def datedRow (id createdAt : String) : Row := { namedRow (id, false) with createdAt }

theorem listedCells_datedRow (id createdAt : String) :
    ∀ row ∈ [datedRow id createdAt], ListedCells row := by
  simp only [List.forall_mem_singleton]
  exact ⟨rfl, rfl⟩

theorem loadColumns_dated :
    (loadColumns "doc" "t1" true [reply 200 (columnListing "canvas")]).result =
      .ok datedColumns := by
  have hvalid : ValidNames datedColumns := by
    refine ⟨by simp [datedColumns, listedColumn, formatColumn, rowMetadataColumn], ?_⟩
    simp only [datedColumns, List.pairwise_cons, List.mem_cons, List.not_mem_nil, or_false,
      forall_eq_or_imp, forall_eq, false_imp_iff, implies_true, List.Pairwise.nil, and_true]
    decide +kernel
  rw [columnListing, loadColumns_page (by simp [listedColumn, formatColumn])]
  exact congrArg Except.ok (prepareColumns_of_valid hvalid)

theorem list_sorted {handle : ScanHandle} (h : handle.sortBy = "createdAt") {rows : List Row}
    (hrows : ∀ row ∈ rows, ListedCells row) (status : Nat) (nextPageToken nextSyncToken : String)
    (replies : List Reply) :
    (handle.list (reply status (pageJson rows nextPageToken nextSyncToken) :: replies)).result =
      .ok { rows, nextPageToken, nextSyncToken } := by
  have hs : rowsSortBy handle.request.1.sortBy = .ok (some .createdAt) := by
    rw [show handle.request.1.sortBy = handle.sortBy from rfl, h]
    rfl
  simp only [ScanHandle.list, listRows, hs, page_reply hrows]
  rfl

/-- The row created first is on the first page; the second one is not read. -/
theorem order_streams_tops_created : ∃ streamed left, StreamsTops Binary64 2048 datedState
    [reply 200 (pageJson [datedRow "r1" "2024-01-01T00:00:00Z"] "p2" ""),
      reply 200 (pageJson [datedRow "r2" "2024-01-02T00:00:00Z"] "" "")] "createdAt" 1
    [datedRow "r1" "2024-01-01T00:00:00Z", datedRow "r2" "2024-01-02T00:00:00Z"]
    streamed left := by
  have hconsumes : Consumes datedState.scan
      [reply 200 (pageJson [datedRow "r1" "2024-01-01T00:00:00Z"] "p2" ""),
        reply 200 (pageJson [datedRow "r2" "2024-01-02T00:00:00Z"] "" "")]
      [⟨[datedRow "r1" "2024-01-01T00:00:00Z"], "p2", ""⟩,
        ⟨[datedRow "r2" "2024-01-02T00:00:00Z"], "", ""⟩] :=
    .next rfl (list_sorted rfl (listedCells_datedRow _ _) ..)
      (.next rfl (list_sorted rfl (listedCells_datedRow _ _) ..) (.done rfl))
  have hrange : datedState.InRange := by
    intro index h
    obtain rfl | rfl := List.mem_pair.1 h
    · exact .inl (by decide)
    · exact .inr (by decide)
  obtain hsame | ⟨column, order, limit, ⟨options, hoptions, hlimit, -, hcolumn⟩, -, -, -, -, hscan⟩ :=
    order_streams_tops (F := Binary64) (show 0 < 2048 by decide) rfl loadColumns_dated
      (show (RustBridgeScanBindData.new datedTable).table = _ from rfl) (some firstCreated)
  · have hpushed := congrArg RustBridgeScanBindData.pushedLimit hsame
    exact absurd hpushed (by decide +kernel)
  · cases hoptions
    cases hlimit
    cases hcolumn
    exact hscan (fun _ => .ok ()) config [] [⟨columnIdentifierRowId⟩, ⟨1⟩]
      [.varchar, .simple .timestampTz ""] datedState _ _ rfl hrange hconsumes

end SuperhumanDocs
