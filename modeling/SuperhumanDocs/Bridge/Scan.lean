import SuperhumanDocs.Bridge.Value
import SuperhumanDocs.Client.Scan
import SuperhumanDocs.ScanValue

/-!
# The table scan

DuckDB calls `rustBridgeScan` for one chunk of at most a vector of rows at a time. The global
state buffers the last batch of the scan handle, the offset of the next row in it, and a countdown
of the rows left of a pushed limit.
-/

set_option autoImplicit false

namespace SuperhumanDocs

open Binary (F64)
open Json (SerdeJson)

/-! ## Tables and columns -/

/-- The index of a column; the upper half of the indexes is virtual. -/
structure ColumnIndex where
  primaryIndex : Nat
deriving DecidableEq, Repr

def ColumnIndex.isVirtualColumn (index : ColumnIndex) : Bool := decide (2 ^ 63 ≤ index.primaryIndex)

/-- The virtual column of the row id. -/
def columnIdentifierRowId : Nat := 2 ^ 64 - 1

structure RustBridgeColumnInfo where
  column : RustExtColumn
  duckdbType : LogicalType

structure RustBridgeTableInfo where
  table : RustExtCatalogTable
  columns : List RustBridgeColumnInfo

def RustBridgeTableInfo.supports (table : RustBridgeTableInfo) (capability : Nat) : Bool :=
  SuperhumanDocs.supports table.table.capabilities capability

def ffiColumn (column : Column) : RustExtColumn where
  handle := some column
  name := column.name
  logicalType := column.duckdbType
  valueTypeAlias := column.duckdbTypeAlias
  capabilities := column.capabilities

def ffiCatalogTable (table : Table) (columns : List Column) : RustExtCatalogTable where
  handle := some table
  name := table.name
  capabilities := table.capabilities
  columns := columns.map ffiColumn

structure RustBridgeScanBindData where
  table : RustBridgeTableInfo
  pushedQuery : String
  pushedQueryDescription : String
  pushedSortBy : String
  pushedLimit : Nat

def RustBridgeScanBindData.new (table : RustBridgeTableInfo) : RustBridgeScanBindData where
  table
  pushedQuery := ""
  pushedQueryDescription := ""
  pushedSortBy := ""
  pushedLimit := 0

/-! ## Values of a row -/

section
variable {F : Type} [F64 F] [SerdeJson] [DuckDb F]

variable (F) in
/-- The table with the DuckDB types of its columns. -/
def borrowRustBridgeTableInfo (rawTable : RustExtCatalogTable) : RustBridgeTableInfo where
  table := rawTable
  columns := rawTable.columns.map fun column =>
    { column
      duckdbType := applyValueTypeAlias (DuckDb.parseType F column.logicalType)
        column.valueTypeAlias }

def scanTextToValue (value : String) (targetType : LogicalType) : DuckValue F :=
  match targetType with
  | .simple .varchar typeAlias =>
    if typeAlias == "JSON" then .text value typeAlias else .text value ""
  | _ =>
    match DuckDb.cast value targetType with
    | some value => value
    | none => .null targetType

def scanValueToValue (scanValue : RustExtScanValue) (targetType : LogicalType) : DuckValue F :=
  if scanValue.isNull then .null targetType
  else
    match targetType with
    | .list childType _ =>
      .list (scanValue.arrayValues.map fun arrayValue =>
        if arrayValue.isNull then .null childType
        else scanTextToValue arrayValue.value childType)
    | _ => scanTextToValue scanValue.value targetType

variable (F) in
/-- The value of a column in a row; `none` when a handle is missing. -/
def rustExtScanValue (column : Option Column) (row : Option Row) : Option RustExtScanValue := do
  return scanValue F (← column) (← row)

/-- The value of a column of the table in a row. -/
def scanColumnValue (column : RustBridgeColumnInfo) (row : RustExtScanRow) : DuckValue F :=
  match rustExtScanValue F column.column.handle row.handle with
  | none => .null column.duckdbType
  | some value => scanValueToValue value column.duckdbType

/-- The value of an output column in a row; `outputType` is the type of its vector. -/
def scanOutputValue (table : RustBridgeTableInfo) (row : RustExtScanRow)
    (columnIndex : ColumnIndex) (outputType : LogicalType) : Except String (DuckValue F) :=
  if columnIndex.isVirtualColumn then
    if columnIndex.primaryIndex = columnIdentifierRowId then .ok (.text row.rowId "")
    else .ok (.null outputType)
  else
    match table.columns[columnIndex.primaryIndex]? with
    | none => .error "Superhuman Docs scan column index out of range"
    | some column => .ok (scanColumnValue column row)

end

/-! ## The scan -/

structure RustBridgeScanGlobalState where
  table : RustBridgeTableInfo
  columnIndexes : List ColumnIndex
  outputTypes : List LogicalType
  scan : ScanHandle
  rows : RustExtScanBatch
  rowOffset : Nat
  remainingRows : Nat
  finished : Bool

/-- The columns at the projected positions, or all of them. -/
def projectedColumns (projectionIds : List Nat) (columnIndexes : List ColumnIndex) :
    Except String (List ColumnIndex) :=
  if projectionIds.isEmpty then .ok columnIndexes
  else projectionIds.mapM fun id => okOr columnIndexes[id]? "vector index out of range"

/-- Open the scan of the bind data for the projected columns. -/
def RustBridgeScanGlobalState.new (newClient : ClientConfig → Except String Unit)
    (config : ClientConfig) (table : Table) (bindData : RustBridgeScanBindData)
    (projectionIds : List Nat) (columnIndexes : List ColumnIndex)
    (outputTypes : List LogicalType) : Except String RustBridgeScanGlobalState := do
  let columnIndexes ← projectedColumns projectionIds columnIndexes
  let request : RustExtScanRequest :=
    { filter := bindData.pushedQuery
      order := bindData.pushedSortBy
      limit := bindData.pushedLimit }
  let scan ← ScanHandle.new newClient config table request
  return {
    table := bindData.table
    columnIndexes
    outputTypes
    scan
    rows := { rows := [], finished := false }
    rowOffset := 0
    remainingRows := bindData.pushedLimit
    finished := false }

/-- The projected columns are virtual or columns of the table, as the planner promises. -/
def RustBridgeScanGlobalState.InRange (state : RustBridgeScanGlobalState) : Prop :=
  ∀ index ∈ state.columnIndexes,
    index.isVirtualColumn = true ∨ index.primaryIndex < state.table.columns.length

/-- A call of the scan: its state after the call, the chunk and the replies it left. -/
structure ScanCall (α : Type) where
  state : RustBridgeScanGlobalState
  result : Except Stop α
  replies : List Reply

section
variable [SerdeJson]

/-- Fetch batches until a row is unread (`true`) or the scan is finished (`false`). -/
def RustBridgeScanGlobalState.refill (state : RustBridgeScanGlobalState) (replies : List Reply) :
    ScanCall Bool :=
  if state.rowOffset ≥ state.rows.rows.length then
    if state.finished then { state, result := .ok false, replies }
    else
      let next := state.scan.nextBatch replies
      match _h : next.2.result with
      | .error stop =>
        { state := { state with scan := next.1 }, result := .error stop, replies := next.2.replies }
      | .ok rows =>
        let state :=
          { state with scan := next.1, rows := rows, finished := rows.finished, rowOffset := 0 }
        if rows.rows.isEmpty then
          if _hf : rows.finished = true then { state, result := .ok false, replies := next.2.replies }
          else state.refill next.2.replies
        else { state, result := .ok true, replies := next.2.replies }
  else { state, result := .ok true, replies }
termination_by replies.length
decreasing_by exact nextBatch_replies _h (by simpa using _hf)

variable {F : Type} [F64 F] [DuckDb F]

/-- The output values of a row. -/
def RustBridgeScanGlobalState.outputRow (state : RustBridgeScanGlobalState) (row : RustExtScanRow) :
    Except String (List (DuckValue F)) :=
  (state.columnIndexes.zip state.outputTypes).mapM fun (columnIndex, outputType) =>
    scanOutputValue state.table row columnIndex outputType

/-- Count a row towards the limit; the last one finishes the scan. -/
def RustBridgeScanGlobalState.countDown (state : RustBridgeScanGlobalState) :
    RustBridgeScanGlobalState :=
  { state with
    remainingRows := state.remainingRows - 1
    finished := state.finished || state.remainingRows == 1 }

/-- The loop that fills a chunk with at most `space` rows. -/
def scanRows : (space : Nat) → RustBridgeScanGlobalState → List Reply →
    ScanCall (List (List (DuckValue F)))
  | 0, state, replies => { state, result := .ok [], replies }
  | space + 1, state, replies =>
    let refilled := state.refill replies
    let state := refilled.state
    match refilled.result with
    | .error stop => { state, result := .error stop, replies := refilled.replies }
    | .ok false => { state, result := .ok [], replies := refilled.replies }
    | .ok true =>
      match state.rows.rows[state.rowOffset]? with
      | none => { state, result := .ok [], replies := refilled.replies }
      | some row =>
        let state := { state with rowOffset := state.rowOffset + 1 }
        match state.outputRow row with
        | .error e => { state, result := .error (.failed e), replies := refilled.replies }
        | .ok values =>
          if state.remainingRows = 1 then
            { state := state.countDown, result := .ok [values], replies := refilled.replies }
          else
            let rest := scanRows space state.countDown refilled.replies
            { rest with result := rest.result.map (values :: ·) }

/-- One chunk of the scan, for vectors of `standardVectorSize` rows. -/
def rustBridgeScan (standardVectorSize : Nat) (state : RustBridgeScanGlobalState)
    (replies : List Reply) : ScanCall (List (List (DuckValue F))) :=
  if state.finished && decide (state.rowOffset ≥ state.rows.rows.length) then
    { state, result := .ok [], replies }
  else scanRows standardVectorSize state replies

end

end SuperhumanDocs
