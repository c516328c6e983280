import SuperhumanDocs.Raw.Catalog

/-!
# The scan in memory

A scan owns a boxed `ScanHandle` and the rows of the last batch. Each value it reads from a row
is lent from the row or a string of its own that C++ frees when it has copied it; the rows are
freed when the next batch takes their place.
-/

set_option autoImplicit false

namespace SuperhumanDocs.Raw

open Binary (F64)
open Json (SerdeJson)
open Memory

/-! ## Batches -/

/-- The record of a boxed row. -/
def scanRowRecord (handle : ℕ) (row : Row) : RustExtScanRow where
  handle := some handle
  rowId := borrowString handle .rowId row.id

def RustExtScanBatch.default : RustExtScanBatch where
  rows := none
  rowCount := 0
  finished := false

section
variable [Allocator Block]

def ffiScanRow (row : Row) : Program Block RustExtScanRow := do
  let handle ← box Block row
  return scanRowRecord handle row

def ffiScanBatch (rows : List Row) (finished : Bool) : Program Block RustExtScanBatch := do
  let (rows, rowCount) ← vecIntoRawParts (← rows.mapM ffiScanRow)
  return { rows, rowCount, finished }

end

def freeScanBatch (batch : RustExtScanBatch) : Program Block Unit := do
  let rows ← vecFromRawParts RustExtScanRow batch.rows batch.rowCount
  rows.forM fun row => dropHandle Row row.handle

/-! ## Values of a row -/

def RustExtScanValue.default : RustExtScanValue where
  isNull := true
  valueOwned := false
  value := .default
  arrayValues := none
  arrayCount := 0

/-- A value that is lent; an empty one is NULL. -/
def lentScanValue (value : RustExtString) : RustExtScanValue :=
  if value.len = 0 then .default else { RustExtScanValue.default with isNull := false, value }

/-- The metadata of a row that a system column shows, lent from the row. -/
def scanSystemValue (column : Column) (handle : ℕ) (row : Row) : RustExtScanValue :=
  lentScanValue <|
    if eqIgnoreAsciiCase column.id "createdAt" then
      borrowString handle .rowCreatedAt row.createdAt
    else if eqIgnoreAsciiCase column.id "updatedAt" then
      borrowString handle .rowUpdatedAt row.updatedAt
    else lendString ""

section
variable [Allocator Block]

def allocArrayValue (item : SuperhumanDocs.RustExtArrayValue) : Program Block RustExtArrayValue :=
  if item.isNull then pure { isNull := true, value := .default }
  else do return { isNull := false, value := ← allocString item.value }

/-- The value read from the cells of a row, with strings of its own. -/
def allocScanValue (value : SuperhumanDocs.RustExtScanValue) : Program Block RustExtScanValue := do
  let (arrayValues, arrayCount) ← vecIntoRawParts (← value.arrayValues.mapM allocArrayValue)
  let text ← (if value.valueOwned then allocString value.value else pure .default)
  return {
    isNull := value.isNull
    valueOwned := value.valueOwned
    value := text
    arrayValues
    arrayCount }

variable (F : Type) [F64 F]

def scanValue (column : Column) (handle : ℕ) (row : Row) : Program Block RustExtScanValue :=
  if supports column.capabilities rustExtColumnSystem then
    pure (scanSystemValue column handle row)
  else allocScanValue (scanCells F column row.cells)

/-- The value of a column in a row; `none` when a handle is missing. -/
def rustExtScanValue (column row : Option ℕ) : Program Block (Option RustExtScanValue) := do
  match ← refFromRaw Column column "column", row with
  | .ok column, some handle => do
    let row ← deref Row handle
    return some (← scanValue F column handle row)
  | _, _ => return none

end

def freeArrayValue (item : RustExtArrayValue) : Program Block Unit :=
  if item.isNull then pure () else item.value.free

def freeScanValue (value : RustExtScanValue) : Program Block Unit := do
  (if value.valueOwned then value.value.free else pure ())
  let items ← vecFromRawParts RustExtArrayValue value.arrayValues value.arrayCount
  items.forM freeArrayValue

section
variable {F : Type} [F64 F] [SerdeJson] [DuckDb F]

def arrayValueToValue (childType : LogicalType) (arrayValue : RustExtArrayValue) :
    Program Block (DuckValue F) :=
  if arrayValue.isNull then pure (.null childType)
  else do return scanTextToValue (← rustBridgeString arrayValue.value) childType

def scanValueToValue (scanValue : RustExtScanValue) (targetType : LogicalType) :
    Program Block (DuckValue F) :=
  if scanValue.isNull then pure (.null targetType)
  else
    match targetType with
    | .list childType _ => do
      let items ← sliceFromRawParts RustExtArrayValue scanValue.arrayValues scanValue.arrayCount
      return .list (← items.mapM (arrayValueToValue childType))
    | _ => do return scanTextToValue (← rustBridgeString scanValue.value) targetType

variable [Allocator Block]

/-- The value of a column of the table in a row; what it came in is freed. -/
def scanColumnValue (column : RustBridgeColumnInfo) (row : RustExtScanRow) :
    Program Block (DuckValue F) := do
  let rawColumn ← column.column.deref RustExtColumn
  match ← rustExtScanValue F rawColumn.handle row.handle with
  | none => return .null column.duckdbType
  | some scanValue => do
    let value ← scanValueToValue scanValue column.duckdbType
    freeScanValue scanValue
    return value

def scanOutputValue (table : RustBridgeTableInfo) (row : RustExtScanRow)
    (columnIndex : ColumnIndex) (outputType : LogicalType) :
    Program Block (Except Exception (DuckValue F)) :=
  if columnIndex.isVirtualColumn then
    if columnIndex.primaryIndex = columnIdentifierRowId then do
      return .ok (.text (← rustBridgeString row.rowId) "")
    else pure (.ok (.null outputType))
  else
    match table.columns[columnIndex.primaryIndex]? with
    | none => pure (.error (.internal "Superhuman Docs scan column index out of range"))
    | some column => do return .ok (← scanColumnValue column row)

/-- The output values of a row, up to the first column that throws. -/
def outputRow (table : RustBridgeTableInfo) (row : RustExtScanRow) :
    List (ColumnIndex × LogicalType) → Program Block (Except Exception (List (DuckValue F)))
  | [] => pure (.ok [])
  | (columnIndex, outputType) :: columns => do
    match ← scanOutputValue table row columnIndex outputType with
    | .error e => return .error e
    | .ok value => return (← outputRow table row columns).map (value :: ·)

end

/-! ## The scan -/

structure RustBridgeScanBindData where
  table : RustBridgeTableInfo
  pushedQuery : String
  pushedSortBy : String
  pushedLimit : ℕ

structure RustBridgeScanGlobalState where
  table : RustBridgeTableInfo
  columnIndexes : List ColumnIndex
  outputTypes : List LogicalType
  scan : Option ℕ
  rows : RustExtScanBatch
  rowOffset : ℕ
  remainingRows : ℕ
  finished : Bool

/-- A call of the scan: its state after the call, the chunk and the replies it left. -/
structure ScanCall (α : Type) where
  state : RustBridgeScanGlobalState
  result : Except (Option Exception) α
  replies : List Reply

/-- The rows that `ffiScanBatch` was given for a batch. -/
def boxedRows (batch : SuperhumanDocs.RustExtScanBatch) : List Row :=
  batch.rows.filterMap (·.handle)

section
variable [Allocator Block]

/-- `OpenScan` in C++, down to the call it makes. -/
def rustBridgeOpenScan (newClient : ClientConfig → Except String Unit) (config : Option ℕ)
    (bindData : RustBridgeScanBindData) : Program Block (Except (Option Exception) ℕ) := do
  let context := "failed to open Superhuman Docs scan"
  let filter := lendString bindData.pushedQuery
  let order := lendString bindData.pushedSortBy
  let rawTable ← bindData.table.table.deref RustExtCatalogTable
  let config ← refFromRaw ClientConfig config "client config"
  let table ← refFromRaw Table rawTable.handle "table"
  let request : RustExtScanRequest :=
    { filter := ← filter.asStr, order := ← order.asStr, limit := bindData.pushedLimit }
  match (do ScanHandle.new newClient (← config) (← table) request) with
  | .error e => do ffiBool context (.error (.failed e)) >>= orThrow .invalidInput
  | .ok handle => do
    let handle ← box Block handle
    ffiBool context (.ok handle) >>= orThrow .invalidInput

/-- Open the scan of the bind data for the projected columns. -/
def RustBridgeScanGlobalState.new (newClient : ClientConfig → Except String Unit)
    (config : Option ℕ) (bindData : RustBridgeScanBindData) (projectionIds : List ℕ)
    (columnIndexes : List ColumnIndex) (outputTypes : List LogicalType) :
    Program Block (Except (Option Exception) RustBridgeScanGlobalState) :=
  match projectedColumns projectionIds columnIndexes with
  | .error e => pure (.error (some (.internal e)))
  | .ok columnIndexes => do
    match ← rustBridgeOpenScan newClient config bindData with
    | .error e => return .error e
    | .ok scan => return .ok {
        table := bindData.table
        columnIndexes
        outputTypes
        scan := some scan
        rows := .default
        rowOffset := 0
        remainingRows := bindData.pushedLimit
        finished := false }

variable [SerdeJson]

/-- `NextScanBatch` in C++, down to the call it makes; the replies it leaves come with it. -/
def rustBridgeNextScanBatch (scan : Option ℕ) (replies : List Reply) :
    Program Block (Except (Option Exception) RustExtScanBatch × List Reply) := do
  let context := "failed to fetch next Superhuman Docs scan batch"
  match scan with
  | none => do
    let missing := .error (.failed "missing scan handle pointer")
    return (← ffiBool context missing >>= orThrow .invalidInput, replies)
  | some address => do
    let handle ← deref ScanHandle address
    let next := handle.nextBatch replies
    assign address next.1
    match next.2.result with
    | .error stop => do
      return (← ffiBool context (.error stop) >>= orThrow .invalidInput, next.2.replies)
    | .ok batch => do
      let batch ← ffiScanBatch (boxedRows batch) batch.finished
      return (← ffiBool context (.ok batch) >>= orThrow .invalidInput, next.2.replies)

/-- Fetch batches until a row is unread (`true`) or the scan is finished (`false`). A batch takes
the place of the last one, whose rows are freed. -/
def RustBridgeScanGlobalState.refill (state : RustBridgeScanGlobalState) (replies : List Reply) :
    Program Block (ScanCall Bool) :=
  if state.rowOffset ≥ state.rows.rowCount then
    if state.finished then pure { state, result := .ok false, replies }
    else do
      match ← rustBridgeNextScanBatch state.scan replies with
      | (.error e, left) => return { state, result := .error e, replies := left }
      | (.ok rows, left) => do
        freeScanBatch state.rows
        let state := { state with rows, finished := rows.finished, rowOffset := 0 }
        if rows.rowCount = 0 then
          if rows.finished then return { state, result := .ok false, replies := left }
          -- an empty batch that is not the last used up a reply
          else if _h : left.length < replies.length then state.refill left
          else undefinedBehaviour
        else return { state, result := .ok true, replies := left }
  else pure { state, result := .ok true, replies }
termination_by replies.length

/-- Count a row towards the limit; the last one finishes the scan. -/
def RustBridgeScanGlobalState.countDown (state : RustBridgeScanGlobalState) :
    RustBridgeScanGlobalState :=
  { state with
    remainingRows := state.remainingRows - 1
    finished := state.finished || state.remainingRows == 1 }

variable {F : Type} [F64 F] [DuckDb F]

/-- The loop that fills a chunk with at most `space` rows. -/
def scanRows : (space : ℕ) → RustBridgeScanGlobalState → List Reply →
    Program Block (ScanCall (List (List (DuckValue F))))
  | 0, state, replies => pure { state, result := .ok [], replies }
  | space + 1, state, replies => do
    let refilled ← state.refill replies
    let state := refilled.state
    match refilled.result with
    | .error e => return { state, result := .error e, replies := refilled.replies }
    | .ok false => return { state, result := .ok [], replies := refilled.replies }
    | .ok true =>
      match state.rows.rows with
      | none => undefinedBehaviour
      | some slice => do
        let row ← ItemPtr.deref RustExtScanRow ⟨slice, state.rowOffset⟩
        let state := { state with rowOffset := state.rowOffset + 1 }
        match ← outputRow state.table row (state.columnIndexes.zip state.outputTypes) with
        | .error e => return { state, result := .error (some e), replies := refilled.replies }
        | .ok values =>
          if state.remainingRows = 1 then
            return { state := state.countDown, result := .ok [values], replies := refilled.replies }
          else do
            let rest ← scanRows space state.countDown refilled.replies
            return { rest with result := rest.result.map (values :: ·) }

/-- One chunk of the scan, for vectors of `standardVectorSize` rows. -/
def rustBridgeScan (standardVectorSize : ℕ) (state : RustBridgeScanGlobalState)
    (replies : List Reply) : Program Block (ScanCall (List (List (DuckValue F)))) :=
  if state.finished && decide (state.rowOffset ≥ state.rows.rowCount) then
    pure { state, result := .ok [], replies }
  else scanRows standardVectorSize state replies

end

/-- The members of the state are destroyed in the reverse of their order. -/
def RustBridgeScanGlobalState.destroy (state : RustBridgeScanGlobalState) : Program Block Unit := do
  freeScanBatch state.rows
  dropHandle ScanHandle state.scan

end SuperhumanDocs.Raw
