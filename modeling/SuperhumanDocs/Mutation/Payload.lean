import Mathlib.Data.List.ReduceOption
import SuperhumanDocs.Effect.Except
import SuperhumanDocs.Json.SerdeJson
import SuperhumanDocs.Model

/-!
# Payloads

The bodies of the mutation requests, built from the values DuckDB passes in: a value becomes JSON,
is reduced to a primitive the column can be written with, and then to a scalar of the SDK.
`buildEqualityQuery` writes a value as the literal of a row query.

* `insertPayload_rows`, `updatePayload_row`: the rows of a payload.
* `writeCells_cells`: the cells of a row, one by one.
-/

set_option autoImplicit false

namespace SuperhumanDocs

open Binary (F64)
open Effect (bind_eq_ok mapM_eq_ok)
open Json (Number SerdeJson)

/-! ## The SDK's types -/

namespace Operations

inductive ScalarValue (F : Type) where
  | text (s : String)
  | number (x : F)
  | boolean (b : Bool)
deriving DecidableEq

inductive Value (F : Type) where
  | scalar (v : ScalarValue F)
  | flatList (vs : List (ScalarValue F))
deriving DecidableEq

structure CellEdit (F : Type) where
  column : String
  value : Value F
deriving DecidableEq

structure RowEdit (F : Type) where
  cells : List (CellEdit F)
deriving DecidableEq

structure RowsUpsert (F : Type) where
  rows : List (RowEdit F)
  keyColumns : Option (List String)
deriving DecidableEq

structure RowUpdate (F : Type) where
  row : RowEdit F
deriving DecidableEq

structure RowsDelete where
  rowIds : List String
deriving DecidableEq

end Operations

section
variable {F : Type} [F64 F] [SerdeJson]

/-! ## Values -/

def inputValueJson (value : RustExtInputValue F) : Except String Json.Value :=
  match value.valueType with
  | 0 => .ok .null
  | 1 => .ok (.bool value.boolValue)
  | 2 => .ok (.number (.ofInt value.intValue))
  | 3 => .ok (.number (.ofInt value.uintValue))
  | 4 =>
    -- infinities and NaN have no JSON number
    .ok (((F64.toNumber value.doubleValue).map Json.Value.number).getD .null)
  | 5 => .ok (.string value.stringValue)
  | 6 => (SerdeJson.fromStr value.stringValue).mapError fun error =>
      s!"invalid composite DuckDB value: {error}"
  | valueType => .error s!"unsupported DuckDB input value type: {valueType}"

/-- The first of the fields that is neither null nor the empty string. -/
def objectField (value : Json.Value) (fields : List String) : Option Json.Value := do
  let object ← value.asObject
  (fields.filterMap (List.lookup · object)).find? fun field => !field.isNull && field.asStr != some ""

/-- Rich objects are a read representation; edits take primitives only. -/
def simpleCellValue (formatType : String) (value : Json.Value) : Except String Json.Value :=
  if value.isNull then .error "Superhuman Docs cell arrays cannot contain NULL"
  else
    let simple :=
      match formatType.toLower with
      | "currency" => objectField value ["amount"]
      | "image" => objectField value ["url"]
      | "person" => objectField value ["email", "name"]
      | "link" | "hyperlink" => objectField value ["url"]
      | "lookup" => objectField value ["rowId", "name"]
      | _ => some value
    match simple with
    | none => .error s!"{formatType} value is missing its writable field"
    | some simple =>
      if simple.asObject.isSome || simple.asArray.isSome || simple.isNull then
        .error s!"{formatType} values cannot be serialized to a Superhuman Docs cell primitive"
      else .ok simple

/-- The finite number a literal is read as. -/
def asF64 (n : Number) : Option F := (F64.parse n.text).filter F64.isFinite

def scalarValue (value : Json.Value) : Except String (Operations.ScalarValue F) :=
  match value with
  | .bool b => .ok (.boolean b)
  | .number n =>
    match asF64 n with
    | some x => .ok (.number x)
    | none => .error s!"number cannot be represented by the Superhuman Docs SDK: {n.text}"
  | .string s => .ok (.text s)
  | value => .error ("Superhuman Docs cell values must be strings, numbers, or booleans, received " ++
      value.print)

def cellValue (column : Column) (value : RustExtInputValue F) :
    Except String (Operations.Value F) := do
  let value ← inputValueJson value
  if column.isArray then
    match value.asArray with
    | none => .error s!"{column.name} expects an array value, received {value.print}"
    | some values => return .flatList (← values.mapM fun value => do
        scalarValue (← simpleCellValue column.formatType value))
  else return .scalar (← scalarValue (← simpleCellValue column.formatType value))

/-! ## Rows -/

/-- The edit of one cell, `none` when the cell is left out. -/
def writeCell (omitNulls : Bool) (column : RustExtWriteColumn) (value : RustExtInputValue F) :
    Except String (Option (Operations.CellEdit F)) :=
  if !supports column.capabilities rustExtColumnEditable then .ok none
  else if value.valueType = rustExtInputNull then
    if omitNulls then .ok none
    else .error "Superhuman Docs does not support updating a cell to NULL"
  else do
    let column ← columnFromHandle column.handle
    return some { column := column.id, value := ← cellValue column value }

def writeCells (columns : List RustExtWriteColumn) (values : List (RustExtInputValue F))
    (omitNulls : Bool) : Except String (Operations.RowEdit F) := do
  let cells ← (columns.zip values).mapM fun cell => writeCell omitNulls cell.1 cell.2
  return { cells := cells.reduceOption }

/-- The values of one row. -/
def rowValues (values : List (RustExtInputValue F)) (rowIndex width : Nat) :
    List (RustExtInputValue F) :=
  (values.drop (rowIndex * width)).take width

def insertPayload (columns : List RustExtWriteColumn) (values : List (RustExtInputValue F))
    (rowCount valueColumnCount tableCapabilities : Nat) :
    Except String (Operations.RowsUpsert F) := do
  if !supports tableCapabilities rustExtTableInsert then
    throw "insert is unsupported for this table"
  if valueColumnCount < columns.length ∨ values.length < rowCount * valueColumnCount then
    throw "invalid insert value shape"
  let rows ← (List.range rowCount).mapM fun rowIndex =>
    writeCells columns (rowValues values rowIndex valueColumnCount) true
  return { rows, keyColumns := none }

def updatePayload (columns : List RustExtWriteColumn) (values : List (RustExtInputValue F))
    (tableCapabilities : Nat) : Except String (Operations.RowUpdate F) := do
  if !supports tableCapabilities rustExtTableUpdate then
    throw "update is unsupported for this table"
  if columns.length ≠ values.length then throw "invalid update value shape"
  return { row := ← writeCells columns values false }

/-! ## The rows of a payload -/

/-- Every column and value has its cell, unless it is left out. -/
theorem writeCells_cells {columns : List RustExtWriteColumn} {values : List (RustExtInputValue F)}
    {omitNulls : Bool} {row : Operations.RowEdit F}
    (h : writeCells columns values omitNulls = .ok row) :
    ∀ pair ∈ columns.zip values, ∃ cell, writeCell omitNulls pair.1 pair.2 = .ok cell ∧
      ∀ edit, cell = some edit → edit ∈ row.cells := by
  obtain ⟨cells, hcells, h⟩ := bind_eq_ok.1 h
  cases h
  intro pair hpair
  have hall := mapM_eq_ok.1 hcells
  obtain ⟨n, hn, rfl⟩ := List.getElem_of_mem hpair
  refine ⟨_, hall.get hn (hall.length_eq ▸ hn), ?_⟩
  intro edit hedit
  exact List.reduceOption_mem_iff.2 (hedit ▸ List.get_mem cells _)

/-- **The rows of an insert**, from the values of each. -/
theorem insertPayload_forall₂ {columns : List RustExtWriteColumn}
    {values : List (RustExtInputValue F)} {rowCount valueColumnCount tableCapabilities : Nat}
    {payload : Operations.RowsUpsert F}
    (h : insertPayload columns values rowCount valueColumnCount tableCapabilities = .ok payload) :
    List.Forall₂ (fun rowIndex row =>
        writeCells columns (rowValues values rowIndex valueColumnCount) true = .ok row)
      (List.range rowCount) payload.rows := by
  dsimp only [insertPayload] at h
  split at h
  · obtain ⟨_, hthrow, -⟩ := bind_eq_ok.1 h
    cases hthrow
  split at h
  · obtain ⟨_, hthrow, -⟩ := bind_eq_ok.1 h
    cases hthrow
  obtain ⟨rows, hrows, h⟩ := bind_eq_ok.1 h
  cases h
  exact mapM_eq_ok.1 hrows

theorem insertPayload_rows {columns : List RustExtWriteColumn}
    {values : List (RustExtInputValue F)} {rowCount valueColumnCount tableCapabilities : Nat}
    {payload : Operations.RowsUpsert F}
    (h : insertPayload columns values rowCount valueColumnCount tableCapabilities = .ok payload) :
    ∀ rowIndex < rowCount, ∃ row, payload.rows[rowIndex]? = some row ∧
      writeCells columns (rowValues values rowIndex valueColumnCount) true = .ok row := by
  intro rowIndex hlt
  have hall := insertPayload_forall₂ h
  have hrange : rowIndex < (List.range rowCount).length := by rwa [List.length_range]
  have hrow : rowIndex < payload.rows.length := hall.length_eq ▸ hrange
  have hwrite := hall.get hrange hrow
  rw [List.get_eq_getElem, List.get_eq_getElem, List.getElem_range] at hwrite
  exact ⟨_, List.getElem?_eq_getElem hrow, hwrite⟩

/-- **The row of an update.** -/
theorem updatePayload_row {columns : List RustExtWriteColumn}
    {values : List (RustExtInputValue F)} {tableCapabilities : Nat}
    {payload : Operations.RowUpdate F}
    (h : updatePayload columns values tableCapabilities = .ok payload) :
    writeCells columns values false = .ok payload.row := by
  dsimp only [updatePayload] at h
  split at h
  · obtain ⟨_, hthrow, -⟩ := bind_eq_ok.1 h
    cases hthrow
  split at h
  · obtain ⟨_, hthrow, -⟩ := bind_eq_ok.1 h
    cases hthrow
  obtain ⟨row, hrow, h⟩ := bind_eq_ok.1 h
  cases h
  exact hrow

/-! ## Queries -/

/-- What the value of a filter is shown as. -/
def queryDescription (value : RustExtInputValue F) : String :=
  match value.valueType with
  | 1 => if value.boolValue then "true" else "false"
  | 2 => (Number.ofInt value.intValue).text
  | 3 => (Number.ofInt value.uintValue).text
  | 4 => F64.display value.doubleValue
  | 5 => value.stringValue
  | _ => "NULL"

/-- The query and its description. -/
def buildEqualityQuery (columnId columnName : String) (value : RustExtInputValue F) :
    Except String (String × String) := do
  if value.valueType = rustExtInputNull then throw "null query value"
  let literal ← inputValueJson value
  return (s!"{columnId}:{literal.print}", s!"{columnName} = {queryDescription value}")

end

end SuperhumanDocs
