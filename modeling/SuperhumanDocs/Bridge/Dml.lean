import SuperhumanDocs.Bridge.Scan
import SuperhumanDocs.Mutation.Rows

/-!
# The calls behind INSERT, UPDATE and DELETE

A sink hands a chunk of rows to the client: the values are converted one by one, and then one of
the functions of `Mutation.Rows` runs. Conversions that throw do so before anything is sent.
-/

set_option autoImplicit false

namespace SuperhumanDocs

open Binary (F64)
open Effect (Traced)
open Json (SerdeJson)

/-! ## Chunks -/

/-- A chunk of rows, all of the same width. -/
structure DataChunk (F : Type) where
  columnCount : Nat
  rows : List (List (DuckValue F))
  rows_length : ∀ row ∈ rows, row.length = columnCount

/-- The value of a row at a column. -/
def chunkValue {F : Type} (row : List (DuckValue F)) (index : Nat) :
    Except String (DuckValue F) :=
  match row[index]? with
  | some value => .ok value
  | none => .error s!"Attempted to access index {index} within vector of size {row.length}"

/-- An expression of a SET clause. -/
inductive UpdateExpression where
  | boundRef (index : Nat)
  | valueDefault
  | other
deriving DecidableEq, Repr

/-- A column of the table with the expression it is set to. -/
structure Assignment where
  column : Nat
  expression : UpdateExpression
deriving DecidableEq, Repr

section
variable {F σ : Type} [F64 F] [SerdeJson] [DuckDb F] (w : World F σ) (config : ClientConfig)

/-! ## The client -/

def editableColumns (table : RustBridgeTableInfo) : List RustExtWriteColumn :=
  table.columns.map fun column =>
    { handle := column.column.handle, capabilities := column.column.capabilities }

/-- The column of an assignment; one that the table does not have cannot be written. -/
def updateColumn (table : RustBridgeTableInfo) (assignment : Assignment) : RustExtWriteColumn :=
  match table.columns[assignment.column]? with
  | none => { handle := none, capabilities := rustExtColumnGenerated }
  | some column => { handle := column.column.handle, capabilities := column.column.capabilities }

/-- The value an assignment has in a row. -/
def updateValue (table : RustBridgeTableInfo) (row : List (DuckValue F))
    (assignment : Assignment) : Except String (RustExtInputValue F) :=
  match table.columns[assignment.column]? with
  | none => .ok { RustExtInputValue.zero with valueType := rustExtInputNull }
  | some column =>
    match assignment.expression with
    | .boundRef index => do convert (← chunkValue row index)
    | .valueDefault => convert (.null column.duckdbType)
    | .other => .error "Unsupported Superhuman Docs UPDATE expression type"

/-- The row id in a row of the chunk. -/
def chunkRowId (rowIdIndex : Nat) (row : List (DuckValue F)) : Except String String := do
  return DuckDb.toString (← chunkValue row rowIdIndex)

def insertCall (table : RustBridgeTableInfo) (chunk : DataChunk F) : Except String (Dml F) := do
  let values ← chunk.rows.mapM fun row =>
    (List.range table.columns.length).mapM fun index => do convert (← chunkValue row index)
  return .insert (editableColumns table) values.flatten chunk.rows.length table.columns.length

def updateCall (table : RustBridgeTableInfo) (assignments : List Assignment)
    (chunk : DataChunk F) : Except String (Dml F) := do
  let rows ← chunk.rows.mapM fun row => do
    let rowId ← chunkRowId (chunk.columnCount - 1) row
    let values ← assignments.mapM (updateValue table row)
    return (rowId, values)
  return .update (rows.map (·.1)) (assignments.map (updateColumn table)) (rows.flatMap (·.2))

def deleteCall (rowIdIndex : Nat) (chunk : DataChunk F) : Except String (Dml F) := do
  return .delete (← chunk.rows.mapM (chunkRowId rowIdIndex))

/-- The context that the errors of a call are given under. -/
def Dml.context : Dml F → String
  | .insert .. => "failed to insert Superhuman Docs rows"
  | .update .. => "failed to update Superhuman Docs rows"
  | .delete _ => "failed to delete Superhuman Docs rows"

/-- Run a call for a table, once it is prepared; what fails before is no error of the call. -/
def clientCall (table : RustBridgeTableInfo) (call : Except String (Dml F)) :
    Traced String σ (Call F) Nat := do
  let call ← Effect.ofExcept call
  EStateM.adaptExcept (fun e => s!"{call.context}: {e}") do
    let table ← Effect.ofExcept (refFromRaw table.table.handle "table")
    Effect.ofExcept w.runtime
    call.run w config table

/-! ## Sinks -/

/-- The physical operators that write. -/
inductive Sink where
  | insert (table : RustBridgeTableInfo)
  | update (table : RustBridgeTableInfo) (assignments : List Assignment)
  | delete (table : RustBridgeTableInfo) (rowIdIndex : Nat)

namespace Sink

def table : Sink → RustBridgeTableInfo
  | insert table => table
  | update table _ => table
  | delete table _ => table

/-- The capability of the table a sink needs. -/
def capability : Sink → Nat
  | insert _ => rustExtTableInsert
  | update _ _ => rustExtTableUpdate
  | delete _ _ => rustExtTableDelete

def notSupportedMessage : Sink → String
  | insert _ => "Superhuman Docs INSERT is not supported for this table"
  | update _ _ => "Superhuman Docs UPDATE is not supported for this table"
  | delete _ _ => "Superhuman Docs DELETE is not supported for this table"

/-- The call for a chunk. -/
def call (sink : Sink) (chunk : DataChunk F) : Except String (Dml F) :=
  match sink with
  | insert table => insertCall table chunk
  | update table assignments => updateCall table assignments chunk
  | delete _ rowIdIndex => deleteCall rowIdIndex chunk

end Sink

end

end SuperhumanDocs
