import SuperhumanDocs.Mutation.Status

/-!
# Inserting, updating and deleting rows

An insert is one request for all rows and so is a delete; an update sends one request a row and
waits for each mutation before it goes on to the next row.
-/

set_option autoImplicit false

namespace SuperhumanDocs

open Binary (F64)
open Effect (Traced)
open Json (SerdeJson)

variable {F σ : Type} [F64 F] [SerdeJson] (w : World F σ)

/-- Send a mutation and wait for it. -/
def mutate (config : ClientConfig) (operation : Operation F) : Traced String σ (Call F) Unit := do
  let response ← w.execute operation
  waitForMutation w config response

def upsertRowsOperation (config : ClientConfig) (table : Table)
    (payload : Operations.RowsUpsert F) : Operation F :=
  .upsertRows {
    docId := config.resource
    tableIdOrName := table.id
    disableParsing := some false
    payload }

def updateRowOperation (config : ClientConfig) (table : Table) (rowId : String)
    (payload : Operations.RowUpdate F) : Operation F :=
  .updateRow {
    docId := config.resource
    tableIdOrName := table.id
    rowIdOrName := rowId
    disableParsing := some false
    payload }

def deleteRowsOperation (config : ClientConfig) (table : Table) (rowIds : List String) :
    Operation F :=
  .deleteRows {
    docId := config.resource
    tableIdOrName := table.id
    payload := { rowIds } }

def insertRows (config : ClientConfig) (table : Table) (columns : List RustExtWriteColumn)
    (values : List (RustExtInputValue F)) (rowCount valueColumnCount : Nat) :
    Traced String σ (Call F) Nat := do
  Effect.ofExcept (w.newClient config)
  let payload ← Effect.ofExcept
    (insertPayload columns values rowCount valueColumnCount table.capabilities)
  mutate w config (upsertRowsOperation config table payload)
  return rowCount

/-- The payload of the row at an index. -/
def rowPayload (table : Table) (columns : List RustExtWriteColumn)
    (values : List (RustExtInputValue F)) (rowIndex : Nat) :
    Except String (Operations.RowUpdate F) :=
  updatePayload columns (rowValues values rowIndex columns.length) table.capabilities

/-- One turn of the loop: the payload of a row is built, sent and waited for. -/
def updateRow (config : ClientConfig) (table : Table) (columns : List RustExtWriteColumn)
    (values : List (RustExtInputValue F)) (row : String × Nat) :
    Traced String σ (Call F) Unit := do
  let payload ← Effect.ofExcept (rowPayload table columns values row.2)
  mutate w config (updateRowOperation config table row.1 payload)

def updateRows (config : ClientConfig) (table : Table) (rowIds : List String)
    (columns : List RustExtWriteColumn) (values : List (RustExtInputValue F)) :
    Traced String σ (Call F) Nat := do
  if columns.isEmpty && !rowIds.isEmpty then throw "update column count mismatch"
  if values.length ≠ rowIds.length * columns.length then throw "update value count mismatch"
  Effect.ofExcept (w.newClient config)
  forM rowIds.zipIdx (updateRow w config table columns values)
  return rowIds.length

def deleteRows (config : ClientConfig) (table : Table) (rowIds : List String) :
    Traced String σ (Call F) Nat := do
  if rowIds.isEmpty then return 0
  Effect.ofExcept (w.newClient config)
  mutate w config (deleteRowsOperation config table rowIds)
  return rowIds.length

/-! ## Calls -/

/-- A call of one of the three functions. -/
inductive Dml (F : Type) where
  | insert (columns : List RustExtWriteColumn) (values : List (RustExtInputValue F))
      (rowCount valueColumnCount : Nat)
  | update (rowIds : List String) (columns : List RustExtWriteColumn)
      (values : List (RustExtInputValue F))
  | delete (rowIds : List String)

/-- Make the call. -/
def Dml.run (config : ClientConfig) (table : Table) : Dml F → Traced String σ (Call F) Nat
  | insert columns values rowCount valueColumnCount =>
    insertRows w config table columns values rowCount valueColumnCount
  | update rowIds columns values => updateRows w config table rowIds columns values
  | delete rowIds => deleteRows w config table rowIds

/-- What the call comes to. -/
def Dml.outcome (config : ClientConfig) (table : Table) (call : Dml F) (s : σ) :
    Effect.Outcome String σ (Call F) Nat :=
  Effect.runFrom (call.run w config table) s

end SuperhumanDocs
