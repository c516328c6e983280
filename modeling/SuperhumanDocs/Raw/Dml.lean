import SuperhumanDocs.Bridge.Dml
import SuperhumanDocs.Memory.Buffer
import SuperhumanDocs.Raw.Catalog

/-!
# The arguments of a write in memory

C++ keeps the row ids and the texts of the values of a chunk in two arrays, and lends them to Rust
for the call. Both arrays get room for all of them first: a push that moves an array would leave
the strings lent before it dangling.
-/

set_option autoImplicit false

namespace SuperhumanDocs.Raw

open Binary (F64)
open Json (SerdeJson)
open Memory

structure RustExtWriteColumn where
  handle : Option ℕ
  capabilities : ℕ
deriving DecidableEq, Repr

structure RustExtInputValue (F : Type) where
  valueType : ℕ
  boolValue : Bool
  intValue : Int
  uintValue : ℕ
  doubleValue : F
  stringValue : RustExtString

/-! ## C++ -/

section
variable {F : Type}

/-- A value with its text lent. -/
def withText (input : SuperhumanDocs.RustExtInputValue F) (text : RustExtString) :
    RustExtInputValue F where
  valueType := input.valueType
  boolValue := input.boolValue
  intValue := input.intValue
  uintValue := input.uintValue
  doubleValue := input.doubleValue
  stringValue := text

/-- A row of a chunk before it is lent: its id, where the call has one, and its values. -/
structure PendingRow (F : Type) where
  rowId : Option (Except String String)
  values : List (Except String (SuperhumanDocs.RustExtInputValue F))

/-- What was lent, or what C++ throws; the arrays come with it. -/
structure Lending (α : Type) where
  result : Except String α
  rowIds : Buffer
  texts : Buffer

section
variable [Allocator Block]

/-- `push_back`, and a pointer to the text that was pushed. -/
def lendText (buffer : Buffer) (text : String) : Program Block (Buffer × RustExtString) := do
  let (buffer, address, index) ← buffer.push text
  return (buffer, borrowString address (.item index) text)

/-- The value with its text, when its type has one. -/
def lendValue (texts : Buffer) (input : SuperhumanDocs.RustExtInputValue F) :
    Program Block (Buffer × RustExtInputValue F) :=
  if input.valueType = rustExtInputString ∨ input.valueType = rustExtInputJson then do
    let (texts, text) ← lendText texts input.stringValue
    return (texts, withText input text)
  else pure (texts, withText input .default)

def lendValues (rowIds texts : Buffer) :
    List (Except String (SuperhumanDocs.RustExtInputValue F)) →
    Program Block (Lending (List (RustExtInputValue F)))
  | [] => pure { result := .ok [], rowIds, texts }
  | .error e :: _ => pure { result := .error e, rowIds, texts }
  | .ok input :: inputs => do
    let (texts, value) ← lendValue texts input
    let rest ← lendValues rowIds texts inputs
    return { rest with result := rest.result.map (value :: ·) }

def lendRowId (rowIds texts : Buffer) :
    Option (Except String String) → Program Block (Lending (List RustExtString))
  | none => pure { result := .ok [], rowIds, texts }
  | some (.error e) => pure { result := .error e, rowIds, texts }
  | some (.ok rowId) => do
    let (rowIds, rowId) ← lendText rowIds rowId
    return { result := .ok [rowId], rowIds, texts }

/-- The loop over the rows of a chunk. -/
def lendRows (rowIds texts : Buffer) : List (PendingRow F) →
    Program Block (Lending (List RustExtString × List (RustExtInputValue F)))
  | [] => pure { result := .ok ([], []), rowIds, texts }
  | row :: rows => do
    let lentId ← lendRowId rowIds texts row.rowId
    match lentId.result with
    | .error e => return { lentId with result := .error e }
    | .ok rowId => do
      let lent ← lendValues lentId.rowIds lentId.texts row.values
      match lent.result with
      | .error e => return { lent with result := .error e }
      | .ok values => do
        let rest ← lendRows lent.rowIds lent.texts rows
        return { rest with result := rest.result.map fun (ids, inputs) =>
          (rowId ++ ids, values ++ inputs) }

end

def editableColumn (column : RustBridgeColumnInfo) : Program Block RustExtWriteColumn := do
  let rawColumn ← column.column.deref RustExtColumn
  return { handle := rawColumn.handle, capabilities := rawColumn.capabilities }

/-- The column of an assignment; one that the table does not have cannot be written. -/
def updateColumn (table : RustBridgeTableInfo) (assignment : Assignment) :
    Program Block RustExtWriteColumn :=
  match table.columns[assignment.column]? with
  | none => pure { handle := none, capabilities := rustExtColumnGenerated }
  | some column => editableColumn column

section
variable [F64 F] [SerdeJson] [DuckDb F]

/-- The value an assignment has in a row. -/
def updateValue (table : RustBridgeTableInfo) (row : List (DuckValue F))
    (assignment : Assignment) : Except String (SuperhumanDocs.RustExtInputValue F) :=
  match table.columns[assignment.column]? with
  | none => .ok { RustExtInputValue.zero with valueType := rustExtInputNull }
  | some column =>
    match assignment.expression with
    | .boundRef index => do convert (← chunkValue row index)
    | .valueDefault => convert (.null column.duckdbType)
    | .other => .error "Unsupported Superhuman Docs UPDATE expression type"

/-- The physical operators that write. -/
inductive Sink where
  | insert (table : RustBridgeTableInfo)
  | update (table : RustBridgeTableInfo) (assignments : List Assignment)
  | delete (table : RustBridgeTableInfo) (rowIdIndex : ℕ)

def Sink.columns : Sink → Program Block (List RustExtWriteColumn)
  | .insert table => table.columns.mapM editableColumn
  | .update table assignments => assignments.mapM (updateColumn table)
  | .delete _ _ => pure []

/-- The rows of a chunk, as the loop of the operator goes through them. -/
def Sink.rows (sink : Sink) (chunk : DataChunk F) : List (PendingRow F) :=
  chunk.rows.map fun row =>
    match sink with
    | .insert table =>
      { rowId := none
        values := (List.range table.columns.length).map fun index => do
          convert (← chunkValue row index) }
    | .update table assignments =>
      { rowId := some (chunkRowId (chunk.columnCount - 1) row)
        values := assignments.map (updateValue table row) }
    | .delete _ rowIdIndex => { rowId := some (chunkRowId rowIdIndex row), values := [] }

/-- How many row ids and how many values the arrays have room for. -/
def Sink.reserved (sink : Sink) (chunk : DataChunk F) : ℕ × ℕ :=
  match sink with
  | .insert table => (0, chunk.rows.length * table.columns.length)
  | .update _ assignments => (chunk.rows.length, chunk.rows.length * assignments.length)
  | .delete _ _ => (chunk.rows.length, 0)

end

/-! ## Rust -/

def RustExtWriteColumn.read (column : RustExtWriteColumn) :
    Program Block SuperhumanDocs.RustExtWriteColumn := do
  let handle ← refFromRaw Column column.handle "column"
  return { handle := handle.toOption, capabilities := column.capabilities }

def RustExtInputValue.read (input : RustExtInputValue F) :
    Program Block (SuperhumanDocs.RustExtInputValue F) := do
  return {
    valueType := input.valueType
    boolValue := input.boolValue
    intValue := input.intValue
    uintValue := input.uintValue
    doubleValue := input.doubleValue
    stringValue := ← input.stringValue.asStr }

/-- The first `len` items of an array of the caller. -/
def lentSlice {γ : Type} (items : List γ) (len : ℕ) : Program Block (List γ) :=
  if len ≤ items.length then pure (items.take len) else undefinedBehaviour

/-- The call as Rust reads its arguments. -/
def Sink.readCall (sink : Sink) (columns : List RustExtWriteColumn) (rowIds : List RustExtString)
    (values : List (RustExtInputValue F)) (rowCount : ℕ) : Program Block (Dml F) := do
  let columns ← columns.mapM RustExtWriteColumn.read
  match sink with
  | .insert table => do
    let values ← lentSlice values (rowCount * table.columns.length)
    return .insert columns (← values.mapM RustExtInputValue.read) rowCount table.columns.length
  | .update _ _ => do
    let values ← lentSlice values (rowIds.length * columns.length)
    let rowIds ← rowIds.mapM RustExtString.asStr
    return .update rowIds columns (← values.mapM RustExtInputValue.read)
  | .delete _ _ => return .delete (← rowIds.mapM RustExtString.asStr)

/-- The call a sink makes for a chunk, as Rust reads it; C++ frees its arrays after the call, or
when a value throws. -/
def Sink.call [F64 F] [SerdeJson] [DuckDb F] [Allocator Block] (sink : Sink)
    (chunk : DataChunk F) : Program Block (Except String (Dml F)) := do
  let columns ← sink.columns
  let rowIds ← Buffer.empty.reserve String (sink.reserved chunk).1
  let texts ← Buffer.empty.reserve String (sink.reserved chunk).2
  let lent ← lendRows rowIds texts (sink.rows chunk)
  match lent.result with
  | .error e => do
    lent.texts.destroy String
    lent.rowIds.destroy String
    return .error e
  | .ok (rowIds, values) => do
    let call ← sink.readCall columns rowIds values chunk.rows.length
    lent.texts.destroy String
    lent.rowIds.destroy String
    return .ok call

end

end SuperhumanDocs.Raw
