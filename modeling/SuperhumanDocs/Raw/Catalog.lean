import SuperhumanDocs.Bridge.Schema
import SuperhumanDocs.Client.Catalog
import SuperhumanDocs.Raw.Runtime

/-!
# The catalog in memory

`rustBridgeListTables` boxes every table and column of a document and gives C++ a slice of tables,
each with a slice of columns; the names and types in them are lent from the boxes. The schema keeps
pointers into these slices, until `freeCatalog` takes them back.
-/

set_option autoImplicit false

namespace SuperhumanDocs.Raw

open Binary (F64)
open Json (SerdeJson)
open Memory
open Naming (KeyMap)

/-! ## Load and free -/

/-- The record of a boxed column. -/
def columnRecord (handle : ℕ) (column : Column) : RustExtColumn where
  handle := some handle
  name := borrowString handle .columnName column.name
  logicalType := borrowString handle .columnDuckdbType column.duckdbType
  valueTypeAlias := borrowString handle .columnDuckdbTypeAlias column.duckdbTypeAlias
  capabilities := column.capabilities

/-- The record of a boxed table with a slice of columns. -/
def tableRecord (handle : ℕ) (table : Table) (columns : Option ℕ × ℕ) : RustExtCatalogTable where
  handle := some handle
  name := borrowString handle .tableName table.name
  capabilities := table.capabilities
  columns := columns.1
  columnCount := columns.2

section
variable [Allocator Block]

def ffiColumn (column : Column) : Program Block RustExtColumn := do
  let handle ← box Block column
  return columnRecord handle column

def ffiCatalogTable (table : Table) (columns : List Column) :
    Program Block RustExtCatalogTable := do
  let handle ← box Block table
  let columns ← vecIntoRawParts (← columns.mapM ffiColumn)
  return tableRecord handle table columns

/-- The tables of a document with their columns, as `loadCatalog` lists them. -/
def listTables [SerdeJson] (newClient : ClientConfig → Except String Unit) (config : ClientConfig)
    (replies : List Reply) : CatalogCall (List (Table × List Column)) :=
  match newClient config with
  | .error e => { result := .error (.failed e), sent := [], replies }
  | .ok _ => tablePages config.resource config.includeSystemColumns [] "" replies

def ffiCatalog (tables : List (Table × List Column)) : Program Block RustExtCatalog := do
  let (tables, tableCount) ←
    vecIntoRawParts (← tables.mapM fun (table, columns) => ffiCatalogTable table columns)
  return { tables, tableCount }

/-- `ListTables` in C++, down to the call it makes; the replies it leaves come with it. -/
def rustBridgeListTables [SerdeJson] (newClient : ClientConfig → Except String Unit)
    (config : Option ℕ) (replies : List Reply) :
    Program Block (Except (Option Exception) RustExtCatalog × List Reply) := do
  let context := "failed to load Superhuman Docs catalog"
  match ← refFromRaw ClientConfig config "client config" with
  | .error e => do
    return (← ffiBool context (.error (.failed e)) >>= orThrow .invalidInput, replies)
  | .ok config => do
    let listed := listTables newClient config replies
    match listed.result with
    | .error stop => do
      return (← ffiBool context (.error stop) >>= orThrow .invalidInput, listed.replies)
    | .ok tables => do
      let catalog ← ffiCatalog tables
      return (← ffiBool context (.ok catalog) >>= orThrow .invalidInput, listed.replies)

end

def freeTable (table : RustExtCatalogTable) : Program Block Unit := do
  let columns ← vecFromRawParts RustExtColumn table.columns table.columnCount
  columns.forM fun column => dropHandle Column column.handle
  dropHandle Table table.handle

def freeCatalog (catalog : RustExtCatalog) : Program Block Unit := do
  let tables ← vecFromRawParts RustExtCatalogTable catalog.tables catalog.tableCount
  tables.forM freeTable

/-! ## The schema -/

structure RustBridgeColumnInfo where
  column : ItemPtr
  duckdbType : LogicalType

structure RustBridgeTableInfo where
  table : ItemPtr
  columns : List RustBridgeColumnInfo

/-- The entry of a table: its definition, and what its scans need. -/
structure RustBridgeTableCatalogEntry where
  name : String
  columns : List (String × LogicalType)
  table : RustBridgeTableInfo

structure RustBridgeSchemaCatalogEntry where
  entries : KeyMap String.toLower RustBridgeTableCatalogEntry

section
variable (F : Type) [F64 F] [SerdeJson] [DuckDb F]

def borrowRustBridgeColumnInfo (column : ItemPtr) : Program Block RustBridgeColumnInfo := do
  let rawColumn ← column.deref RustExtColumn
  let type := DuckDb.parseType F (← rustBridgeString rawColumn.logicalType)
  return {
    column
    duckdbType := applyValueTypeAlias type (← rustBridgeString rawColumn.valueTypeAlias) }

/-- A column of a table, which has to be there. -/
def borrowTableColumn (columns : Option ℕ) (index : ℕ) : Program Block RustBridgeColumnInfo :=
  match columns with
  | none => undefinedBehaviour
  | some slice => borrowRustBridgeColumnInfo F ⟨slice, index⟩

def borrowRustBridgeTableInfo (table : ItemPtr) : Program Block RustBridgeTableInfo := do
  let rawTable ← table.deref RustExtCatalogTable
  let columns ← (List.range rawTable.columnCount).mapM (borrowTableColumn F rawTable.columns)
  return { table, columns }

/-- The name and the type of a column of a table. -/
def columnDefinition (column : RustBridgeColumnInfo) : Program Block (String × LogicalType) := do
  let rawColumn ← column.column.deref RustExtColumn
  return (← rustBridgeString rawColumn.name, column.duckdbType)

def rustBridgeTableEntry (table : ItemPtr) :
    Program Block (String × RustBridgeTableCatalogEntry) := do
  let info ← borrowRustBridgeTableInfo F table
  let name ← rustBridgeString (← info.table.deref RustExtCatalogTable).name
  let columns ← info.columns.mapM columnDefinition
  return (name, { name, columns, table := info })

/-- `entries[name] = entry` for each table of the catalog. -/
def RustBridgeSchemaCatalogEntry.new (catalog : RustExtCatalog) :
    Program Block RustBridgeSchemaCatalogEntry := do
  let entries ← (List.range catalog.tableCount).mapM fun index =>
    match catalog.tables with
    | none => undefinedBehaviour
    | some slice => rustBridgeTableEntry F ⟨slice, index⟩
  return { entries := KeyMap.ofList entries }

end

def RustBridgeSchemaCatalogEntry.lookupEntry (schema : RustBridgeSchemaCatalogEntry)
    (entryName : String) : Option RustBridgeTableCatalogEntry :=
  schema.entries.find entryName

end SuperhumanDocs.Raw
