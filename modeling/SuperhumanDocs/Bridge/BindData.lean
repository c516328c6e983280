import SuperhumanDocs.Bridge.Planning
import SuperhumanDocs.Bridge.Schema

/-!
# Bind data

The planner gets the bind data of a scan from a table entry, changes it through the callbacks of
the scan, and copies and compares it. Table entries and the tables of the catalog are compared by
address.
-/

set_option autoImplicit false

namespace SuperhumanDocs

open Binary (F64)
open Json (SerdeJson)

/-- A table entry with the config of its catalog, and the address of its table. -/
structure AttachedTableEntry extends RustBridgeTableCatalogEntry where
  config : ClientConfig
  handle : Nat

/-- Bind data with the addresses it refers to. -/
structure BoundScan where
  tableEntry : Nat
  handle : Nat
  data : RustBridgeScanBindData

namespace BoundScan

/-- The bind data of the entry at an address. -/
def getScanFunction (entries : Nat → AttachedTableEntry) (address : Nat) : BoundScan where
  tableEntry := address
  handle := (entries address).handle
  data := .new (entries address).table

def copy (scan : BoundScan) : BoundScan where
  tableEntry := scan.tableEntry
  handle := scan.handle
  data :=
    { RustBridgeScanBindData.new scan.data.table with
      pushedQuery := scan.data.pushedQuery
      pushedQueryDescription := scan.data.pushedQueryDescription
      pushedSortBy := scan.data.pushedSortBy
      pushedLimit := scan.data.pushedLimit }

def equals (scan other : BoundScan) : Bool :=
  scan.tableEntry == other.tableEntry && scan.handle == other.handle

/-- What is asked of the server. -/
def request (scan : BoundScan) : RustExtScanRequest where
  filter := scan.data.pushedQuery
  order := scan.data.pushedSortBy
  limit := scan.data.pushedLimit

/-- Open the scan for the projected columns. -/
def opened (entries : Nat → AttachedTableEntry)
    (newClient : ClientConfig → Except String Unit) (scan : BoundScan) (projectionIds : List Nat)
    (columnIndexes : List ColumnIndex) (outputTypes : List LogicalType) :
    Except String RustBridgeScanGlobalState := do
  let table ← refFromRaw scan.data.table.table.handle "table"
  RustBridgeScanGlobalState.new newClient (entries scan.tableEntry).config table scan.data
    projectionIds columnIndexes outputTypes

end BoundScan

/-! ## Callbacks -/

/-- What the planner does with the bind data of a scan. -/
inductive Callback (F : Type) where
  | filters (get : LogicalGet) (filters : List (Expression F))
  | order (orderOptions : Option RowGroupOrderOptions)
  | copy

section
variable {F : Type} [F64 F] [SerdeJson] [DuckDb F]

namespace BoundScan

/-- The bind data after a callback, also after one that throws. -/
def step (scan : BoundScan) : Callback F → BoundScan
  | .filters get filters =>
    { scan with data := (rustBridgeScanPushdownComplexFilter get scan.data filters).2.1 }
  | .order orderOptions => { scan with data := rustBridgeScanSetScanOrder orderOptions scan.data }
  | .copy => scan.copy

/-- The bind data of the entry at an address after callbacks. -/
def planned (entries : Nat → AttachedTableEntry) (address : Nat)
    (callbacks : List (Callback F)) : BoundScan :=
  callbacks.foldl step (getScanFunction entries address)

end BoundScan

end

end SuperhumanDocs
