import SuperhumanDocs.Bridge.Scan
import SuperhumanDocs.Naming.KeyMap

/-!
# The schema of an attached document

The schema holds one entry for each name of a table up to ASCII case. An entry refers to its table
by the index of the table in the catalog.
-/

set_option autoImplicit false

namespace SuperhumanDocs

open Binary (F64)
open Json (SerdeJson)
open Naming (KeyMap)

/-- The entry of a table; `tableIndex` stands for the pointer to the table in the catalog. -/
structure RustBridgeTableCatalogEntry where
  tableIndex : Nat
  table : RustBridgeTableInfo

structure RustBridgeSchemaCatalogEntry where
  entries : KeyMap String.toLower RustBridgeTableCatalogEntry

section
variable (F : Type) [F64 F] [SerdeJson] [DuckDb F]

/-- The entry of a table, under the name of the table. -/
def rustBridgeTableEntry (tableIndex : Nat) (rawTable : RustExtCatalogTable) :
    String × RustBridgeTableCatalogEntry :=
  (rawTable.name, { tableIndex, table := borrowRustBridgeTableInfo F rawTable })

@[simp] theorem rustBridgeTableEntry_name (tableIndex : Nat) (rawTable : RustExtCatalogTable) :
    (rustBridgeTableEntry F tableIndex rawTable).1 = rawTable.name := rfl

/-- `entries[name] = entry` for each table of the catalog. -/
def RustBridgeSchemaCatalogEntry.new (catalogInfo : List RustExtCatalogTable) :
    RustBridgeSchemaCatalogEntry where
  entries := KeyMap.ofList (catalogInfo.mapIdx (rustBridgeTableEntry F))

end

def RustBridgeSchemaCatalogEntry.lookupEntry (schema : RustBridgeSchemaCatalogEntry)
    (entryName : String) : Option RustBridgeTableCatalogEntry :=
  schema.entries.find entryName

/-- A scan visits each entry once; in which order is up to the hash table. -/
def RustBridgeSchemaCatalogEntry.Scans (schema : RustBridgeSchemaCatalogEntry)
    (visited : List RustBridgeTableCatalogEntry) : Prop :=
  visited.Perm (schema.entries.entries.map (·.2))

end SuperhumanDocs
