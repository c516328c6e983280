import SuperhumanDocs.Bridge.Scan
import SuperhumanDocs.Memory.Triple

/-!
# Records as they cross the boundary

Here a handle is an address and a string is a pointer with a length, as in the source. A block of
the heap is what Rust boxed, or what it forgot to let C++ hold it: the bytes of a string, the items
of a slice. The texts that C++ lends to Rust lie in an array of C++.
-/

set_option autoImplicit false

namespace SuperhumanDocs.Raw

open Memory

/-- The texts of a record, or of an array of texts, that are lent out. -/
inductive Field where
  | columnName
  | columnDuckdbType
  | columnDuckdbTypeAlias
  | tableName
  | rowId
  | rowCreatedAt
  | rowUpdatedAt
  | configResource
  | item (index : ℕ)
deriving DecidableEq, Repr

/-- Where the bytes of a string lie: in a block of their own, inside a record, or somewhere that
outlives every use, as a constant of the program or an argument during the call. -/
inductive TextPtr where
  | null
  | owned (address : ℕ)
  | inside (address : ℕ) (field : Field)
  | lent (text : String)
deriving DecidableEq, Repr

structure RustExtString where
  ptr : TextPtr
  len : ℕ
deriving DecidableEq, Repr

def RustExtString.default : RustExtString where
  ptr := .null
  len := 0

structure RustExtColumn where
  handle : Option ℕ
  name : RustExtString
  logicalType : RustExtString
  valueTypeAlias : RustExtString
  capabilities : ℕ
deriving DecidableEq, Repr

structure RustExtCatalogTable where
  handle : Option ℕ
  name : RustExtString
  capabilities : ℕ
  columns : Option ℕ
  columnCount : ℕ
deriving DecidableEq, Repr

structure RustExtCatalog where
  tables : Option ℕ
  tableCount : ℕ
deriving DecidableEq, Repr

structure RustExtScanRow where
  handle : Option ℕ
  rowId : RustExtString
deriving DecidableEq, Repr

structure RustExtScanBatch where
  rows : Option ℕ
  rowCount : ℕ
  finished : Bool
deriving DecidableEq, Repr

structure RustExtArrayValue where
  isNull : Bool
  value : RustExtString
deriving DecidableEq, Repr

structure RustExtScanValue where
  isNull : Bool
  valueOwned : Bool
  value : RustExtString
  arrayValues : Option ℕ
  arrayCount : ℕ
deriving DecidableEq, Repr

structure RustExtAttachConfig where
  handle : Option ℕ
  databaseName : RustExtString
deriving DecidableEq, Repr

/-- A block of the heap. -/
inductive Block where
  | bytes (text : String)
  | config (config : ClientConfig)
  | table (table : Table)
  | column (column : Column)
  | row (row : Row)
  | scan (handle : ScanHandle)
  | tables (items : List RustExtCatalogTable)
  | columns (items : List RustExtColumn)
  | rows (items : List RustExtScanRow)
  | arrayValues (items : List RustExtArrayValue)
  | texts (items : List String)

/-- The text of a field of a record. -/
def Block.text : Block → Field → Option String
  | .column record, .columnName => some record.name
  | .column record, .columnDuckdbType => some record.duckdbType
  | .column record, .columnDuckdbTypeAlias => some record.duckdbTypeAlias
  | .table record, .tableName => some record.name
  | .row record, .rowId => some record.id
  | .row record, .rowCreatedAt => some record.createdAt
  | .row record, .rowUpdatedAt => some record.updatedAt
  | .config record, .configResource => some record.resource
  | .texts items, .item index => items[index]?
  | _, _ => none

instance : Storable Block String where
  store := .bytes
  view | .bytes text => some text | _ => none
  view_store _ := rfl

instance : Storable Block ClientConfig where
  store := .config
  view | .config config => some config | _ => none
  view_store _ := rfl

instance : Storable Block Table where
  store := .table
  view | .table table => some table | _ => none
  view_store _ := rfl

instance : Storable Block Column where
  store := .column
  view | .column column => some column | _ => none
  view_store _ := rfl

instance : Storable Block Row where
  store := .row
  view | .row row => some row | _ => none
  view_store _ := rfl

instance : Storable Block ScanHandle where
  store := .scan
  view | .scan handle => some handle | _ => none
  view_store _ := rfl

instance : Storable Block (List RustExtCatalogTable) where
  store := .tables
  view | .tables items => some items | _ => none
  view_store _ := rfl

instance : Storable Block (List RustExtColumn) where
  store := .columns
  view | .columns items => some items | _ => none
  view_store _ := rfl

instance : Storable Block (List RustExtScanRow) where
  store := .rows
  view | .rows items => some items | _ => none
  view_store _ := rfl

instance : Storable Block (List RustExtArrayValue) where
  store := .arrayValues
  view | .arrayValues items => some items | _ => none
  view_store _ := rfl

instance : Storable Block (List String) where
  store := .texts
  view | .texts items => some items | _ => none
  view_store _ := rfl

end SuperhumanDocs.Raw
