import SuperhumanDocs.Binary.Binary64
import SuperhumanDocs.Json.Value

/-!
# Records

The records of the extension: what crosses the boundary between Rust and DuckDB (`RustExt*`) and
the Rust model of configurations, tables, columns and rows. A handle is an `Option`: `none` is the
null pointer.
-/

namespace SuperhumanDocs

/-! ## Capabilities and value types -/

def rustExtInputNull : Nat := 0
def rustExtInputBool : Nat := 1
def rustExtInputInt : Nat := 2
def rustExtInputUint : Nat := 3
def rustExtInputDouble : Nat := 4
def rustExtInputString : Nat := 5
def rustExtInputJson : Nat := 6

def rustExtColumnGenerated : Nat := 1 <<< 0
def rustExtColumnSystem : Nat := 1 <<< 1
def rustExtColumnEditable : Nat := 1 <<< 2
def rustExtColumnFilterEquality : Nat := 1 <<< 3
def rustExtColumnSortAsc : Nat := 1 <<< 4

def rustExtTableView : Nat := 1 <<< 0
def rustExtTableInsert : Nat := 1 <<< 1
def rustExtTableUpdate : Nat := 1 <<< 2
def rustExtTableDelete : Nat := 1 <<< 3
def rustExtTableRowId : Nat := 1 <<< 4

/-- The capability bit is set. -/
def supports (capabilities capability : Nat) : Bool := capabilities &&& capability != 0

/-! ## The Rust model -/

structure ClientConfig where
  resource : String
  credential : String
  endpoint : String
  includeSystemColumns : Bool
  waitForMutations : Bool
  mutationTimeoutSeconds : Nat
  allowMutationWarnings : Bool

structure Table where
  id : String
  name : String
  capabilities : Nat
deriving DecidableEq, Repr

structure Column where
  id : String
  name : String
  formatType : String
  duckdbType : String
  duckdbTypeAlias : String
  isArray : Bool
  capabilities : Nat
deriving DecidableEq, Repr

structure Cell where
  columnId : String
  value : Json.Value
deriving DecidableEq

structure Row where
  id : String
  createdAt : String
  updatedAt : String
  deleted : Bool
  cells : List Cell
deriving DecidableEq

/-- One page of a listing. -/
structure Page (α : Type) where
  items : List α
  nextPageToken : String

structure RowsResponse where
  rows : List Row
  nextPageToken : String
  nextSyncToken : String
deriving DecidableEq

structure RowsRequest where
  pageToken : String
  query : String
  sortBy : String
  syncToken : String
  limit : Nat
deriving DecidableEq, Repr

/-- The error of dereferencing a null handle. -/
def refFromRaw {α : Type} (ptr : Option α) (name : String) : Except String α :=
  match ptr with
  | none => .error s!"missing {name} pointer"
  | some a => .ok a

def columnFromHandle (handle : Option Column) : Except String Column := refFromRaw handle "column"

/-! ## Records of the boundary -/

/-- A value DuckDB passes in; which field counts is told by `valueType`. -/
structure RustExtInputValue (F : Type) where
  valueType : Nat
  boolValue : Bool
  intValue : Int
  uintValue : Nat
  doubleValue : F
  stringValue : String

/-- All fields zero: the NULL value. -/
def RustExtInputValue.zero {F : Type} [Binary.F64 F] : RustExtInputValue F where
  valueType := 0
  boolValue := false
  intValue := 0
  uintValue := 0
  doubleValue := Binary.F64.ofDecimal ⟨false, 0, 0⟩
  stringValue := ""

structure RustExtWriteColumn where
  handle : Option Column
  capabilities : Nat

structure RustExtScanRequest where
  filter : String
  order : String
  limit : Nat

structure RustExtArrayValue where
  isNull : Bool
  value : String
deriving DecidableEq, Repr

structure RustExtScanValue where
  isNull : Bool
  valueOwned : Bool
  value : String
  arrayValues : List RustExtArrayValue
deriving DecidableEq, Repr

/-- The default scan value is NULL. -/
def RustExtScanValue.default : RustExtScanValue where
  isNull := true
  valueOwned := false
  value := ""
  arrayValues := []

structure RustExtScanRow where
  handle : Option Row
  rowId : String

structure RustExtScanBatch where
  rows : List RustExtScanRow
  finished : Bool

structure RustExtColumn where
  handle : Option Column
  name : String
  logicalType : String
  valueTypeAlias : String
  capabilities : Nat

structure RustExtCatalogTable where
  handle : Option Table
  name : String
  capabilities : Nat
  columns : List RustExtColumn

end SuperhumanDocs
