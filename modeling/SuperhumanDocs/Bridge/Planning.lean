import SuperhumanDocs.Bridge.Scan
import SuperhumanDocs.Mutation.Payload

/-!
# What is pushed into a scan

The planner hands the scan the filters above it. The first that is an equality between a column of
the scan and a constant is turned into a row query of the server and taken out of the list; at
most one query is pushed into a scan. It also hands the scan the order and the limit above it, of
which the last that the server can do is kept.
-/

set_option autoImplicit false

namespace SuperhumanDocs

open Binary (F64)
open Json (SerdeJson)

/-! ## Expressions -/

inductive ComparisonType where
  | equal
  | notEqual
  | lessThan
  | greaterThan
  | lessThanOrEqualTo
  | greaterThanOrEqualTo
  | distinctFrom
  | notDistinctFrom
deriving DecidableEq, Repr

/-- A column of a table of the query; the column is a position among those the table reads. -/
structure ColumnBinding where
  tableIndex : Nat
  columnIndex : Nat
deriving DecidableEq, Repr

/-- A bound expression; `other` is any the pushdown does not look into. -/
inductive Expression (F : Type) where
  | columnRef (binding : ColumnBinding)
  | constant (value : DuckValue F)
  | comparison (type : ComparisonType) (left right : Expression F)
  | other (name : String) (children : List (Expression F))

/-- The scan in the plan, with the columns it reads. -/
structure LogicalGet where
  tableIndex : Nat
  columnIds : List ColumnIndex

/-! ## The query of a column -/

def rustExtScanCanFilterEquality (column : Option Column) : Bool :=
  match columnFromHandle column with
  | .ok column => supports column.capabilities rustExtColumnFilterEquality
  | .error _ => false

section
variable {F : Type} [F64 F] [SerdeJson]

def rustExtBuildEqualityQuery (column : Option Column) (value : RustExtInputValue F) :
    Except String (String × String) := do
  let column ← columnFromHandle column
  buildEqualityQuery column.id column.name value

variable [DuckDb F]

/-- The query of a column and a constant, with its description. -/
def equalityFilter (get : LogicalGet) (table : RustBridgeTableInfo) (binding : ColumnBinding)
    (constant : DuckValue F) : Except String (Option (String × String)) :=
  if binding.tableIndex ≠ get.tableIndex then .ok none
  else
    match get.columnIds[binding.columnIndex]? with
    | none => .ok none
    | some columnIndex =>
      if columnIndex.isVirtualColumn then .ok none
      else
        match table.columns[columnIndex.primaryIndex]? with
        | none => .ok none
        | some column =>
          if !rustExtScanCanFilterEquality column.column.handle || constant.isNull then .ok none
          else do
            let value ← convert constant
            match rustExtBuildEqualityQuery column.column.handle value with
            | .error _ => return none
            | .ok query => return some query

/-- The query of an equality, in either order. -/
def tryExtractRustBridgeEqualityFilter (get : LogicalGet) (table : RustBridgeTableInfo) :
    Expression F → Except String (Option (String × String))
  | .comparison .equal (.columnRef binding) (.constant constant) =>
    equalityFilter get table binding constant
  | .comparison .equal (.constant constant) (.columnRef binding) =>
    equalityFilter get table binding constant
  | _ => .ok none

/-! ## The pushdown -/

/-- The loop over the filters: the query of the first that has one, and the filters without it. -/
def extractFirst (get : LogicalGet) (table : RustBridgeTableInfo) :
    List (Expression F) → Except String (Option ((String × String) × List (Expression F)))
  | [] => .ok none
  | expr :: filters => do
    match ← tryExtractRustBridgeEqualityFilter get table expr with
    | some query => return some (query, filters)
    | none =>
      match ← extractFirst get table filters with
      | some (query, rest) => return some (query, expr :: rest)
      | none => return none

/-- The bind data and the filters after the pushdown; a conversion that throws leaves both. -/
def rustBridgeScanPushdownComplexFilter (get : LogicalGet) (bindData : RustBridgeScanBindData)
    (filters : List (Expression F)) :
    Except String Unit × RustBridgeScanBindData × List (Expression F) :=
  if !bindData.pushedQuery.isEmpty then (.ok (), bindData, filters)
  else
    match extractFirst get bindData.table filters with
    | .error e => (.error e, bindData, filters)
    | .ok none => (.ok (), bindData, filters)
    | .ok (some ((query, description), rest)) =>
      (.ok (), { bindData with pushedQuery := query, pushedQueryDescription := description }, rest)

/-- Calls with one bind data, one after the other: the bind data in the end, and each call with
what it left of its filters. -/
def pushdownCalls (bindData : RustBridgeScanBindData) :
    List (LogicalGet × List (Expression F)) →
      RustBridgeScanBindData × List (LogicalGet × List (Expression F))
  | [] => (bindData, [])
  | (get, filters) :: calls =>
    let next := (rustBridgeScanPushdownComplexFilter get bindData filters).2
    let rest := pushdownCalls next.1 calls
    (rest.1, (get, next.2) :: rest.2)

end

/-! ## Order and limit -/

inductive OrderType where
  | orderDefault
  | ascending
  | descending
deriving DecidableEq, Repr

/-- The order of the rows above the scan, and how many of them are read. -/
structure RowGroupOrderOptions where
  columnIdx : ColumnIndex
  orderType : OrderType
  rowLimit : Option Nat

/-- The id of a column the server can sort by. -/
def rustExtScanSortBy (column : Option Column) : Option String :=
  match columnFromHandle column with
  | .error _ => none
  | .ok column => if supports column.capabilities rustExtColumnSortAsc then some column.id else none

/-- The order and the limit that are pushed into the scan. -/
def scanOrder (table : RustBridgeTableInfo) (orderOptions : Option RowGroupOrderOptions) :
    Option (String × Nat) := do
  let orderOptions ← orderOptions
  let rowLimit ← orderOptions.rowLimit
  if orderOptions.orderType = .descending then none
  else
    let column ← table.columns[orderOptions.columnIdx.primaryIndex]?
    let sortBy ← rustExtScanSortBy column.column.handle
    return (sortBy, rowLimit)

def rustBridgeScanSetScanOrder (orderOptions : Option RowGroupOrderOptions)
    (bindData : RustBridgeScanBindData) : RustBridgeScanBindData :=
  match scanOrder bindData.table orderOptions with
  | none => bindData
  | some (sortBy, limit) => { bindData with pushedSortBy := sortBy, pushedLimit := limit }

end SuperhumanDocs
