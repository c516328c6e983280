import SuperhumanDocs.Effect.Except
import SuperhumanDocs.Naming.AsciiCase
import SuperhumanDocs.Naming.Sweep
import SuperhumanDocs.Rows
import SuperhumanDocs.ScanValue

/-!
# Table and column listings

The DuckDB type of a column format, the readers of table and column listings, and the names and the
metadata columns a table gets.
-/

namespace SuperhumanDocs

open Json (Value SerdeJson)

/-- The DuckDB type of a scalar of a column format. -/
def scalarType (formatType : String) : String :=
  match formatType.toLower with
  | "checkbox" => "BOOLEAN"
  | "text" | "email" | "select" => "VARCHAR"
  | "number" | "percent" | "slider" | "scale" => "DECIMAL(38,20)"
  | "date" => "DATE"
  | "datetime" => "TIMESTAMPTZ"
  | "time" => "TIME"
  | "duration" => "INTERVAL"
  | "currency" => "STRUCT(currency VARCHAR, amount DECIMAL(38,20))"
  | "image" =>
    "STRUCT(name VARCHAR, url VARCHAR, height DOUBLE, width DOUBLE, status VARCHAR)"
  | "person" => "STRUCT(name VARCHAR, email VARCHAR)"
  | "link" | "hyperlink" => "STRUCT(name VARCHAR, url VARCHAR)"
  | "lookup" =>
    "STRUCT(name VARCHAR, url VARCHAR, tableId VARCHAR, tableUrl VARCHAR, rowId VARCHAR)"
  | _ => "VARCHAR"

def logicalType (formatType : String) (isArray : Bool) : String :=
  if isArray then s!"{scalarType formatType}[]" else scalarType formatType

def logicalTypeAlias (formatType : String) : String :=
  match formatType.toLower with
  | "checkbox" | "text" | "email" | "select" | "number" | "percent" | "slider" | "scale" | "date"
  | "datetime" | "time" | "duration" | "currency" | "image" | "person" | "link" | "hyperlink"
  | "lookup" => ""
  | _ => "JSON"

def tableFromJson (item : Value) : Except String Table := do
  let tableType := ((item.get "tableType").bind Value.asStr).getD "table"
  let isView := tableType.toLower != "table"
  let capabilities :=
    if isView then rustExtTableView ||| rustExtTableRowId
    else rustExtTableInsert ||| rustExtTableUpdate ||| rustExtTableDelete ||| rustExtTableRowId
  return {
    id := ← okOr ((item.get "id").bind Value.asStr) "missing table id"
    name := ← okOr ((item.get "name").bind Value.asStr) "missing table name"
    capabilities }

def tableListFromJson [SerdeJson] (body : String) : Except String (Page Table) := do
  let root ← SerdeJson.fromStr body
  let items ← okOr ((root.get "items").bind Value.asArray) "missing items array"
  let tables ← items.mapM tableFromJson
  return { items := tables, nextPageToken := textField root "nextPageToken" }

/-- The capabilities of a column. -/
def columnCapabilities (calculated isArray : Bool) : Nat :=
  (if calculated then rustExtColumnGenerated else rustExtColumnEditable) |||
    (if isArray then 0 else rustExtColumnFilterEquality)

def columnFromJson (item : Value) : Except String Column := do
  let format := (item.get "format").bind Value.asObject
  let formatType := ((format.bind (·.lookup "type")).bind Value.asStr).getD "text"
  let isArray := ((format.bind (·.lookup "isArray")).bind Value.asBool).getD false
  let calculated := flagField item "calculated"
  return {
    id := ← okOr ((item.get "id").bind Value.asStr) "missing column id"
    name := ← okOr ((item.get "name").bind Value.asStr) "missing column name"
    formatType
    duckdbType := logicalType formatType isArray
    duckdbTypeAlias := logicalTypeAlias formatType
    isArray
    capabilities := columnCapabilities calculated isArray }

def columnListFromJson [SerdeJson] (body : String) : Except String (Page Column) := do
  let root ← SerdeJson.fromStr body
  let items ← okOr ((root.get "items").bind Value.asArray) "missing items array"
  let columns ← items.mapM columnFromJson
  return { items := columns, nextPageToken := textField root "nextPageToken" }

/-! ## Names and metadata columns -/

/-- The names tried for a column: the base itself, then the base with a number from 2 on. -/
def candidate (base : String) (suffix : Nat) : String :=
  if suffix = 1 then base else s!"{base}_{suffix}"

theorem candidate_injective (base : String) :
    Function.Injective fun suffix => (candidate base suffix).toLower := by
  intro m n h
  by_cases hm : m = 1
  · by_cases hn : n = 1
    · omega
    · exact absurd (by simpa [candidate, hm, hn] using h.symm) (Naming.toLower_numbered_ne base n)
  · by_cases hn : n = 1
    · exact absurd (by simpa [candidate, hm, hn] using h) (Naming.toLower_numbered_ne base m)
    · exact Naming.toLower_numbered_injective base (by simpa [candidate, hm, hn] using h)

/-- The first candidate from `suffix` on that no earlier name equals. -/
def uniqueNameFrom (earlier : List String) (base : String) (suffix : Nat) : String :=
  if earlier.any (eqIgnoreAsciiCase · (candidate base suffix)) then
    uniqueNameFrom earlier base (suffix + 1)
  else candidate base suffix
termination_by Naming.untried (fun suffix => (candidate base suffix).toLower)
  (earlier.map String.toLower) suffix
decreasing_by
  rename_i htaken
  apply Naming.untried_lt _ _ (candidate_injective base)
  simpa [eqIgnoreAsciiCase] using htaken

/-- The name a column is renamed from. -/
def baseName (original : String) : String := if original.isEmpty then "column" else original

/-- The column under a name none of the earlier columns has. -/
def prepareColumn (earlier : List Column) (column : Column) : Column :=
  { column with name := uniqueNameFrom (earlier.map Column.name) (baseName column.name) 1 }

/-- Rename the columns from left to right. -/
def prepareColumns (columns : List Column) : List Column := Naming.sweep prepareColumn [] columns

/-- The two metadata columns of a row. -/
def rowMetadataColumn (name : String) : Column where
  id := name
  name := name
  formatType := "datetime"
  duckdbType := logicalType "datetime" false
  duckdbTypeAlias := ""
  isArray := false
  capabilities := rustExtColumnGenerated ||| rustExtColumnSystem ||| rustExtColumnSortAsc

def appendRowMetadata (columns : List Column) : List Column :=
  columns ++ ["createdAt", "updatedAt"].map rowMetadataColumn

/-! ## What a listed column is -/

/-- A column as listed: its type and capabilities are those of its format. -/
structure Column.Listed (column : Column) : Prop where
  duckdbType : column.duckdbType = logicalType column.formatType column.isArray
  duckdbTypeAlias : column.duckdbTypeAlias = logicalTypeAlias column.formatType
  capabilities : ∃ calculated, column.capabilities = columnCapabilities calculated column.isArray

/-- Only scalar columns can be filtered on. -/
theorem Column.Listed.scalar {column : Column} (h : column.Listed)
    (hfilter : supports column.capabilities rustExtColumnFilterEquality = true) :
    column.isArray = false := by
  obtain ⟨calculated, hcapabilities⟩ := h.capabilities
  rw [hcapabilities] at hfilter
  cases harray : column.isArray with
  | false => rfl
  | true =>
    rw [harray] at hfilter
    cases calculated <;> cases hfilter

theorem columnFromJson_listed {item : Value} {column : Column}
    (h : columnFromJson item = .ok column) : column.Listed := by
  unfold columnFromJson at h
  obtain ⟨id, -, h⟩ := Effect.bind_eq_ok.1 h
  obtain ⟨name, -, h⟩ := Effect.bind_eq_ok.1 h
  cases h
  exact ⟨rfl, rfl, _, rfl⟩

/-- **Every listed column has the type and the capabilities of its format.** -/
theorem columnListFromJson_listed [SerdeJson] {body : String} {page : Page Column}
    (h : columnListFromJson body = .ok page) : ∀ column ∈ page.items, column.Listed := by
  unfold columnListFromJson at h
  obtain ⟨root, -, h⟩ := Effect.bind_eq_ok.1 h
  obtain ⟨items, -, h⟩ := Effect.bind_eq_ok.1 h
  obtain ⟨columns, hcolumns, h⟩ := Effect.bind_eq_ok.1 h
  cases h
  intro column hc
  have hall := Effect.mapM_eq_ok.1 hcolumns
  obtain ⟨n, hn, rfl⟩ := List.getElem_of_mem hc
  exact columnFromJson_listed (hall.get (hall.length_eq ▸ hn) hn)

end SuperhumanDocs
