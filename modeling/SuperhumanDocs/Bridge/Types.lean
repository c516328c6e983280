import SuperhumanDocs.Bridge.Scan

/-!
# The types of the outputs of a scan

DuckDB allots a vector for each output of a scan. `OfType` says which values a vector of a type
holds; `OutputType` says of which type the vector of an output column is.
-/

set_option autoImplicit false

namespace SuperhumanDocs

open Binary (F64)
open Json (SerdeJson)

/-! ## Values of a type -/

/-- The bits of a signed integer type. -/
def TypeId.signedBits : TypeId → Option Nat
  | .tinyint => some 8
  | .smallint => some 16
  | .integer => some 32
  | .bigint => some 64
  | _ => none

def TypeId.unsignedBits : TypeId → Option Nat
  | .utinyint => some 8
  | .usmallint => some 16
  | .uinteger => some 32
  | .ubigint => some 64
  | _ => none

/-- The types whose values the bridge passes on as text. -/
def TypeId.isOther : TypeId → Bool
  | .date | .time | .timestampTz | .interval | .other _ => true
  | _ => false

/-- The values of a type; NULL is of every type. -/
inductive OfType {F : Type} : LogicalType → DuckValue F → Prop
  | null (type : LogicalType) : OfType type (.null type)
  | boolean (typeAlias : String) (b : Bool) : OfType (.simple .boolean typeAlias) (.boolean b)
  | int {id : TypeId} {bits : Nat} (hid : id.signedBits = some bits) (typeAlias : String) {i : Int}
    (hlow : -2 ^ (bits - 1) ≤ i) (hhigh : i < 2 ^ (bits - 1)) :
    OfType (.simple id typeAlias) (.int i)
  | uint {id : TypeId} {bits : Nat} (hid : id.unsignedBits = some bits) (typeAlias : String)
    {n : Nat} (hn : n < 2 ^ bits) : OfType (.simple id typeAlias) (.uint n)
  | real {id : TypeId} (hid : id = .float ∨ id = .double) (typeAlias : String) (x : F) :
    OfType (.simple id typeAlias) (.real x)
  | hugeint (typeAlias : String) {i : Int} (hlow : -2 ^ 127 ≤ i) (hhigh : i < 2 ^ 127) :
    OfType (.simple .hugeint typeAlias) (.hugeint i)
  | uhugeint (typeAlias : String) {n : Nat} (hn : n < 2 ^ 128) :
    OfType (.simple .uhugeint typeAlias) (.uhugeint n)
  | decimal (width scale : Nat) (typeAlias : String) {z : Int} (hz : |z| < 10 ^ width) :
    OfType (.decimal width scale typeAlias) (.decimal width scale z)
  | text (s typeAlias : String) : OfType (.simple .varchar typeAlias) (.text s typeAlias)
  | other {id : TypeId} (hid : id.isOther = true) (typeAlias text : String) :
    OfType (.simple id typeAlias) (.other (.simple id typeAlias) text)
  | list {child : LogicalType} (typeAlias : String) {items : List (DuckValue F)}
    (h : ∀ item ∈ items, OfType child item) : OfType (.list child typeAlias) (.list items)
  | array {child : LogicalType} (typeAlias : String) {items : List (DuckValue F)}
    (h : ∀ item ∈ items, OfType child item) :
    OfType (.array child items.length typeAlias) (.array items)
  | struct {fields : List (String × LogicalType)} (typeAlias : String)
    {values : List (String × DuckValue F)} (hnames : values.map Prod.fst = fields.map Prod.fst)
    (h : ∀ entry ∈ fields.zip values, OfType entry.1.2 entry.2.2) :
    OfType (.struct fields typeAlias) (.struct values)

section
variable (F : Type) [F64 F] [SerdeJson] [DuckDb F]

/-- A cast to a type gives a value of the type. -/
def CastsToType : Prop :=
  ∀ s type (value : DuckValue F), DuckDb.cast s type = some value → OfType type value

end

/-! ## Output columns -/

/-- A type without an alias, whose items have none either. -/
def LogicalType.Plain : LogicalType → Prop
  | simple _ typeAlias => typeAlias = ""
  | decimal _ _ typeAlias => typeAlias = ""
  | list child typeAlias => child.Plain ∧ typeAlias = ""
  | array child _ typeAlias => child.Plain ∧ typeAlias = ""
  | struct _ typeAlias => typeAlias = ""

/-- The virtual columns of a table, under their indexes. -/
def RustBridgeTableInfo.getVirtualColumns (table : RustBridgeTableInfo) :
    List (Nat × String × LogicalType) :=
  if table.supports rustExtTableRowId then [(columnIdentifierRowId, "rowid", .varchar)] else []

/-- The type of the vector of an output column: a virtual column that the table has, one that the
scan leaves NULL, or a column of the table. -/
def OutputType (table : RustBridgeTableInfo) (index : ColumnIndex) (type : LogicalType) : Prop :=
  if index.isVirtualColumn then
    (∃ name, (index.primaryIndex, name, type) ∈ table.getVirtualColumns) ∨
      index.primaryIndex ≠ columnIdentifierRowId
  else ∃ column, table.columns[index.primaryIndex]? = some column ∧ type = column.duckdbType

end SuperhumanDocs
