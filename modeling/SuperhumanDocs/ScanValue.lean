import SuperhumanDocs.Model

/-!
# Reading cells

`scanValue` is the value a column has in a row, as text: a rich cell value is reduced to the text
that the DuckDB type of its column format is cast from.
-/

set_option autoImplicit false

namespace SuperhumanDocs

open Binary (F64)
open Json (Value)

/-! ## Text -/

def stripPrefix (value affix : String) : Option String :=
  (affix.toList.isPrefixOf? value.toList).map String.ofList

def stripSuffix (value affix : String) : Option String :=
  (affix.toList.isSuffixOf? value.toList).map String.ofList

def eqIgnoreAsciiCase (a b : String) : Bool := a.toLower == b.toLower

/-- The content of a text fenced by triple backticks. -/
def unfenceRichText (value : String) : String :=
  match (stripPrefix value "```").bind (stripSuffix · "```") with
  | none => value
  | some inner =>
    let inner := (stripPrefix inner "\n").getD inner
    (stripSuffix inner "\n").getD inner

/-! ## Rich values -/

mutual

/-- The text of a scalar; an object counts as its name or else its value. -/
def scalarText : Value → Option String
  | .null => none
  | .string inner => some (unfenceRichText inner)
  | .bool b => some (Value.bool b).print
  | .number n => some (Value.number n).print
  | .object inner =>
    match scalarTextOf "name" inner with
    | some text => text
    | none => (scalarTextOf "value" inner).getD none
  | .array _ => none

/-- The text of a field, `none` when there is no such field. -/
def scalarTextOf (field : String) : List (String × Value) → Option (Option String)
  | [] => none
  | (key, value) :: fields =>
    if field = key then some (scalarText value) else scalarTextOf field fields

end

/-- The object of the given fields only, null where missing. -/
def projectedObject (value : Value) (fields : List String) : Option String := do
  let source ← value.asObject
  let projected := fields.foldl (fun projected field =>
    Json.insert field ((source.lookup field).getD .null) projected) []
  return (Value.object projected).print

/-- The characters kept of a formatted percentage. -/
def isPercentChar (ch : Char) : Bool :=
  ch.isDigit || ch == '+' || ch == '-' || ch == '.' || ch == ','

section
variable (F : Type) [F64 F]

def normalizedPercent (value : Value) : Option String := do
  let scalar ← scalarText value
  if (F64.parse scalar : Option F).isSome then return scalar
  if !scalar.toList.contains '%' then none
  let percentage := String.ofList
    ((scalar.toList.filter isPercentChar).map fun ch => if ch = ',' then '.' else ch)
  let percentage : F ← F64.parse percentage
  return F64.display (F64.div percentage (F64.ofDecimal ⟨false, 100, 0⟩))

def normalizedValue (formatType : String) (value : Value) : Option String :=
  match formatType.toLower with
  | "currency" => projectedObject value ["currency", "amount"]
  | "image" => projectedObject value ["name", "url", "height", "width", "status"]
  | "person" => projectedObject value ["name", "email"]
  | "link" | "hyperlink" => projectedObject value ["name", "url"]
  | "lookup" => projectedObject value ["name", "url", "tableId", "tableUrl", "rowId"]
  | "duration" => do
    let scalar ← scalarText value
    if (F64.parse scalar : Option F).isSome then return s!"{scalar} days"
    return scalar
  | "percent" => normalizedPercent F value
  | "checkbox" | "text" | "email" | "select" | "number" | "slider" | "scale" | "date" | "datetime"
  | "time" => scalarText value
  | _ => some value.print

/-! ## Cells -/

/-- An item of an array cell. -/
def scanArrayValue (formatType : String) (value : Value) : RustExtArrayValue :=
  if value.isNull then { isNull := true, value := "" }
  else
    match normalizedValue F formatType value with
    | some value => { isNull := false, value }
    | none => { isNull := true, value := "" }

/-- What a column reads from a cell. -/
def scanCell (column : Column) (value : Value) : RustExtScanValue :=
  if value.isNull then .default
  else if column.isArray then
    match value.asArray with
    | none => .default
    | some values =>
      { RustExtScanValue.default with
        isNull := false
        arrayValues := values.map (scanArrayValue F column.formatType) }
  else
    match normalizedValue F column.formatType value with
    | none => .default
    | some value => { RustExtScanValue.default with isNull := false, valueOwned := true, value }

/-- The loop over the cells of a row: the first whose column id matches is read. -/
def scanCells (column : Column) : List Cell → RustExtScanValue
  | [] => .default
  | cell :: cells =>
    if !eqIgnoreAsciiCase cell.columnId column.id then scanCells column cells
    else scanCell F column cell.value

/-- The metadata of a row that a system column shows. -/
def scanSystemValue (column : Column) (row : Row) : RustExtScanValue :=
  let value :=
    if eqIgnoreAsciiCase column.id "createdAt" then row.createdAt
    else if eqIgnoreAsciiCase column.id "updatedAt" then row.updatedAt
    else ""
  if value.isEmpty then .default else { RustExtScanValue.default with isNull := false, value }

def scanValue (column : Column) (row : Row) : RustExtScanValue :=
  if supports column.capabilities rustExtColumnSystem then scanSystemValue column row
  else scanCells F column row.cells

end

/-! ## Lemmas -/

theorem stripPrefix_eq_some {value affix inner : String} :
    stripPrefix value affix = some inner ↔ affix.toList ++ inner.toList = value.toList := by
  rw [stripPrefix, Option.map_eq_some_iff]
  constructor
  · intro ⟨cs, hcs, hinner⟩
    rw [← hinner, String.toList_ofList]
    exact List.isPrefixOf?_eq_some_iff_append_eq.1 hcs
  · intro h
    exact ⟨_, List.isPrefixOf?_eq_some_iff_append_eq.2 h, String.ofList_toList⟩

theorem stripSuffix_eq_some {value affix inner : String} :
    stripSuffix value affix = some inner ↔ inner.toList ++ affix.toList = value.toList := by
  rw [stripSuffix, Option.map_eq_some_iff]
  constructor
  · intro ⟨cs, hcs, hinner⟩
    rw [← hinner, String.toList_ofList]
    exact List.isSuffixOf?_eq_some_iff_append_eq.1 hcs
  · intro h
    exact ⟨_, List.isSuffixOf?_eq_some_iff_append_eq.2 h, String.ofList_toList⟩

theorem length_stripPrefix (value affix : String) :
    ((stripPrefix value affix).getD value).toList.length ≤ value.toList.length := by
  cases h : stripPrefix value affix with
  | none => exact Nat.le_refl _
  | some inner =>
    rw [← stripPrefix_eq_some.1 h, List.length_append]
    exact Nat.le_add_left _ _

theorem length_stripSuffix (value affix : String) :
    ((stripSuffix value affix).getD value).toList.length ≤ value.toList.length := by
  cases h : stripSuffix value affix with
  | none => exact Nat.le_refl _
  | some inner =>
    rw [← stripSuffix_eq_some.1 h, List.length_append]
    exact Nat.le_add_right _ _

/-- A text is no shorter than what it fences. -/
theorem length_unfence (value : String) :
    (unfenceRichText value).toList.length ≤ value.toList.length := by
  unfold unfenceRichText
  split
  · exact Nat.le_refl _
  · rename_i inner hinner
    obtain ⟨opened, hopened, hclosed⟩ := Option.bind_eq_some_iff.1 hinner
    have hopen := length_stripPrefix value "```"
    have hclose := length_stripSuffix opened "```"
    rw [hopened] at hopen
    rw [hclosed] at hclose
    exact (length_stripSuffix _ _).trans
      ((length_stripPrefix _ _).trans (hclose.trans hopen))

end SuperhumanDocs
