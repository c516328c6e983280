import SuperhumanDocs.Client.Catalog

/-!
# A reference environment

An executable instance of what the bridge relies on of DuckDB (fixed-point texts, casts to
`BOOLEAN` and `DECIMAL` with rounding half away from zero, the type names of the column formats,
compact documents), and a small document with its replies.
-/

set_option autoImplicit false

namespace SuperhumanDocs.Reference

open Binary (Binary64 F64)
open Json (Number Lexeme)

/-! ## Texts and type names -/

def toString : DuckValue Binary64 → String
  | .null _ => "NULL"
  | .boolean b => if b then "true" else "false"
  | .int i => (Number.ofInt i).text
  | .uint n => (Number.ofInt n).text
  | .real x => F64.display x
  | .decimal _ scale z => (Number.ofFixed z scale).text
  | .hugeint i => (Number.ofInt i).text
  | .uhugeint n => (Number.ofInt n).text
  | .text s _ => s
  | .other _ text => text
  | .list _ | .array _ => "[...]"
  | .struct _ => "(...)"

/-- The scalar type of a name. -/
def parseScalarType : String → LogicalType
  | "BOOLEAN" => .boolean
  | "DECIMAL(38,20)" => .decimal 38 20 ""
  | "DATE" => .simple .date ""
  | "TIMESTAMPTZ" => .simple .timestampTz ""
  | "TIME" => .simple .time ""
  | "INTERVAL" => .simple .interval ""
  | "STRUCT(currency VARCHAR, amount DECIMAL(38,20))" =>
    .struct [("currency", .varchar), ("amount", .decimal 38 20 "")] ""
  | _ => .varchar

def parseType (name : String) : LogicalType :=
  match ("[]".toList).isSuffixOf? name.toList with
  | some name => .list (parseScalarType (String.ofList name)) ""
  | none => parseScalarType name

/-! ## Casts -/

def castBoolean (s : String) : Option (DuckValue Binary64) :=
  if s.toLower ∈ ["true", "t", "1"] then some (.boolean true)
  else if s.toLower ∈ ["false", "f", "0"] then some (.boolean false)
  else none

/-- `coefficient * 10 ^ shift`, rounded half up. -/
def shiftDecimal (coefficient : Nat) (shift : Int) : Nat :=
  (coefficient * 10 ^ shift.toNat + 10 ^ (-shift).toNat / 2) / 10 ^ (-shift).toNat

def unscaled (l : Lexeme) (scale : Nat) : Int :=
  let n : Int := shiftDecimal l.decimal.coefficient (l.decimal.exponent + scale)
  if l.decimal.neg then -n else n

def castDecimal (s : String) (width scale : Nat) : Option (DuckValue Binary64) :=
  match Json.lex s.toList with
  | none => none
  | some l =>
    if l.hasDigits && decide (|unscaled l scale| < 10 ^ width) then
      some (.decimal width scale (unscaled l scale))
    else none

def cast (s : String) : LogicalType → Option (DuckValue Binary64)
  | .simple .boolean _ => castBoolean s
  | .decimal width scale _ => castDecimal s width scale
  | _ => none

theorem shiftDecimal_exact {coefficient n : Nat} {shift : Int}
    (h : (coefficient : ℚ) * (10 : ℚ) ^ shift = n) : shiftDecimal coefficient shift = n := by
  unfold shiftDecimal
  rcases le_total 0 shift with hs | hs
  · obtain ⟨k, rfl⟩ := Int.eq_ofNat_of_zero_le hs
    have h0 : (-(k : Int)).toNat = 0 := by omega
    rw [zpow_natCast] at h
    rw [h0, Int.toNat_natCast, pow_zero, Nat.div_one]
    exact_mod_cast h
  · obtain ⟨k, rfl⟩ : ∃ k : Nat, shift = -k := ⟨(-shift).toNat, by omega⟩
    have h0 : (-(k : Int)).toNat = 0 := by omega
    rw [zpow_neg, zpow_natCast, ← div_eq_mul_inv, div_eq_iff (by positivity)] at h
    have hc : coefficient = n * 10 ^ k := by exact_mod_cast h
    have hlt : 10 ^ k / 2 < 10 ^ k := Nat.div_lt_self (by positivity) (by decide)
    rw [h0, neg_neg, Int.toNat_natCast, pow_zero, Nat.mul_one, hc, Nat.add_comm,
      Nat.add_mul_div_right _ _ (by positivity), Nat.div_eq_of_lt hlt, Nat.zero_add]

/-- A literal that is a multiple of the last place is cast exactly. -/
theorem unscaled_exact {l : Lexeme} {scale : Nat} {z : Int}
    (h : l.decimal.toRat = z / 10 ^ scale) : unscaled l scale = z := by
  have hz : l.decimal.sign * (l.decimal.coefficient * (10 : ℚ) ^ (l.decimal.exponent + scale)) =
      z := by
    rw [zpow_add₀ (by norm_num), zpow_natCast, ← mul_assoc, ← mul_assoc,
      ← Json.Decimal.toRat.eq_def, h, div_mul_cancel₀ _ (by positivity)]
  have hsign : |l.decimal.sign| = 1 := by unfold Json.Decimal.sign; split <;> norm_num
  have hn : (l.decimal.coefficient : ℚ) * (10 : ℚ) ^ (l.decimal.exponent + scale) = z.natAbs := by
    have := congrArg abs hz
    rwa [abs_mul, hsign, one_mul, abs_of_nonneg (by positivity), ← Int.cast_abs,
      Int.abs_eq_natAbs, Int.cast_natCast] at this
  rw [hn] at hz
  simp only [unscaled, shiftDecimal_exact hn]
  unfold Json.Decimal.sign at hz
  split
  · rename_i hneg
    rw [if_pos hneg, neg_one_mul] at hz
    exact_mod_cast hz
  · rename_i hneg
    rw [if_neg hneg, one_mul] at hz
    exact Int.cast_injective (α := ℚ) (by rw [Int.cast_natCast, hz])

theorem castDecimal_exact {n : Number} {width scale : Nat} {z : Int} (hz : |z| < 10 ^ width)
    (h : n.toRat = z / 10 ^ scale) :
    castDecimal n.text width scale = some (.decimal width scale z) := by
  have hl := n.lex_text
  have hu : unscaled n.lexeme scale = z := unscaled_exact h
  simp only [castDecimal, hl, hu, Lexeme.hasDigits_of_isJson n.lexeme_isJson, Bool.true_and,
    decide_eq_true hz, if_true]

/-! ## Documents -/

def writeJson (tree : MutVal Binary64) : Except String String :=
  match tree.value with
  | some value => .ok value.print
  | none => .error "nan or inf number is not allowed"

open Json.Reference

scoped instance : DuckDb Binary64 where
  toString := toString
  cast := cast
  parseType := parseType
  writeJson := writeJson
  toString_decimal _ _ _ _ := rfl
  toString_hugeint _ := rfl
  toString_uhugeint _ := rfl
  toString_text _ _ := rfl
  cast_boolean s v h := by
    change castBoolean s = some v at h
    unfold castBoolean at h
    split at h
    · exact ⟨true, (Option.some.inj h).symm⟩
    · split at h
      · exact ⟨false, (Option.some.inj h).symm⟩
      · cases h
  cast_boolean_name b := by
    cases b with
    | true => exact if_pos (by decide +kernel)
    | false => exact (if_neg (by decide +kernel)).trans (if_pos (by decide +kernel))
  cast_decimal s width scale v h := by
    change castDecimal s width scale = some v at h
    unfold castDecimal at h
    split at h
    · cases h
    · split at h
      · rename_i hbound
        simp only [Bool.and_eq_true, decide_eq_true_iff] at hbound
        exact ⟨_, (Option.some.inj h).symm, hbound.2⟩
      · cases h
  cast_decimal_exact _ _ _ _ _ hz h hv := Option.some.inj (hv.symm.trans (castDecimal_exact hz h))
  cast_decimal_fixed _ _ _ _ hz h _ := castDecimal_exact hz h
  parseType_boolean := rfl
  parseType_varchar := rfl
  parseType_decimal := rfl
  fromStr_writeJson tree v hv hr := by
    refine ⟨v.print, ?_, Json.fromStr_print hr⟩
    rw [writeJson, hv]

/-! ## A document -/

def config : ClientConfig where
  resource := "doc"
  credential := "token"
  endpoint := ""
  includeSystemColumns := false
  waitForMutations := true
  mutationTimeoutSeconds := 60
  allowMutationWarnings := false

def table : Table where
  id := "t1"
  name := "Tasks"
  capabilities :=
    rustExtTableInsert ||| rustExtTableUpdate ||| rustExtTableDelete ||| rustExtTableRowId

/-- A text column. -/
def textColumn (id : String) : Column where
  id
  name := "Name"
  formatType := "text"
  duckdbType := "VARCHAR"
  duckdbTypeAlias := ""
  isArray := false
  capabilities := rustExtColumnEditable ||| rustExtColumnFilterEquality

/-- A scan of the table. -/
def bindData (pushedLimit : Nat) : RustBridgeScanBindData :=
  { RustBridgeScanBindData.new
      (borrowRustBridgeTableInfo Binary64 (ffiCatalogTable table [textColumn "c1"])) with
    pushedLimit }

/-- The scan of its row ids and its texts, as it is opened. -/
def scanState (pushedLimit : Nat) : RustBridgeScanGlobalState where
  table := (bindData pushedLimit).table
  columnIndexes := [⟨columnIdentifierRowId⟩, ⟨0⟩]
  outputTypes := [.varchar, .varchar]
  scan :=
    { docId := "doc"
      tableId := "t1"
      query := ""
      sortBy := ""
      limit := if pushedLimit = 0 then 500 else min pushedLimit 500
      nextPageToken := ""
      nextSyncToken := ""
      syncCheckDone := false
      finished := false }
  rows := { rows := [], finished := false }
  rowOffset := 0
  remainingRows := pushedLimit
  finished := false

theorem new_scanState (pushedLimit : Nat) : RustBridgeScanGlobalState.new (fun _ => .ok ()) config
    table (bindData pushedLimit) [] [⟨columnIdentifierRowId⟩, ⟨0⟩] [.varchar, .varchar] =
      .ok (scanState pushedLimit) := rfl

theorem scanState_inRange (pushedLimit : Nat) : (scanState pushedLimit).InRange := by
  intro index h
  obtain rfl | rfl := List.mem_pair.1 h
  · exact .inl (by decide)
  · exact .inr Nat.zero_lt_one

/-- A response with a document as its body. -/
def reply (status : Nat) (body : Json.Value) : Reply where
  result := .ok ()
  exchange := some ⟨status, ⟨status, body.print.toUTF8⟩⟩
  accepted := true

theorem executeInner_reply (acceptedStatus : Option Nat) (status : Nat) (body : Json.Value) :
    executeInner acceptedStatus (reply status body) = .ok (some body.print) := by
  simp only [executeInner, reply, responseBody, fromUTF8?_toUTF8, Except.map]

theorem execute_reply (status : Nat) (body : Json.Value) :
    execute (reply status body) = .ok body.print := by
  simp only [execute, executeInner_reply, bind, Except.bind]

/-! ### Listings -/

/-- A page of a listing. -/
def listingPage (items : List Json.Value) (nextPageToken : String) : Json.Value :=
  .object [("items", .array items), ("nextPageToken", .string nextPageToken)]

def listedTable (id name : String) : Table where
  id
  name
  capabilities := rustExtTableInsert ||| rustExtTableUpdate ||| rustExtTableDelete |||
    rustExtTableRowId

def tableJson (table : Table) : Json.Value :=
  .object [("id", .string table.id), ("name", .string table.name)]

/-- A column of a format, as it is listed. -/
def formatColumn (id name formatType : String) (isArray : Bool) : Column where
  id
  name
  formatType
  duckdbType := logicalType formatType isArray
  duckdbTypeAlias := logicalTypeAlias formatType
  isArray
  capabilities := columnCapabilities false isArray

def columnJson (column : Column) : Json.Value :=
  .object [("format", .object [("isArray", .bool column.isArray),
      ("type", .string column.formatType)]),
    ("id", .string column.id), ("name", .string column.name)]

theorem textColumn_eq (id : String) : textColumn id = formatColumn id "Name" "text" false := by
  have htext : "text".toLower = "text" := by decide +kernel
  simp [textColumn, formatColumn, logicalType, scalarType, logicalTypeAlias, htext]
  rfl

theorem fromStr_listingPage {items : List Json.Value}
    (h : ∀ item ∈ items, item.canonicalize = item ∧ item.readable 125 = true)
    (nextPageToken : String) :
    Json.SerdeJson.fromStr (listingPage items nextPageToken).print =
      .ok (listingPage items nextPageToken) := by
  have hitems : Json.readableItems 125 items = true := by
    induction items with
    | nil => rfl
    | cons item items ih =>
      obtain ⟨hitem, hitems⟩ := List.forall_mem_cons.1 h
      simp [Json.readableItems, hitem.2, ih hitems]
  have hmap : items.map Json.Value.canonicalize = items :=
    (List.map_congr_left fun item hitem => (h item hitem).1).trans (List.map_id _)
  have htoken : ¬ ("nextPageToken" < "items") := by decide
  have hcanon : (listingPage items nextPageToken).canonicalize =
      listingPage items nextPageToken := by
    simp [listingPage, Json.Value.canonicalize, Json.canonicalizeFields, Json.canonicalizeItems_eq,
      Json.insert, hmap, htoken]
  have hread := Json.SerdeJson.fromStr_print (listingPage items nextPageToken)
    (by simp [listingPage, Json.Value.readable, Json.readableFields, Json.maxDepth, hitems])
  rwa [hcanon] at hread

/-- **A page of tables is read back.** -/
theorem tables_page (items : List (String × String)) (nextPageToken : String) :
    tableListFromJson (listingPage (items.map fun item => tableJson (listedTable item.1 item.2))
      nextPageToken).print =
      .ok { items := items.map fun item => listedTable item.1 item.2, nextPageToken } := by
  have hread := @fromStr_listingPage (items.map fun item => tableJson (listedTable item.1 item.2))
    (fun item hitem => by
      obtain ⟨_, -, rfl⟩ := List.mem_map.1 hitem
      exact ⟨rfl, rfl⟩) nextPageToken
  have htype : "table".toLower = "table" := by decide +kernel
  have htables : (items.map fun item => tableJson (listedTable item.1 item.2)).mapM tableFromJson =
      .ok (items.map fun item => listedTable item.1 item.2) := by
    rw [Effect.mapM_eq_ok, List.forall₂_map_left_iff, List.forall₂_map_right_iff]
    exact List.forall₂_same.2 fun item _ => by
      simp [tableFromJson, tableJson, Json.Value.get, Json.Value.asObject, Json.lookup_cons_ite,
        okOr, Json.Value.asStr, listedTable, htype, bind, Except.bind, pure, Except.pure]
  simp only [tableListFromJson, bind, Except.bind, hread]
  simp [listingPage, Json.Value.get, Json.Value.asObject, Json.lookup_cons_ite, okOr,
    Json.Value.asArray, htables, textField, Json.Value.asStr, pure, Except.pure]

/-- **A page of columns is read back.** -/
theorem columns_page {columns : List Column} (h : ∀ column ∈ columns,
      column = formatColumn column.id column.name column.formatType column.isArray)
    (nextPageToken : String) :
    columnListFromJson (listingPage (columns.map columnJson) nextPageToken).print =
      .ok { items := columns, nextPageToken } := by
  have hread := @fromStr_listingPage (columns.map columnJson) (fun item hitem => by
    obtain ⟨_, -, rfl⟩ := List.mem_map.1 hitem
    exact ⟨rfl, rfl⟩) nextPageToken
  have hcolumns : (columns.map columnJson).mapM columnFromJson = .ok columns := by
    rw [Effect.mapM_eq_ok, List.forall₂_map_left_iff]
    refine List.forall₂_same.2 fun column hcolumn => ?_
    rw [h column hcolumn]
    simp [columnFromJson, columnJson, formatColumn, Json.Value.get, Json.Value.asObject,
      Json.lookup_cons_ite, okOr, Json.Value.asStr, Json.Value.asBool, flagField, bind,
      Except.bind, pure, Except.pure]
  simp only [columnListFromJson, bind, Except.bind, hread]
  simp [listingPage, Json.Value.get, Json.Value.asObject, Json.lookup_cons_ite, okOr,
    Json.Value.asArray, hcolumns, textField, Json.Value.asStr, pure, Except.pure]

/-- The columns of a listing of one page. -/
theorem loadColumns_page {columns : List Column} (h : ∀ column ∈ columns,
      column = formatColumn column.id column.name column.formatType column.isArray)
    (docId tableId : String) (includeSystemColumns : Bool) (replies : List Reply) :
    loadColumns docId tableId includeSystemColumns
        (reply 200 (listingPage (columns.map columnJson) "") :: replies) =
      { result := .ok (prepareColumns
          (if includeSystemColumns then appendRowMetadata columns else columns))
        sent := [.columns (listColumnsInput docId tableId "")]
        replies } := by
  have hpage : (execute (reply 200 (listingPage (columns.map columnJson) "")) >>=
      columnListFromJson) = .ok { items := columns, nextPageToken := "" } := by
    rw [execute_reply]
    exact columns_page h ""
  simp only [loadColumns, columnPages, hpage]
  rfl

/-! ### Rows -/

/-- The cells of a row. -/
def cellsJson (row : Row) : Json.Value :=
  .object (row.cells.map fun cell => (cell.columnId, cell.value))

def rowJson (row : Row) : Json.Value :=
  .object [("createdAt", .string row.createdAt), ("deleted", .bool row.deleted),
    ("id", .string row.id), ("updatedAt", .string row.updatedAt), ("values", cellsJson row)]

/-- A page of rows. -/
def pageJson (rows : List Row) (nextPageToken nextSyncToken : String) : Json.Value :=
  .object [
    ("items", .array (rows.map rowJson)),
    ("nextPageToken", .string nextPageToken),
    ("nextSyncToken", .string nextSyncToken)]

/-- A row by its id and whether it is deleted; it has a text. -/
def namedRow (row : String × Bool) : Row where
  id := row.1
  createdAt := "2024-01-01T00:00:00Z"
  updatedAt := "2024-01-02T00:00:00Z"
  deleted := row.2
  cells := [{ columnId := "c1", value := .string ("Task " ++ row.1) }]

/-- A row whose text is read as `value`. -/
theorem outputRow_namedRow (pushedLimit : Nat) {row : String × Bool} (value : String)
    (h : scanValue Binary64 (textColumn "c1") (namedRow row) =
      { isNull := false, valueOwned := true, value, arrayValues := [] }) :
    (scanState pushedLimit).outputRow (F := Binary64) (ffiScanRow (namedRow row)) =
      .ok [.text row.1 "", .text value ""] := by
  have hvalue : rustExtScanValue Binary64 (some (textColumn "c1")) (some (namedRow row)) =
      some { isNull := false, valueOwned := true, value, arrayValues := [] } := congrArg some h
  have hcolumn : scanColumnValue (F := Binary64)
      ⟨ffiColumn (textColumn "c1"), .varchar⟩ (ffiScanRow (namedRow row)) = .text value "" := by
    simp only [scanColumnValue, ffiColumn, ffiScanRow, hvalue]
    rfl
  exact congrArg (fun v => Except.ok [DuckValue.text row.1 "", v]) hcolumn

def rowsJson (rows : List (String × Bool)) (nextPageToken nextSyncToken : String) : Json.Value :=
  pageJson (rows.map namedRow) nextPageToken nextSyncToken

def rowsResponse (rows : List (String × Bool)) (nextPageToken nextSyncToken : String) :
    RowsResponse where
  rows := rows.map namedRow
  nextPageToken
  nextSyncToken

/-- The cells can be read, and come back in the order they are in. -/
structure ListedCells (row : Row) : Prop where
  canonical : (cellsJson row).canonicalize = cellsJson row
  readable : (cellsJson row).readable 124 = true

theorem listedCells_namedRows (rows : List (String × Bool)) :
    ∀ row ∈ rows.map namedRow, ListedCells row := by
  intro row hrow
  obtain ⟨_, -, rfl⟩ := List.mem_map.1 hrow
  exact ⟨rfl, rfl⟩

theorem canonicalize_rowJson {row : Row} (h : ListedCells row) :
    (rowJson row).canonicalize = rowJson row := by
  have h₁ : ¬ ("deleted" < "createdAt") := by decide
  have h₂ : ¬ ("id" < "createdAt") := by decide
  have h₃ : ¬ ("id" < "deleted") := by decide
  have h₄ : ¬ ("updatedAt" < "createdAt") := by decide
  have h₅ : ¬ ("updatedAt" < "deleted") := by decide
  have h₆ : ¬ ("updatedAt" < "id") := by decide
  have h₇ : ¬ ("values" < "createdAt") := by decide
  have h₈ : ¬ ("values" < "deleted") := by decide
  have h₉ : ¬ ("values" < "id") := by decide
  have h₁₀ : ¬ ("values" < "updatedAt") := by decide
  simp [rowJson, Json.Value.canonicalize, Json.canonicalizeFields, Json.insert, h.canonical, h₁, h₂,
    h₃, h₄, h₅, h₆, h₇, h₈, h₉, h₁₀]

variable {rows : List Row}

theorem canonicalize_pageJson (h : ∀ row ∈ rows, ListedCells row)
    (nextPageToken nextSyncToken : String) :
    (pageJson rows nextPageToken nextSyncToken).canonicalize =
      pageJson rows nextPageToken nextSyncToken := by
  have h₁ : ¬ ("nextPageToken" < "items") := by decide
  have h₂ : ¬ ("nextSyncToken" < "items") := by decide
  have h₃ : ¬ ("nextSyncToken" < "nextPageToken") := by decide
  have hrows : rows.map (Json.Value.canonicalize ∘ rowJson) = rows.map rowJson :=
    List.map_congr_left fun row hrow => canonicalize_rowJson (h row hrow)
  simp [pageJson, Json.Value.canonicalize, Json.canonicalizeFields, Json.canonicalizeItems_eq,
    Json.insert, h₁, h₂, h₃, hrows]

theorem readable_pageJson (h : ∀ row ∈ rows, ListedCells row)
    (nextPageToken nextSyncToken : String) :
    (pageJson rows nextPageToken nextSyncToken).readable Json.maxDepth = true := by
  have hrows : Json.readableItems 125 (rows.map rowJson) = true := by
    induction rows with
    | nil => rfl
    | cons row rows ih =>
      obtain ⟨hrow, hrows⟩ := List.forall_mem_cons.1 h
      simp [Json.readableItems, rowJson, Json.Value.readable, Json.readableFields, hrow.readable,
        ih hrows]
  simp [pageJson, Json.Value.readable, Json.readableFields, Json.maxDepth, hrows]

/-- **The rows of a reply are read back.** -/
theorem page_reply (h : ∀ row ∈ rows, ListedCells row) (status : Nat)
    (nextPageToken nextSyncToken : String) :
    (reply status (pageJson rows nextPageToken nextSyncToken)).rows =
      .ok { rows, nextPageToken, nextSyncToken } := by
  have hread := Json.SerdeJson.fromStr_print _ (readable_pageJson h nextPageToken nextSyncToken)
  rw [canonicalize_pageJson h] at hread
  have hrows : (rows.map rowJson).mapM rowFromJson = .ok rows := by
    rw [Effect.mapM_eq_ok, List.forall₂_map_left_iff]
    exact List.forall₂_same.2 fun row _ => by
      simp [rowFromJson, rowJson, cellsJson, Json.Value.get, Json.Value.asObject,
        Json.lookup_cons_ite, okOr, textField, flagField, cellsFromJson, Json.Value.asStr,
        Json.Value.asBool, bind, Except.bind, pure, Except.pure, Function.comp_def]
  simp only [Reply.rows, execute_reply, rowsFromJson, bind, Except.bind, hread]
  simp [pageJson, Json.Value.get, Json.Value.asObject, Json.lookup_cons_ite, okOr,
    Json.Value.asArray, hrows, textField, Json.Value.asStr, pure, Except.pure]

theorem rows_reply (status : Nat) (rows : List (String × Bool))
    (nextPageToken nextSyncToken : String) :
    (reply status (rowsJson rows nextPageToken nextSyncToken)).rows =
      .ok (rowsResponse rows nextPageToken nextSyncToken) :=
  page_reply (listedCells_namedRows rows) status nextPageToken nextSyncToken

/-- The reply to a list request without an order. -/
theorem list_pageJson {handle : ScanHandle} (h : handle.sortBy = "")
    (hrows : ∀ row ∈ rows, ListedCells row) (status : Nat) (nextPageToken nextSyncToken : String)
    (replies : List Reply) :
    (handle.list (reply status (pageJson rows nextPageToken nextSyncToken) :: replies)).result =
      .ok { rows, nextPageToken, nextSyncToken } := by
  have hs : rowsSortBy handle.request.1.sortBy = .ok none := by
    rw [show handle.request.1.sortBy = handle.sortBy from rfl, h]
    rfl
  simp only [ScanHandle.list, listRows, hs, page_reply hrows]
  rfl

theorem list_reply {handle : ScanHandle} (h : handle.sortBy = "") (status : Nat)
    (rows : List (String × Bool)) (nextPageToken nextSyncToken : String) (replies : List Reply) :
    (handle.list (reply status (rowsJson rows nextPageToken nextSyncToken) :: replies)).result =
      .ok (rowsResponse rows nextPageToken nextSyncToken) :=
  list_pageJson h (listedCells_namedRows rows) status nextPageToken nextSyncToken replies

end SuperhumanDocs.Reference
