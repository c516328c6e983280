import SuperhumanDocs.Proof.RawScan

/-!
# The catalog in memory is the catalog

* `rustBridgeListTables_matches`: the tables and columns of a loaded document are all in memory, and
  after a failure nothing is.
* `schema_matches`: the schema has the entries of the model, whose tables can be scanned.
* `IsCatalog.free`: a catalog is freed whole.
-/

set_option autoImplicit false

namespace SuperhumanDocs.Raw

open Binary (F64)
open Json (SerdeJson)
open Memory
open Naming (KeyMap)

/-! ## Load and free -/

def IsColumn (record : RustExtColumn) (column : Column) (own : Owned Block) : Prop :=
  ∃ address, record = columnRecord address column ∧ own = cell address (.column column)

def IsTable (record : RustExtCatalogTable) (table : Table × List Column) (own : Owned Block) :
    Prop :=
  ∃ address parts columns, record = tableRecord address table.1 parts ∧
    IsSlice IsColumn parts table.2 columns ∧ own = cell address (.table table.1) + columns

def IsCatalog (raw : RustExtCatalog) (tables : List (Table × List Column)) (own : Owned Block) :
    Prop :=
  IsSlice IsTable (raw.tables, raw.tableCount) tables own

section
variable [Allocator Block]

theorem ffiColumn_spec (column : Column) :
    Triple 0 (ffiColumn column) fun record own => IsColumn record column own :=
  (Triple.alloc _).bind fun address _ hown => Triple.pure ⟨address, rfl, hown⟩

theorem ffiCatalogTable_spec (table : Table) (columns : List Column) :
    Triple 0 (ffiCatalogTable table columns) fun record own =>
      IsTable record (table, columns) own := by
  refine (Triple.alloc (Block.table table)).bind fun address own hown => ?_
  rw [← zero_add own]
  refine (Each.mapM ffiColumn_spec columns).frame_bind fun records new hrecords => ?_
  refine (vecIntoRawParts_spec hrecords).frame_bind fun parts new hparts => Triple.pure ?_
  exact ⟨address, parts, new, rfl, hparts, by rw [hown, add_comm]⟩

theorem ffiCatalog_spec (tables : List (Table × List Column)) :
    Triple 0 (ffiCatalog tables) fun raw own => IsCatalog raw tables own := by
  have htable (table : Table × List Column) :
      Triple 0 (ffiCatalogTable table.1 table.2) fun record own => IsTable record table own :=
    ffiCatalogTable_spec table.1 table.2
  refine (Each.mapM htable tables).bind fun records own hrecords => ?_
  exact (vecIntoRawParts_spec hrecords).bind fun parts own' hparts => Triple.pure hparts

end

theorem IsTable.free {record : RustExtCatalogTable} {table : Table × List Column}
    {own : Owned Block} (h : IsTable record table own) :
    Triple own (freeTable record) (Leaves () 0) := by
  obtain ⟨address, parts, columns, rfl, hcolumns, rfl⟩ := h
  rw [add_comm]
  refine hcolumns.take.frame_bind fun records own' hrecords => ?_
  refine (hrecords.forM ?_).leaves_frame_bind ?_
  · rintro record column _ ⟨address, rfl, rfl⟩
    exact dropHandle_spec address column
  · rw [zero_add]
    exact dropHandle_spec address table.1

/-- **A catalog is freed whole.** -/
theorem IsCatalog.free {raw : RustExtCatalog} {tables : List (Table × List Column)}
    {own : Owned Block} (h : IsCatalog raw tables own) :
    Triple own (freeCatalog raw) (Leaves () 0) :=
  (IsSlice.take h).bind fun _ _ hrecords => hrecords.forM fun _ _ _ hrecord => hrecord.free

abbrev loadContext : String := "failed to load Superhuman Docs catalog"

section
variable [SerdeJson]

/-- The tables of a catalog as the model has them. -/
def catalogTables (tables : List (Table × List Column)) :
    List SuperhumanDocs.RustExtCatalogTable :=
  tables.map fun (table, columns) => SuperhumanDocs.ffiCatalogTable table columns

theorem loadCatalog_eq_listTables (newClient : ClientConfig → Except String Unit)
    (config : ClientConfig) (replies : List Reply) :
    loadCatalog newClient config replies =
      (listTables newClient config replies).map catalogTables := by
  unfold loadCatalog listTables
  cases newClient config <;> rfl

theorem rustBridgeListTables_matches [Allocator Block]
    (newClient : ClientConfig → Except String Unit) {own : Owned Block} {handle : Option ℕ}
    {config : ClientConfig} (hconfig : Triple own (refFromRaw ClientConfig handle "client config")
      (Leaves (.ok config) own)) (replies : List Reply) :
    Triple own (rustBridgeListTables newClient handle replies) fun call own' =>
      call.2 = (listTables newClient config replies).replies ∧
      match (listTables newClient config replies).result with
      | .error stop => call.1 = .error (Stop.thrown loadContext .invalidInput stop) ∧ own' = own
      | .ok tables => ∃ raw new, call.1 = .ok raw ∧ own' = own + new ∧ IsCatalog raw tables new := by
  unfold rustBridgeListTables
  refine hconfig.leaves_bind ?_
  dsimp only
  cases (listTables newClient config replies).result with
  | error stop =>
    refine (ffiBool_orThrow (α := RustExtCatalog) _ _ (.error stop) own).leaves_bind ?_
    exact Triple.pure ⟨rfl, rfl, rfl⟩
  | ok tables =>
    rw [← zero_add own]
    refine (ffiCatalog_spec tables).frame_bind fun raw new hraw => ?_
    refine (ffiBool_orThrow _ _ (.ok raw) _).leaves_bind (Triple.pure ⟨rfl, raw, new, rfl, ?_, hraw⟩)
    rw [zero_add, add_comm]

end

/-! ## The schema -/

/-- An entry of the schema: the definition of its table in the model, and a table to scan. -/
structure IsEntry (own : Owned Block) (raw : RustBridgeTableCatalogEntry)
    (entry : SuperhumanDocs.RustBridgeTableCatalogEntry) : Prop where
  name : raw.name = entry.table.table.name
  columns : raw.columns = entry.table.columns.map fun column =>
    (column.column.name, column.duckdbType)
  table : ReadsTable own raw.table entry.table

/-! ### Columns -/

section
variable {own : Owned Block} {ptr : ItemPtr} {column : Column}

/-- A pointer to the record of a column in memory. -/
def PointsToColumn (own : Owned Block) (ptr : ItemPtr) (column : Column) : Prop :=
  ∃ address rest, own = cell address (.column column) + rest ∧
    Triple own (ptr.deref RustExtColumn) (Leaves (columnRecord address column) own)

theorem column_asStr {address : ℕ} {rest : Owned Block} {field : Field} {text : String}
    (hown : own = cell address (.column column) + rest)
    (h : (Block.column column).text field = some text) :
    Triple own (rustBridgeString (borrowString address field text)) (Leaves text own) :=
  hown ▸ (borrowString_asStr h).leaves_frame rest

variable (F : Type) [F64 F] [SerdeJson] [DuckDb F]

/-- The information of the model about a column. -/
def columnInfo (column : Column) : SuperhumanDocs.RustBridgeColumnInfo where
  column := SuperhumanDocs.ffiColumn column
  duckdbType := applyValueTypeAlias (DuckDb.parseType F column.duckdbType) column.duckdbTypeAlias

/-- A column of a table to scan, with the name it is defined under. -/
structure IsColumnInfo (own : Owned Block) (raw : RustBridgeColumnInfo) (column : Column) :
    Prop where
  reads : ReadsColumn own raw (columnInfo F column)
  definition : Triple own (columnDefinition raw)
    (Leaves (column.name, (columnInfo F column).duckdbType) own)

theorem borrowRustBridgeColumnInfo_spec (h : PointsToColumn own ptr column) :
    Triple own (borrowRustBridgeColumnInfo F ptr) fun raw own' =>
      own' = own ∧ IsColumnInfo F own raw column := by
  obtain ⟨address, rest, hown, hderef⟩ := h
  refine hderef.leaves_bind ?_
  refine (column_asStr hown rfl).leaves_bind ?_
  refine (column_asStr hown rfl).leaves_bind (Triple.pure ⟨rfl, ?_, ?_⟩)
  · refine ⟨rfl, columnRecord address column, column, rfl, rfl, hderef, ?_⟩
    rw [hown]
    exact (refFromRaw_spec address column "column").leaves_frame rest
  · refine hderef.leaves_bind ?_
    exact (column_asStr hown rfl).leaves_bind (Triple.pure ⟨rfl, rfl⟩)

end

/-! ### Tables -/

section
variable (F : Type) [F64 F] [SerdeJson] [DuckDb F] {own : Owned Block} {ptr : ItemPtr}
  {table : Table × List Column}

/-- A pointer to the record of a table in memory. -/
def PointsToTable (own : Owned Block) (ptr : ItemPtr) (table : Table × List Column) : Prop :=
  ∃ address parts columns rest, own = cell address (.table table.1) + (columns + rest) ∧
    IsSlice IsColumn parts table.2 columns ∧
    Triple own (ptr.deref RustExtCatalogTable) (Leaves (tableRecord address table.1 parts) own)

/-- The information of the model about a table. -/
def tableInfo (table : Table × List Column) : SuperhumanDocs.RustBridgeTableInfo :=
  SuperhumanDocs.borrowRustBridgeTableInfo F (SuperhumanDocs.ffiCatalogTable table.1 table.2)

theorem tableInfo_columns : (tableInfo F table).columns = table.2.map (columnInfo F) := by
  show ((table.2.map SuperhumanDocs.ffiColumn).map _) = _
  rw [List.map_map]
  rfl

/-- **A table to scan**: all its columns can be read. -/
theorem borrowRustBridgeTableInfo_spec (h : PointsToTable own ptr table) :
    Triple own (borrowRustBridgeTableInfo F ptr) fun raw own' => own' = own ∧ raw.table = ptr ∧
      ReadsTable own raw (tableInfo F table) ∧
      List.Forall₂ (IsColumnInfo F own) raw.columns table.2 := by
  obtain ⟨address, parts, columns, rest, hown, hcolumns, hderef⟩ := h
  refine hderef.leaves_bind ?_
  have hcount : (tableRecord address table.1 parts).columnCount = table.2.length :=
    hcolumns.length_eq
  rw [hcount]
  have hitem (index : ℕ) (column : Column) (hcolumn : table.2[index]? = some column) :
      Triple own (borrowTableColumn F (tableRecord address table.1 parts).columns index)
        fun raw own' => own' = own ∧ IsColumnInfo F own raw column := by
    obtain ⟨slice, record, _, others, hslice, ⟨columnAddress, rfl, rfl⟩, rfl, hread⟩ :=
      hcolumns.item hcolumn
    have hcolumnOwn : own = cell columnAddress (.column column) + others +
        (cell address (.table table.1) + rest) := by rw [hown]; abel
    rw [show (tableRecord address table.1 parts).columns = some slice from hslice]
    refine borrowRustBridgeColumnInfo_spec F ⟨columnAddress, _, hcolumnOwn.trans (add_assoc _ _ _), ?_⟩
    rw [hcolumnOwn]
    exact hread.leaves_frame _
  refine (Triple.mapM_range hitem).bind ?_
  rintro infos _ ⟨rfl, hinfos⟩
  refine Triple.pure ⟨rfl, rfl, ⟨?_, ?_⟩, hinfos⟩
  · refine ⟨tableRecord address table.1 parts, table.1, rfl, hderef, ?_⟩
    rw [hown]
    exact (refFromRaw_spec address table.1 "table").leaves_frame _
  · rw [tableInfo_columns, List.forall₂_map_right_iff]
    exact hinfos.imp fun _ _ hinfo => hinfo.reads

theorem rustBridgeTableEntry_spec (h : PointsToTable own ptr table) :
    Triple own (rustBridgeTableEntry F ptr) fun entry own' => own' = own ∧
      entry.1 = table.1.name ∧ ∀ tableIndex, IsEntry own entry.2
        { tableIndex, table := tableInfo F table } := by
  refine (borrowRustBridgeTableInfo_spec F h).bind ?_
  rintro info own ⟨rfl, rfl, hreads, hinfos⟩
  obtain ⟨address, parts, columns, rest, hown, hcolumns, hderef⟩ := h
  refine hderef.leaves_bind ?_
  have hname : Triple own (rustBridgeString (tableRecord address table.1 parts).name)
      (Leaves table.1.name own) := by
    rw [hown]
    exact (borrowString_asStr rfl).leaves_frame _
  refine hname.leaves_bind ?_
  refine (Triple.mapM_leaves hinfos fun _ _ hinfo => hinfo.definition).leaves_bind ?_
  refine Triple.pure ⟨rfl, rfl, fun tableIndex => ⟨rfl, ?_, hreads⟩⟩
  rw [tableInfo_columns, List.map_map]
  rfl

end

/-! ### Entries -/

section
variable {F : Type} [F64 F] [SerdeJson] [DuckDb F] {own : Owned Block}

/-- The schema of the model for a list of tables. -/
def schemaInfo (F : Type) [F64 F] [DuckDb F] (tables : List (Table × List Column)) :
    SuperhumanDocs.RustBridgeSchemaCatalogEntry :=
  SuperhumanDocs.RustBridgeSchemaCatalogEntry.new F (catalogTables tables)

/-- **The schema in memory finds an entry where the model does**, of the same table. -/
theorem schema_matches {catalog : RustExtCatalog} {tables : List (Table × List Column)}
    (h : IsCatalog catalog tables own) (others : Owned Block) :
    Triple (own + others) (RustBridgeSchemaCatalogEntry.new F catalog) fun schema own' =>
      own' = own + others ∧ ∀ name, Option.Rel (IsEntry (own + others)) (schema.lookupEntry name)
        ((schemaInfo F tables).lookupEntry name) := by
  have hcount : catalog.tableCount =
      ((catalogTables tables).mapIdx (SuperhumanDocs.rustBridgeTableEntry F)).length := by
    rw [List.length_mapIdx, catalogTables, List.length_map]
    exact h.length_eq
  unfold RustBridgeSchemaCatalogEntry.new
  rw [hcount]
  refine (Triple.mapM_range (P := fun item item' =>
    item.1 = item'.1 ∧ IsEntry (own + others) item.2 item'.2) ?_).bind ?_
  · intro index item' hitem'
    rw [List.getElem?_mapIdx, catalogTables, List.getElem?_map, Option.map_map,
      Option.map_eq_some_iff] at hitem'
    obtain ⟨table, htable, rfl⟩ := hitem'
    obtain ⟨slice, record, _, rest, hslice, ⟨address, parts, columns, rfl, hcolumns, rfl⟩, rfl,
      hderef⟩ := IsSlice.item h htable
    rw [show catalog.tables = some slice from hslice]
    refine (rustBridgeTableEntry_spec F ⟨address, parts, columns, rest + others, by abel, hcolumns,
      hderef.leaves_frame others⟩).mono ?_
    rintro entry _ ⟨rfl, hname, hentry⟩
    exact ⟨rfl, hname, hentry index⟩
  · rintro items _ ⟨rfl, hitems⟩
    refine Triple.pure ⟨rfl, fun name => ?_⟩
    unfold RustBridgeSchemaCatalogEntry.lookupEntry schemaInfo
      SuperhumanDocs.RustBridgeSchemaCatalogEntry.lookupEntry
      SuperhumanDocs.RustBridgeSchemaCatalogEntry.new
    rw [KeyMap.find_ofList, KeyMap.find_ofList]
    exact KeyMap.latest_rel hitems name

end

end SuperhumanDocs.Raw
