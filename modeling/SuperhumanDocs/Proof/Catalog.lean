import SuperhumanDocs.Bridge.Reference
import SuperhumanDocs.Bridge.Schema
import SuperhumanDocs.Proof.Columns

/-!
# From the loaded catalog to the schema

* `loadCatalog_columns`: the columns of every table of a loaded catalog have valid names.
* `tables_reachable_iff`: the schema has an entry of its own for every table of the catalog exactly
  when the names of the tables are pairwise different up to ASCII case. Of the tables of one name
  only the last is left.
-/

set_option autoImplicit false

namespace SuperhumanDocs

open Binary (Binary64 F64)
open Json (SerdeJson)
open Naming (KeyMap)

/-! ## The columns of a loaded catalog -/

section
variable [SerdeJson]

theorem loadColumns_valid {docId tableId : String} {includeSystemColumns : Bool}
    {replies : List Reply} {columns : List Column}
    (h : (loadColumns docId tableId includeSystemColumns replies).result = .ok columns) :
    ValidNames columns := by
  unfold loadColumns CatalogCall.map at h
  cases hpages : (columnPages docId tableId [] "" replies).result with
  | error stop => rw [hpages] at h; cases h
  | ok all =>
    rw [hpages] at h
    cases h
    exact prepareColumns_valid _

theorem loadTables_valid {docId : String} {includeSystemColumns : Bool} {tables : List Table}
    {replies : List Reply} {loaded : List (Table × List Column)}
    (h : (loadTables docId includeSystemColumns tables replies).result = .ok loaded) :
    ∀ entry ∈ loaded, ValidNames entry.2 := by
  induction tables generalizing replies loaded with
  | nil => cases h; simp
  | cons table tables ih =>
    rw [loadTables, CatalogCall.andThen] at h
    cases hcolumns : (loadColumns docId table.id includeSystemColumns replies).result with
    | error stop => rw [hcolumns] at h; cases h
    | ok columns =>
      rw [hcolumns] at h
      simp only [CatalogCall.map] at h
      cases hrest : (loadTables docId includeSystemColumns tables
          (loadColumns docId table.id includeSystemColumns replies).replies).result with
      | error stop => rw [hrest] at h; cases h
      | ok rest =>
        rw [hrest] at h
        cases h
        intro entry hentry
        rcases List.mem_cons.1 hentry with rfl | hentry
        · exact loadColumns_valid hcolumns
        · exact ih hrest entry hentry

theorem tablePages_valid {docId : String} {includeSystemColumns : Bool}
    {all : List (Table × List Column)} {pageToken : String} {replies : List Reply}
    {loaded : List (Table × List Column)} (hall : ∀ entry ∈ all, ValidNames entry.2)
    (h : (tablePages docId includeSystemColumns all pageToken replies).result = .ok loaded) :
    ∀ entry ∈ loaded, ValidNames entry.2 := by
  induction hn : replies.length using Nat.strong_induction_on
    generalizing all pageToken replies loaded with
  | _ n ih =>
    cases replies with
    | nil => rw [tablePages] at h; cases h
    | cons reply replies =>
      rw [tablePages] at h
      cases hpage : execute reply >>= tableListFromJson with
      | error e => rw [hpage] at h; cases h
      | ok page =>
        simp only [hpage] at h
        cases htables : (loadTables docId includeSystemColumns page.items replies).result with
        | error stop => simp only [htables] at h; cases h
        | ok tables =>
          simp only [htables] at h
          have hmore : ∀ entry ∈ all ++ tables, ValidNames entry.2 := by
            intro entry hentry
            rcases List.mem_append.1 hentry with hentry | hentry
            · exact hall entry hentry
            · exact loadTables_valid htables entry hentry
          by_cases hlast : page.nextPageToken.isEmpty = true
          · rw [if_pos hlast] at h
            cases h
            exact hmore
          · rw [if_neg hlast] at h
            apply ih _ _ hmore h rfl
            have := loadTables_replies docId includeSystemColumns page.items replies
            simp only [List.length_cons] at hn
            omega

/-- **Every table of a loaded catalog has columns with valid names.** -/
theorem loadCatalog_columns {newClient : ClientConfig → Except String Unit} {config : ClientConfig}
    {replies : List Reply} {catalog : List RustExtCatalogTable}
    (h : (loadCatalog newClient config replies).result = .ok catalog) :
    ∀ rawTable ∈ catalog, ∃ table columns, rawTable = ffiCatalogTable table columns ∧
      ValidNames columns := by
  unfold loadCatalog at h
  cases hclient : newClient config with
  | error e => rw [hclient] at h; cases h
  | ok _ =>
    rw [hclient] at h
    simp only [CatalogCall.map] at h
    cases hpages : (tablePages config.resource config.includeSystemColumns [] "" replies).result with
    | error stop => rw [hpages] at h; cases h
    | ok loaded =>
      rw [hpages] at h
      cases h
      intro rawTable hraw
      obtain ⟨entry, hentry, rfl⟩ := List.mem_map.1 hraw
      exact ⟨entry.1, entry.2, rfl, tablePages_valid (by simp) hpages entry hentry⟩

end

/-! ## The entries of the schema -/

section
variable (F : Type) [F64 F] [SerdeJson] [DuckDb F]

/-- Every table of the catalog has an entry of its own: a scan visits each table once, and each
table is found under some name. -/
structure TablesReachable (catalog : List RustExtCatalogTable) : Prop where
  scanned : ∀ visited, (RustBridgeSchemaCatalogEntry.new F catalog).Scans visited →
    (visited.map (·.tableIndex)).Perm (List.range catalog.length)
  found : ∀ (i : Nat) (rawTable : RustExtCatalogTable), catalog[i]? = some rawTable →
    ∃ name, (RustBridgeSchemaCatalogEntry.new F catalog).lookupEntry name =
      some { tableIndex := i, table := borrowRustBridgeTableInfo F rawTable }

variable {F}
variable {catalog : List RustExtCatalogTable}

theorem entries_getElem? (catalog : List RustExtCatalogTable) (i : Nat) :
    (catalog.mapIdx (rustBridgeTableEntry F))[i]? =
      catalog[i]?.map (rustBridgeTableEntry F i) := List.getElem?_mapIdx

/-- An entry is found only for the last table of its name. -/
theorem lookupEntry_last {name : String} {i j : Nat} {table : RustBridgeTableInfo}
    {a b : RustExtCatalogTable}
    (h : (RustBridgeSchemaCatalogEntry.new F catalog).lookupEntry name = some ⟨i, table⟩)
    (ha : catalog[i]? = some a) (hb : catalog[j]? = some b) (hij : i < j) :
    eqIgnoreAsciiCase a.name b.name = false := by
  unfold RustBridgeSchemaCatalogEntry.lookupEntry RustBridgeSchemaCatalogEntry.new at h
  rw [KeyMap.find_ofList] at h
  obtain ⟨earlier, item, later, hitems, hentry, hkey, hlater⟩ := KeyMap.latest_eq_some h
  have hitem := entries_getElem? (F := F) catalog earlier.length
  rw [hitems, List.getElem?_append_right (le_refl _), Nat.sub_self, List.getElem?_cons_zero] at hitem
  obtain ⟨raw, hraw, hitem⟩ := Option.map_eq_some_iff.1 hitem.symm
  -- the entry found is the one of its own index
  have hindex : earlier.length = i := by
    have := congrArg (fun item => item.2.tableIndex) hitem
    rw [hentry] at this
    exact this
  rw [hindex, ha, Option.some.injEq] at hraw
  have hother := entries_getElem? (F := F) catalog j
  rw [hitems, List.getElem?_append_right (by omega), hb,
    show j - earlier.length = (j - i - 1) + 1 by omega, List.getElem?_cons_succ] at hother
  have hne := hlater _ (List.mem_of_getElem? hother)
  rw [← hkey, ← hitem, ← hraw] at hne
  simpa [eqIgnoreAsciiCase] using Ne.symm hne

/-- With different names every table keeps its entry. -/
theorem entries_of_distinct
    (h : catalog.Pairwise fun a b => eqIgnoreAsciiCase a.name b.name = false) :
    (RustBridgeSchemaCatalogEntry.new F catalog).entries.entries =
      catalog.mapIdx (rustBridgeTableEntry F) := by
  apply KeyMap.ofList_entries
  rw [List.pairwise_iff_getElem] at h ⊢
  intro i j hi hj hij
  simp only [List.length_mapIdx] at hi hj
  have hne := h i j hi hj hij
  rw [List.getElem_mapIdx, List.getElem_mapIdx]
  simpa [eqIgnoreAsciiCase] using hne

theorem distinct_of_reachable (h : TablesReachable F catalog) :
    catalog.Pairwise fun a b => eqIgnoreAsciiCase a.name b.name = false := by
  rw [List.pairwise_iff_getElem]
  intro i j hi hj hij
  obtain ⟨name, hfound⟩ := h.found i catalog[i] (List.getElem?_eq_getElem hi)
  exact lookupEntry_last hfound (List.getElem?_eq_getElem hi) (List.getElem?_eq_getElem hj) hij

/-- With different names each table is found under its name. -/
theorem lookupEntry_of_distinct
    (h : catalog.Pairwise fun a b => eqIgnoreAsciiCase a.name b.name = false) {i : Nat}
    {rawTable : RustExtCatalogTable} (hraw : catalog[i]? = some rawTable) :
    (RustBridgeSchemaCatalogEntry.new F catalog).lookupEntry rawTable.name =
      some { tableIndex := i, table := borrowRustBridgeTableInfo F rawTable } := by
  have hmem : rustBridgeTableEntry F i rawTable ∈
      (RustBridgeSchemaCatalogEntry.new F catalog).entries.entries := by
    apply List.mem_of_getElem? (i := i)
    rw [entries_of_distinct h, entries_getElem?, hraw, Option.map_some]
  exact KeyMap.find_of_mem hmem

theorem reachable_of_distinct
    (h : catalog.Pairwise fun a b => eqIgnoreAsciiCase a.name b.name = false) :
    TablesReachable F catalog where
  scanned visited hvisited := by
    have hperm := List.Perm.map (·.tableIndex) hvisited
    rw [entries_of_distinct h] at hperm
    refine hperm.trans (List.Perm.of_eq ?_)
    apply List.ext_getElem
    · simp
    · intro i hi _
      simp [rustBridgeTableEntry]
  found _ rawTable hraw := ⟨rawTable.name, lookupEntry_of_distinct h hraw⟩

variable (F) in
/-- **Every table has an entry of its own exactly when the names differ.** -/
theorem tables_reachable_iff (catalog : List RustExtCatalogTable) :
    TablesReachable F catalog ↔
      catalog.Pairwise fun a b => eqIgnoreAsciiCase a.name b.name = false :=
  ⟨distinct_of_reachable, reachable_of_distinct⟩

end

/-! ## A document with two tables -/

open Json.Reference Reference

/-- A page of tables by their ids and names. -/
def tablesPage (items : List (String × String)) : Json.Value :=
  listingPage (items.map fun item => tableJson (listedTable item.1 item.2)) ""

/-- The listing of the tables, and for each table the listing of the columns. -/
def catalogReplies (columns : List Column) (items : List (String × String)) : List Reply :=
  reply 200 (tablesPage items) ::
    items.map fun _ => reply 200 (listingPage (columns.map columnJson) "")

def listedCatalog (columns : List Column) (items : List (String × String)) :
    List RustExtCatalogTable :=
  items.map fun item => ffiCatalogTable (listedTable item.1 item.2) (prepareColumns columns)

variable {columns : List Column} (hlisted : ∀ column ∈ columns,
  column = formatColumn column.id column.name column.formatType column.isArray)
include hlisted

theorem loadTables_listing (items : List (String × String)) (rest : List Reply) :
    loadTables "doc" false (items.map fun item => listedTable item.1 item.2)
        ((items.map fun _ => reply 200 (listingPage (columns.map columnJson) "")) ++ rest) =
      { result := .ok (items.map fun item =>
          (listedTable item.1 item.2, prepareColumns columns))
        sent := items.map fun item => .columns (listColumnsInput "doc" item.1 "")
        replies := rest } := by
  induction items with
  | nil => rfl
  | cons item items ih =>
    simp only [List.map_cons, List.cons_append, loadTables, CatalogCall.andThen,
      loadColumns_page hlisted, ih]
    rfl

/-- Tables of any names can be loaded. -/
theorem loadCatalog_listing (items : List (String × String)) (rest : List Reply) :
    loadCatalog (fun _ => .ok ()) config (catalogReplies columns items ++ rest) =
      { result := .ok (listedCatalog columns items)
        sent := .tables (listTablesInput "doc" "") ::
          items.map fun item => .columns (listColumnsInput "doc" item.1 "")
        replies := rest } := by
  have hread : execute (reply 200 (tablesPage items)) >>= tableListFromJson =
      .ok { items := items.map fun item => listedTable item.1 item.2, nextPageToken := "" } := by
    rw [execute_reply]
    exact tables_page items ""
  simp only [loadCatalog, catalogReplies, CatalogCall.map, List.cons_append]
  rw [tablePages]
  simp only [hread]
  rw [show config.resource = "doc" from rfl, show config.includeSystemColumns = false from rfl,
    loadTables_listing hlisted]
  simp [listedCatalog, Except.map]

omit hlisted

/-! ### A document with one table -/

theorem loadCatalog_document (rest : List Reply) :
    loadCatalog (fun _ => .ok ()) config
        (catalogReplies [textColumn "c1"] [("t1", "Tasks")] ++ rest) =
      { result := .ok [ffiCatalogTable table [textColumn "c1"]]
        sent := [.tables (listTablesInput "doc" ""), .columns (listColumnsInput "doc" "t1" "")]
        replies := rest } := by
  have hvalid : ValidNames [textColumn "c1"] :=
    ⟨by simp [textColumn], List.pairwise_singleton _ _⟩
  rw [loadCatalog_listing (by simp [textColumn_eq, formatColumn]), listedCatalog,
    prepareColumns_of_valid hvalid]
  rfl

theorem lookupEntry_document : (RustBridgeSchemaCatalogEntry.new Binary64
    [ffiCatalogTable table [textColumn "c1"]]).lookupEntry "Tasks" =
      some { tableIndex := 0, table := (bindData 0).table } := by
  have hraw : [ffiCatalogTable table [textColumn "c1"]][0]? =
      some (ffiCatalogTable table [textColumn "c1"]) := rfl
  exact lookupEntry_of_distinct (List.pairwise_singleton _ _) hraw

/-- **One of two tables whose names differ in case only is lost.** -/
theorem table_lost_by_case :
    (loadCatalog (fun _ => .ok ()) config
        (catalogReplies [] [("t1", "Tasks"), ("t2", "tasks")])).result =
      .ok (listedCatalog [] [("t1", "Tasks"), ("t2", "tasks")]) ∧
    ¬ TablesReachable Binary64 (listedCatalog [] [("t1", "Tasks"), ("t2", "tasks")]) := by
  have hloaded := @loadCatalog_listing [] (by simp) [("t1", "Tasks"), ("t2", "tasks")] []
  rw [List.append_nil] at hloaded
  refine ⟨congrArg CatalogCall.result hloaded, fun h => ?_⟩
  have hdistinct := distinct_of_reachable h
  have hsame : "Tasks".toLower = "tasks".toLower := Naming.toLower_eq_iff.2 (by decide +kernel)
  simp [listedCatalog, ffiCatalogTable, listedTable, eqIgnoreAsciiCase, hsame] at hdistinct

end SuperhumanDocs
