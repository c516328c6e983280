import Mathlib.Tactic.Tauto
import SuperhumanDocs.Bridge.Planning
import SuperhumanDocs.Bridge.Reference

/-!
# What the pushdown takes out

A filter is `Pushable` when it is an equality, in either order, between a column of the scan that
the server can filter and a constant that has a literal.

* `tryExtract_iff`: exactly the pushable filters have a query.
* `pushdown_loses_nothing`: over all calls with one bind data at most one filter is removed, a
  pushable one, and the query stands for it.
-/

set_option autoImplicit false

namespace SuperhumanDocs

open Binary (Binary64 F64)
open Effect (bind_eq_ok)
open Json (SerdeJson)

section
variable {F ρ : Type}

/-- All filters hold. -/
def AllHold (holds : LogicalGet → Expression F → ρ → Prop)
    (calls : List (LogicalGet × List (Expression F))) (r : ρ) : Prop :=
  ∀ call ∈ calls, ∀ expr ∈ call.2, holds call.1 expr r

theorem allHold_append (holds : LogicalGet → Expression F → ρ → Prop)
    (before after : List (LogicalGet × List (Expression F))) (r : ρ) :
    AllHold holds (before ++ after) r ↔ AllHold holds before r ∧ AllHold holds after r :=
  List.forall_mem_append

theorem allHold_cons (holds : LogicalGet → Expression F → ρ → Prop)
    (get : LogicalGet) (filters : List (Expression F))
    (calls : List (LogicalGet × List (Expression F))) (r : ρ) :
    AllHold holds ((get, filters) :: calls) r ↔
      (∀ expr ∈ filters, holds get expr r) ∧ AllHold holds calls r :=
  List.forall_mem_cons

end

section
variable {F : Type} [F64 F] [SerdeJson]

theorem buildEqualityQuery_eq_ok {columnId columnName : String} {input : RustExtInputValue F}
    {query description : String} (hn : input.valueType ≠ rustExtInputNull) :
    buildEqualityQuery columnId columnName input = .ok (query, description) ↔
      description = s!"{columnName} = {queryDescription input}" ∧
      ∃ literal, inputValueJson input = .ok literal ∧
        query = columnId ++ ":" ++ literal.print := by
  unfold buildEqualityQuery
  rw [if_neg hn]
  constructor
  · intro h
    obtain ⟨literal, hliteral, h⟩ := bind_eq_ok.1 h
    cases h
    exact ⟨rfl, literal, hliteral, rfl⟩
  · intro ⟨hdescription, literal, hliteral, hquery⟩
    rw [hdescription, hquery]
    exact bind_eq_ok.2 ⟨literal, hliteral, rfl⟩

variable [DuckDb F]

/-! ## Pushable filters -/

/-- The binding is a column of the table that this scan reads. -/
def IsColumn (get : LogicalGet) (table : RustBridgeTableInfo) (binding : ColumnBinding)
    (column : Column) : Prop :=
  binding.tableIndex = get.tableIndex ∧ ∃ columnIndex info,
    get.columnIds[binding.columnIndex]? = some columnIndex ∧
    columnIndex.isVirtualColumn = false ∧
    table.columns[columnIndex.primaryIndex]? = some info ∧ info.column.handle = some column

/-- An equality between a column and a constant, and its query. -/
structure Pushable (get : LogicalGet) (table : RustBridgeTableInfo) (expr : Expression F)
    (column : Column) (constant : DuckValue F) (query : String) : Prop where
  equality : ∃ binding, IsColumn get table binding column ∧
    (expr = .comparison .equal (.columnRef binding) (.constant constant) ∨
      expr = .comparison .equal (.constant constant) (.columnRef binding))
  capability : supports column.capabilities rustExtColumnFilterEquality = true
  non_null : constant.isNull = false
  query : ∃ input literal, convert constant = .ok input ∧ inputValueJson input = .ok literal ∧
    query = column.id ++ ":" ++ literal.print

/-- A binding with a query is a column that can be filtered on. -/
theorem equalityFilter_column {get : LogicalGet} {table : RustBridgeTableInfo}
    {binding : ColumnBinding} {constant : DuckValue F} {query : String × String}
    (h : equalityFilter get table binding constant = .ok (some query)) :
    ∃ column, IsColumn get table binding column ∧
      supports column.capabilities rustExtColumnFilterEquality = true ∧
      constant.isNull = false := by
  unfold equalityFilter at h
  split at h
  · cases h
  rename_i htable
  split at h
  · cases h
  rename_i columnIndex hindex
  split at h
  · cases h
  rename_i hvirtual
  split at h
  · cases h
  rename_i info hinfo
  split at h
  · cases h
  rename_i hcan
  cases hhandle : info.column.handle with
  | none => simp [hhandle, rustExtScanCanFilterEquality, columnFromHandle, refFromRaw] at hcan
  | some column =>
    simp only [hhandle, rustExtScanCanFilterEquality, columnFromHandle, refFromRaw,
      Bool.or_eq_true, Bool.not_eq_true', not_or, Bool.not_eq_false, Bool.not_eq_true] at hcan
    exact ⟨column, ⟨Classical.not_not.1 htable, columnIndex, info, hindex,
      Bool.eq_false_iff.2 hvirtual, hinfo, hhandle⟩, hcan⟩

/-- The query of such a column is the one Rust builds. -/
theorem equalityFilter_eq_some {get : LogicalGet} {table : RustBridgeTableInfo}
    {binding : ColumnBinding} {constant : DuckValue F} {query : String × String} {column : Column}
    (hcolumn : IsColumn get table binding column)
    (hcan : supports column.capabilities rustExtColumnFilterEquality = true)
    (hnull : constant.isNull = false) :
    equalityFilter get table binding constant = .ok (some query) ↔
      ∃ input, convert constant = .ok input ∧
        rustExtBuildEqualityQuery (some column) input = .ok query := by
  obtain ⟨htable, columnIndex, info, hindex, hvirtual, hinfo, hhandle⟩ := hcolumn
  simp only [equalityFilter, htable, ne_eq, not_true_eq_false, if_false, hindex, hvirtual, hinfo,
    hhandle, rustExtScanCanFilterEquality, columnFromHandle, refFromRaw, hcan, hnull,
    Bool.not_true, Bool.or_self, Bool.false_eq_true, bind_eq_ok]
  refine exists_congr fun input => and_congr_right fun _ => ?_
  cases rustExtBuildEqualityQuery (some column) input with
  | error e => exact iff_of_false (fun h => by cases h) fun h => by cases h
  | ok built => simp [pure, Except.pure]

/-- **A column and a constant have a query exactly when they are pushable.** -/
theorem equalityFilter_iff {get : LogicalGet} {table : RustBridgeTableInfo}
    {binding : ColumnBinding} {constant : DuckValue F} {query : String} :
    (∃ description, equalityFilter get table binding constant = .ok (some (query, description))) ↔
      ∃ column, IsColumn get table binding column ∧
        supports column.capabilities rustExtColumnFilterEquality = true ∧
        constant.isNull = false ∧
        ∃ input literal, convert constant = .ok input ∧ inputValueJson input = .ok literal ∧
          query = column.id ++ ":" ++ literal.print := by
  have hne (input : RustExtInputValue F) (hnull : constant.isNull = false)
      (hinput : convert constant = .ok input) : input.valueType ≠ rustExtInputNull := by
    rw [convert_valueType hinput]
    exact inputType_ne_null hnull
  constructor
  · intro ⟨description, h⟩
    obtain ⟨column, hcolumn, hcan, hnull⟩ := equalityFilter_column h
    obtain ⟨input, hinput, hbuild⟩ := (equalityFilter_eq_some hcolumn hcan hnull).1 h
    obtain ⟨-, literal, hliteral, hquery⟩ :=
      (buildEqualityQuery_eq_ok (hne input hnull hinput)).1 hbuild
    exact ⟨column, hcolumn, hcan, hnull, input, literal, hinput, hliteral, hquery⟩
  · intro ⟨column, hcolumn, hcan, hnull, input, literal, hinput, hliteral, hquery⟩
    have hbuild : rustExtBuildEqualityQuery (some column) input =
        .ok (query, s!"{column.name} = {queryDescription input}") :=
      (buildEqualityQuery_eq_ok (hne input hnull hinput)).2 ⟨rfl, literal, hliteral, hquery⟩
    exact ⟨_, (equalityFilter_eq_some hcolumn hcan hnull).2 ⟨input, hinput, hbuild⟩⟩

/-- **Exactly the pushable filters have a query.** -/
theorem tryExtract_iff {get : LogicalGet} {table : RustBridgeTableInfo} {expr : Expression F}
    {query : String} :
    (∃ description, tryExtractRustBridgeEqualityFilter get table expr =
      .ok (some (query, description))) ↔
      ∃ column constant, Pushable get table expr column constant query := by
  constructor
  · intro ⟨description, h⟩
    unfold tryExtractRustBridgeEqualityFilter at h
    split at h
    · rename_i binding constant
      obtain ⟨column, hcolumn, hcan, hnull, hquery⟩ := equalityFilter_iff.1 ⟨description, h⟩
      exact ⟨column, constant, ⟨binding, hcolumn, .inl rfl⟩, hcan, hnull, hquery⟩
    · rename_i constant binding
      obtain ⟨column, hcolumn, hcan, hnull, hquery⟩ := equalityFilter_iff.1 ⟨description, h⟩
      exact ⟨column, constant, ⟨binding, hcolumn, .inr rfl⟩, hcan, hnull, hquery⟩
    · cases h
  · intro ⟨column, constant, hpush⟩
    obtain ⟨binding, hcolumn, hexpr⟩ := hpush.equality
    have hfilter := equalityFilter_iff.2
      ⟨column, hcolumn, hpush.capability, hpush.non_null, hpush.query⟩
    rcases hexpr with rfl | rfl
    · exact hfilter
    · exact hfilter

/-- A filter has one query at most. -/
theorem Pushable.query_unique {get : LogicalGet} {table : RustBridgeTableInfo}
    {expr : Expression F} {column column' : Column} {constant constant' : DuckValue F}
    {query query' : String} (h : Pushable get table expr column constant query)
    (h' : Pushable get table expr column' constant' query') : query = query' := by
  obtain ⟨description, hextract⟩ := tryExtract_iff.2 ⟨column, constant, h⟩
  obtain ⟨description', hextract'⟩ := tryExtract_iff.2 ⟨column', constant', h'⟩
  cases hextract.symm.trans hextract'
  rfl

theorem Pushable.query_ne_empty {get : LogicalGet} {table : RustBridgeTableInfo}
    {expr : Expression F} {column : Column} {constant : DuckValue F} {query : String}
    (h : Pushable get table expr column constant query) : query.isEmpty = false := by
  obtain ⟨input, literal, -, -, rfl⟩ := h.query
  apply Bool.eq_false_iff.2
  intro hempty
  have hlength := congrArg String.length (String.isEmpty_iff.1 hempty)
  simp at hlength

/-! ## One call -/

/-- What the loop finds: the first filter that has a query. -/
theorem extractFirst_some {get : LogicalGet} {table : RustBridgeTableInfo}
    {filters rest : List (Expression F)} {query : String × String}
    (h : extractFirst get table filters = .ok (some (query, rest))) :
    ∃ before expr after, filters = before ++ expr :: after ∧ rest = before ++ after ∧
      tryExtractRustBridgeEqualityFilter get table expr = .ok (some query) ∧
      ∀ e ∈ before, tryExtractRustBridgeEqualityFilter get table e = .ok none := by
  induction filters generalizing rest with
  | nil => cases h
  | cons expr filters ih =>
    obtain ⟨extracted, hextracted, h⟩ := bind_eq_ok.1 h
    cases extracted with
    | some found =>
      cases h
      exact ⟨[], expr, filters, rfl, rfl, hextracted, by simp⟩
    | none =>
      obtain ⟨later, hlater, h⟩ := bind_eq_ok.1 h
      cases later with
      | none => cases h
      | some found =>
        cases h
        obtain ⟨before, expr', after, rfl, hrest, hexpr, hbefore⟩ := ih hlater
        refine ⟨expr :: before, expr', after, rfl, ?_, hexpr, ?_⟩
        · rw [hrest]; rfl
        · exact List.forall_mem_cons.2 ⟨hextracted, hbefore⟩

/-- The bind data and the filters of a call in which the filter was pushed. -/
def Pushed (get : LogicalGet) (bindData bindData' : RustBridgeScanBindData)
    (filters filters' : List (Expression F)) : Prop :=
  ∃ before expr after column constant query description,
    filters = before ++ expr :: after ∧ filters' = before ++ after ∧
    Pushable get bindData.table expr column constant query ∧
    bindData' = { bindData with pushedQuery := query, pushedQueryDescription := description }

/-- **One call**: nothing changes, or the first call that can pushes one filter. -/
theorem pushdown_cases (get : LogicalGet) (bindData : RustBridgeScanBindData)
    (filters : List (Expression F)) :
    (rustBridgeScanPushdownComplexFilter get bindData filters).2 = (bindData, filters) ∨
      bindData.pushedQuery = "" ∧ Pushed get bindData
        (rustBridgeScanPushdownComplexFilter get bindData filters).2.1 filters
        (rustBridgeScanPushdownComplexFilter get bindData filters).2.2 := by
  unfold rustBridgeScanPushdownComplexFilter
  by_cases hempty : bindData.pushedQuery.isEmpty = true
  · rw [if_neg (by simp [hempty])]
    cases hfirst : extractFirst get bindData.table filters with
    | error e => exact .inl rfl
    | ok found =>
      cases found with
      | none => exact .inl rfl
      | some found =>
        obtain ⟨⟨query, description⟩, rest⟩ := found
        obtain ⟨before, expr, after, hfilters, hrest, hexpr, -⟩ := extractFirst_some hfirst
        obtain ⟨column, constant, hpush⟩ := tryExtract_iff.1 ⟨description, hexpr⟩
        refine .inr ⟨by simpa using hempty, before, expr, after, column, constant, query,
          description, hfilters, hrest, hpush, rfl⟩
  · rw [if_pos (by simp [hempty])]
    exact .inl rfl

/-! ## All calls -/

theorem pushdown_pushed {bindData : RustBridgeScanBindData} (h : bindData.pushedQuery.isEmpty = false)
    (calls : List (LogicalGet × List (Expression F))) :
    pushdownCalls bindData calls = (bindData, calls) := by
  induction calls with
  | nil => rfl
  | cons call calls ih =>
    obtain ⟨get, filters⟩ := call
    have hnext : rustBridgeScanPushdownComplexFilter get bindData filters =
        (.ok (), bindData, filters) := by
      rw [rustBridgeScanPushdownComplexFilter, if_pos (by simp [h])]
    simp only [pushdownCalls, hnext, ih]

/-- **All calls with one bind data**: nothing changes, or one call pushes one filter. -/
theorem pushdownCalls_cases (bindData : RustBridgeScanBindData)
    (calls : List (LogicalGet × List (Expression F))) :
    pushdownCalls bindData calls = (bindData, calls) ∨
      bindData.pushedQuery = "" ∧ ∃ before get filters filters' after,
        calls = before ++ (get, filters) :: after ∧
        (pushdownCalls bindData calls).2 = before ++ (get, filters') :: after ∧
        Pushed get bindData (pushdownCalls bindData calls).1 filters filters' := by
  induction calls with
  | nil => exact .inl rfl
  | cons call calls ih =>
    obtain ⟨get, filters⟩ := call
    rcases pushdown_cases get bindData filters with hsame | ⟨hempty, hpushed⟩
    · simp only [pushdownCalls, hsame]
      rcases ih with hcalls | ⟨hempty, before, get', filters₁, filters₂, after, hcalls, hrest, hpushed⟩
      · rw [hcalls]
        exact .inl rfl
      · refine .inr ⟨hempty, (get, filters) :: before, get', filters₁, filters₂, after, ?_, ?_,
          hpushed⟩
        · rw [hcalls]; rfl
        · rw [hrest]; rfl
    · -- from now on a query is pushed, so the later calls change nothing
      obtain ⟨before, expr, after, column, constant, query, description, hfilters, hfilters',
        hpush, hbindData⟩ := hpushed
      have hpushed : (rustBridgeScanPushdownComplexFilter get bindData
          filters).2.1.pushedQuery.isEmpty = false := by
        rw [hbindData]
        exact hpush.query_ne_empty
      have hlater := pushdown_pushed hpushed calls
      simp only [pushdownCalls, hlater]
      exact .inr ⟨hempty, [], get, filters, _, calls, rfl, rfl, before, expr, after, column,
        constant, query, description, hfilters, hfilters', hpush, hbindData⟩

/-! ## What is kept -/

/-- The server evaluates a query as the equality it was made from; no query keeps every row. -/
structure Evaluates {ρ : Type} (table : RustBridgeTableInfo) (serves : String → ρ → Prop)
    (holds : LogicalGet → Expression F → ρ → Prop) : Prop where
  no_query : ∀ r, serves "" r
  query : ∀ get expr column constant query, Pushable get table expr column constant query →
    ∀ r, serves query r ↔ holds get expr r

/-- **The pushdown loses no predicate.** -/
theorem pushdown_loses_nothing (bindData : RustBridgeScanBindData)
    (calls : List (LogicalGet × List (Expression F))) :
    (pushdownCalls bindData calls = (bindData, calls) ∨
      bindData.pushedQuery = "" ∧ ∃ before get filters filters' after,
        calls = before ++ (get, filters) :: after ∧
        (pushdownCalls bindData calls).2 = before ++ (get, filters') :: after ∧
        Pushed get bindData (pushdownCalls bindData calls).1 filters filters') ∧
    ((∀ call ∈ calls, ∀ expr ∈ call.2, ∀ column constant query,
        ¬ Pushable call.1 bindData.table expr column constant query) →
      pushdownCalls bindData calls = (bindData, calls)) ∧
    (∀ (ρ : Type) (serves : String → ρ → Prop) (holds : LogicalGet → Expression F → ρ → Prop),
      Evaluates bindData.table serves holds → ∀ r,
        (serves (pushdownCalls bindData calls).1.pushedQuery r ∧
            AllHold holds (pushdownCalls bindData calls).2 r ↔
          serves bindData.pushedQuery r ∧ AllHold holds calls r)) := by
  have hcases := pushdownCalls_cases bindData calls
  refine ⟨hcases, ?_, ?_⟩
  · intro hnone
    rcases hcases with hsame | ⟨-, before, get, filters, filters', after, hcalls, -, hpushed⟩
    · exact hsame
    · obtain ⟨pre, expr, post, column, constant, query, description, hfilters, -, hpush, -⟩ :=
        hpushed
      refine absurd hpush (hnone (get, filters) ?_ expr ?_ column constant query)
      · simp [hcalls]
      · simp [hfilters]
  · intro ρ serves holds heval r
    rcases hcases with hsame | ⟨hempty, before, get, filters, filters', after, hcalls, hrest, hpushed⟩
    · rw [hsame]
    · obtain ⟨pre, expr, post, column, constant, query, description, hfilters, hfilters', hpush,
        hbindData⟩ := hpushed
      have hquery := heval.query get expr column constant query hpush r
      rw [hrest, hbindData, hempty, hcalls, hfilters, hfilters']
      simp only [allHold_append, allHold_cons, List.forall_mem_append, List.forall_mem_cons,
        hquery, heval.no_query r, true_and]
      tauto

end

/-! ## A filter on a text column -/

open Json.Reference Reference

/-- A scan of one text column. -/
def textGet : LogicalGet where
  tableIndex := 7
  columnIds := [⟨0⟩]

def textTable : RustBridgeTableInfo :=
  borrowRustBridgeTableInfo Binary64 (ffiCatalogTable table [textColumn "c1"])

/-- `c1 = 'Ada'`. -/
def textFilter : Expression Binary64 :=
  .comparison .equal (.columnRef ⟨7, 0⟩) (.constant (.text "Ada" ""))

/-- A server that compares the texts of cells. -/
def servesCells (query : String) (cells : List (String × Json.Value)) : Prop :=
  query = "" ∨ ∃ cell ∈ cells, query = cell.1 ++ ":" ++ cell.2.print

/-- A filter that can be pushed holds where the server says so. -/
def holdsCells (get : LogicalGet) (expr : Expression Binary64)
    (cells : List (String × Json.Value)) : Prop :=
  ∃ column constant query, Pushable get textTable expr column constant query ∧
    servesCells query cells

theorem evaluatesCells : Evaluates textTable servesCells holdsCells where
  no_query cells := .inl rfl
  query get expr column constant query hpush cells := by
    constructor
    · intro hserves
      exact ⟨column, constant, query, hpush, hserves⟩
    · intro ⟨column', constant', query', hpush', hserves⟩
      rw [hpush.query_unique hpush']
      exact hserves

theorem pushdown_loses_nothing_text :
    servesCells (pushdownCalls (.new textTable) [(textGet, [textFilter])]).1.pushedQuery
        [("c1", .string "Ada")] ∧
      AllHold holdsCells (pushdownCalls (.new textTable) [(textGet, [textFilter])]).2
        [("c1", .string "Ada")] ↔
    servesCells (RustBridgeScanBindData.new textTable).pushedQuery [("c1", .string "Ada")] ∧
      AllHold holdsCells [(textGet, [textFilter])] [("c1", .string "Ada")] :=
  (pushdown_loses_nothing (.new textTable) [(textGet, [textFilter])]).2.2 _ servesCells holdsCells
    evaluatesCells [("c1", .string "Ada")]

example : (pushdownCalls (.new textTable) [(textGet, [textFilter])]).1.pushedQuery =
    "c1:\"Ada\"" := by
  decide +kernel

end SuperhumanDocs
