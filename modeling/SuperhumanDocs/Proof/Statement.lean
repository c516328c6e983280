import SuperhumanDocs.Bridge.Statement
import SuperhumanDocs.Proof.Alignment
import SuperhumanDocs.Proof.Capabilities
import SuperhumanDocs.Proof.ScanRun

/-!
# What a statement writes

The rows that a statement scans, filters and projects are written in this order, each once, however
DuckDB cuts them into chunks and interleaves scanning and writing.

* `chunk_writes`: the rows written for a chunk are its first rows.
* `Statement.Took.push`: the same of a sink, on top of what it took before.
* `statement_writes`: the rows a statement writes, up to a failure.
-/

set_option autoImplicit false

namespace SuperhumanDocs

open Binary (Binary64 F64)
open Effect (Blocks Outcome Succeeds bind_eq_ok mapError_eq_ok mapM_eq_ok not_succeeds_error
  runFrom runFrom_result_iff run_bind_eq_ok run_ofExcept_bind_eq_ok run_pure_eq_ok run_throw_eq_ok
  succeeds_mapError)
open Json (SerdeJson)
open Relation (ReflTransGen)
open Streaming (Pipe)

/-! ## Rows in requests -/

section
variable {F : Type}

inductive RowChange (F : Type) where
  | insert (row : Operations.RowEdit F)
  | update (rowId : String) (row : Operations.RowEdit F)
  | delete (rowId : String)

/-- A change of one row of a table. -/
structure RowWrite (F : Type) where
  docId : String
  tableIdOrName : String
  change : RowChange F

def Operation.rowWrites : Operation F → List (RowWrite F)
  | upsertRows input =>
    input.payload.rows.map fun row => ⟨input.docId, input.tableIdOrName, .insert row⟩
  | updateRow input =>
    [⟨input.docId, input.tableIdOrName, .update input.rowIdOrName input.payload.row⟩]
  | deleteRows input =>
    input.payload.rowIds.map fun rowId => ⟨input.docId, input.tableIdOrName, .delete rowId⟩
  | mutationStatus _ => []

/-- The rows the requests change, in order. -/
def rowWrites (t : List (Call F)) : List (RowWrite F) := t.flatMap fun c => c.operation.rowWrites

@[simp] theorem rowWrites_nil : rowWrites ([] : List (Call F)) = [] := rfl

@[simp] theorem rowWrites_append (t₁ t₂ : List (Call F)) :
    rowWrites (t₁ ++ t₂) = rowWrites t₁ ++ rowWrites t₂ := List.flatMap_append ..

/-- Only mutations change rows. -/
theorem rowWrites_eq (t : List (Call F)) :
    rowWrites t = (mutations t).flatMap Operation.rowWrites := by
  induction t with
  | nil => rfl
  | cons c t ih =>
    rw [rowWrites, List.flatMap_cons, ← rowWrites, ih]
    cases hop : c.operation <;>
      simp [mutations, List.filter_cons, hop, Operation.isMutation, Operation.rowWrites]

/-! ## Blocks of requests -/

section
variable [SerdeJson] {config : ClientConfig} {ops ops' : List (Operation F)} {t t' : List (Call F)}

theorem Served.nil : Served config ([] : List (Operation F)) [] := ⟨by simp, Blocks.nil⟩

theorem Served.append (h : Served config ops t) (h' : Served config ops' t') :
    Served config (ops ++ ops') (t ++ t') := by
  obtain ⟨hops, blocks, hblocks, rfl⟩ := h
  obtain ⟨hops', blocks', hblocks', rfl⟩ := h'
  refine ⟨fun op hop => (List.mem_append.1 hop).elim (hops op) (hops' op), blocks ++ blocks',
    List.rel_append hblocks hblocks', List.flatten_append.symm⟩

theorem Served.append_interrupted (h : Served config ops t) (h' : Interrupted config ops' t') :
    Interrupted config (ops ++ ops') (t ++ t') := by
  obtain ⟨settled, last, t₁, t₂, rfl, rfl, hserved, hlast⟩ := h'
  exact ⟨ops ++ settled, last, t ++ t₁, t₂, by simp, by simp, h.append hserved, hlast⟩

end

end

/-! ## The rows of a chunk -/

section
variable {F : Type} [F64 F] [SerdeJson] [DuckDb F]

/-- The change a sink makes for a row of a chunk of a width. -/
inductive Sink.Changes (width : Nat) (row : List (DuckValue F)) : Sink → RowChange F → Prop
  | insert {table : RustBridgeTableInfo} {edit : Operations.RowEdit F} :
      InsertsRow table row edit → Changes width row (.insert table) (.insert edit)
  | update {table : RustBridgeTableInfo} {assignments : List Assignment} {rowId : String}
      {edit : Operations.RowEdit F} :
      chunkRowId (width - 1) row = .ok rowId → UpdatesRow table assignments row edit →
      Changes width row (.update table assignments) (.update rowId edit)
  | delete {table : RustBridgeTableInfo} {rowIdIndex : Nat} {rowId : String} :
      chunkRowId rowIdIndex row = .ok rowId →
      Changes width row (.delete table rowIdIndex) (.delete rowId)

/-- The write is the change of the sink, to a row of its table. -/
def Sink.Writes (config : ClientConfig) (sink : Sink) (width : Nat) (row : List (DuckValue F))
    (write : RowWrite F) : Prop :=
  ∃ table, sink.table.table.handle = some table ∧ write.docId = config.resource ∧
    write.tableIdOrName = table.id ∧ sink.Changes width row write.change

end

section
variable {F σ : Type} [F64 F] [SerdeJson] (w : World F σ) (config : ClientConfig)

/-- **A call that returns returns the number of its rows.** -/
theorem dml_returns {table : Table} {call : Dml F} {s : σ} {count : Nat}
    (h : (runFrom (call.run w config table) s).result = .ok count) : count = call.rowCount := by
  obtain ⟨s', h⟩ := runFrom_result_iff.1 h
  cases call with
  | insert columns values rowCount valueColumnCount =>
    obtain ⟨_, -, h⟩ := run_ofExcept_bind_eq_ok.1 h
    obtain ⟨_, -, h⟩ := run_ofExcept_bind_eq_ok.1 h
    obtain ⟨_, _, -, h⟩ := run_bind_eq_ok.1 h
    exact (run_pure_eq_ok.1 h).1.symm
  | update rowIds columns values =>
    simp only [Dml.run, updateRows] at h
    split at h
    · obtain ⟨_, _, hthrow, -⟩ := run_bind_eq_ok.1 h
      exact (run_throw_eq_ok.1 hthrow).elim
    split at h
    · obtain ⟨_, _, hthrow, -⟩ := run_bind_eq_ok.1 h
      exact (run_throw_eq_ok.1 hthrow).elim
    obtain ⟨_, -, h⟩ := run_ofExcept_bind_eq_ok.1 h
    obtain ⟨_, _, -, h⟩ := run_bind_eq_ok.1 h
    exact (run_pure_eq_ok.1 h).1.symm
  | delete rowIds =>
    simp only [Dml.run, deleteRows] at h
    split at h
    · rename_i hempty
      rw [Dml.rowCount, List.isEmpty_iff.1 hempty]
      exact (run_pure_eq_ok.1 h).1.symm
    · obtain ⟨_, -, h⟩ := run_ofExcept_bind_eq_ok.1 h
      obtain ⟨_, _, -, h⟩ := run_bind_eq_ok.1 h
      exact (run_pure_eq_ok.1 h).1.symm

variable [DuckDb F] (sink : Sink) (chunk : DataChunk F) (s : σ)

/-- A call for a chunk is about its rows. -/
theorem call_rowCount {call : Dml F} (h : sink.call chunk = .ok call) :
    call.rowCount = chunk.rows.length := by
  cases sink with
  | insert table =>
    obtain ⟨_, -, h⟩ := bind_eq_ok.1 h
    cases h
    rfl
  | update table assignments =>
    obtain ⟨rows, hrows, rfl⟩ := updateCall_eq_ok h
    simpa [Dml.rowCount] using hrows.length_eq.symm
  | delete table rowIdIndex =>
    obtain ⟨rowIds, hrows, h⟩ := bind_eq_ok.1 h
    cases h
    exact (mapM_eq_ok.1 hrows).length_eq.symm

theorem chunk_returns {count : Nat}
    (h : (chunkOutcome w config sink chunk s).result = .ok count) : count = chunk.rows.length := by
  obtain ⟨-, hfails⟩ | ⟨table, call, -, hcall, hrun⟩ := chunkOutcome_cases w config sink chunk s
  · exact absurd ⟨count, h⟩ hfails
  · rw [hrun, Outcome.mapError_result, mapError_eq_ok] at h
    rw [dml_returns w config h, call_rowCount sink chunk hcall]

/-- The requests of a chunk come in blocks. -/
theorem chunk_interrupted : ∃ ops,
    Interrupted config ops (chunkOutcome w config sink chunk s).events ∧
    (Succeeds (chunkOutcome w config sink chunk s).result →
      Served config ops (chunkOutcome w config sink chunk s).events) := by
  obtain ⟨hnone, hfails⟩ | ⟨table, call, -, -, hrun⟩ := chunkOutcome_cases w config sink chunk s
  · rw [hnone]
    exact ⟨[], Served.nil.interrupted, fun h => absurd h hfails⟩
  · rw [hrun, Outcome.mapError_events, Outcome.mapError_result, succeeds_mapError]
    exact dml_interrupted w config table call s

/-- The rows of the operations are the changes of the rows of a chunk. -/
theorem updates_writes {info : RustBridgeTableInfo} {assignments : List Assignment} {width : Nat}
    {rows : List (List (DuckValue F))} {ops : List (Operation F)}
    (h : List.Forall₂ (UpdatesChunkRow config info assignments (width - 1)) rows ops) :
    List.Forall₂ ((Sink.update info assignments).Writes config width) rows
      (ops.flatMap Operation.rowWrites) := by
  induction h with
  | nil => exact .nil
  | cons hrow _ ih =>
    obtain ⟨table, rowId, payload, htable, hid, rfl, hcells⟩ := hrow
    exact .cons ⟨table, htable, rfl, rfl, .update hid hcells⟩ ih

theorem deleteChunk_writes (info : RustBridgeTableInfo) (rowIdIndex : Nat) : ∃ count,
    List.Forall₂ ((Sink.delete info rowIdIndex).Writes config chunk.columnCount)
      (chunk.rows.take count)
      (rowWrites (chunkOutcome w config (.delete info rowIdIndex) chunk s).events) ∧
    (Succeeds (chunkOutcome w config (.delete info rowIdIndex) chunk s).result →
      count = chunk.rows.length) := by
  obtain ⟨hnone, hfails⟩ | ⟨table, call, htable, hcall, hrun⟩ :=
    chunkOutcome_cases w config (.delete info rowIdIndex) chunk s
  · rw [hnone]
    exact ⟨0, .nil, fun h => absurd h hfails⟩
  obtain ⟨rowIds, hrows, h⟩ := bind_eq_ok.1 hcall
  cases h
  have hrows := mapM_eq_ok.1 hrows
  have hwrites : List.Forall₂ ((Sink.delete info rowIdIndex).Writes config chunk.columnCount)
      chunk.rows ((deleteRowsOperation config table rowIds : Operation F).rowWrites) := by
    rw [deleteRowsOperation, Operation.rowWrites, List.forall₂_map_right_iff]
    exact hrows.imp fun row rowId hid => ⟨table, htable, rfl, rfl, .delete hid⟩
  have hsent {t : List (Call F)} (h : Settles config (deleteRowsOperation config table rowIds) t ∨
      Breaks config (deleteRowsOperation config table rowIds) t) :
      rowWrites t = (deleteRowsOperation config table rowIds).rowWrites := by
    rw [rowWrites_eq, mutations_of_settles config rfl h]
    simp
  rw [hrun, Outcome.mapError_events, Outcome.mapError_result, succeeds_mapError]
  obtain ⟨n, hn, h⟩ | ⟨e, he, h⟩ := (deleteRows_emits w config table rowIds).outcome s
  · refine ⟨chunk.rows.length, ?_, fun _ => rfl⟩
    rw [List.take_length]
    obtain ⟨rfl, hnone⟩ | hsettles := h
    · rw [Dml.run, hnone]
      rw [List.forall₂_nil_right_iff.1 hrows]
      exact .nil
    · rw [Dml.run, hsent (.inl hsettles)]
      exact hwrites
  · have hfails : ¬ Succeeds (runFrom (deleteRows w config table rowIds) s).result :=
      fun h => not_succeeds_error (he ▸ h)
    obtain hnone | hbreaks := h
    · rw [Dml.run, hnone]
      exact ⟨0, .nil, fun h => absurd h hfails⟩
    · refine ⟨chunk.rows.length, ?_, fun _ => rfl⟩
      rw [Dml.run, List.take_length, hsent (.inr hbreaks)]
      exact hwrites

/-- **The rows written for a chunk are its first rows**, and all of them when the call returns. -/
theorem chunk_writes : ∃ count,
    List.Forall₂ (sink.Writes config chunk.columnCount) (chunk.rows.take count)
      (rowWrites (chunkOutcome w config sink chunk s).events) ∧
    (Succeeds (chunkOutcome w config sink chunk s).result → count = chunk.rows.length) := by
  cases sink with
  | insert info =>
    obtain ⟨hnone, hfails⟩ | ⟨table, payload, htable, hsent, hrows⟩ :=
      insertChunk_aligned w config info chunk s
    · rw [rowWrites_eq, hnone]
      exact ⟨0, .nil, fun h => absurd h hfails⟩
    · refine ⟨chunk.rows.length, ?_, fun _ => rfl⟩
      rw [List.take_length, rowWrites_eq, hsent, List.flatMap_singleton, upsertRowsOperation,
        Operation.rowWrites, List.forall₂_map_right_iff]
      exact hrows.imp fun row edit hcells => ⟨table, htable, rfl, rfl, .insert hcells⟩
  | update info assignments =>
    obtain ⟨count, hrows, hall⟩ := updateChunk_aligned w config info assignments chunk s
    rw [rowWrites_eq]
    exact ⟨count, updates_writes config hrows, hall⟩
  | delete info rowIdIndex => exact deleteChunk_writes w config chunk s info rowIdIndex

/-- What a sink sends for a chunk. -/
structure SinkWrites (id : Nat) (db : Database F σ) (result : Except String Nat)
    (db' : Database F σ) (sent : List (Call F)) (ops : List (Operation F)) (count : Nat) :
    Prop where
  log : db'.log = db.log ++ sent.map (⟨id, ·⟩)
  interrupted : Interrupted config ops sent
  writes : List.Forall₂ (sink.Writes config chunk.columnCount) (chunk.rows.take count)
    (rowWrites sent)
  returns : ∀ n, result = .ok n →
    n = chunk.rows.length ∧ count = chunk.rows.length ∧ Served config ops sent

theorem Database.sink_writes {context : ClientContext} (hreaches : SinkReaches context sink chunk)
    (db : Database F σ) (id : Nat) :
    ∃ sent ops count, SinkWrites config sink chunk id db (db.sink w config id context sink chunk).1
      (db.sink w config id context sink chunk).2 sent ops count := by
  obtain ⟨hrows, ⟨u, haccepted⟩, hsupports⟩ := hreaches
  obtain ⟨ops, hinterrupted, hserved⟩ := chunk_interrupted w config sink chunk db.world
  obtain ⟨count, hwrites, hall⟩ := chunk_writes w config sink chunk db.world
  simp only [chunkOutcome] at hinterrupted hserved hwrites hall
  unfold Database.sink
  rw [if_neg (by simpa using hrows), haccepted, hsupports]
  cases hr : (runFrom (clientCall w config sink.table (sink.call chunk)) db.world).result with
  | error e =>
    refine ⟨_, ops, count, by simp [hr], hinterrupted, hwrites, fun n hn => ?_⟩
    simp [hr] at hn
  | ok m =>
    refine ⟨_, ops, count, by simp [hr], hinterrupted, hwrites, fun n hn => ?_⟩
    obtain rfl : m = n := by simpa [hr] using hn
    exact ⟨chunk_returns w config sink chunk db.world hr, hall ⟨m, hr⟩, hserved ⟨m, hr⟩⟩

end

/-! ## The rows a statement selects -/

section
variable {F : Type} [F64 F] [SerdeJson] [DuckDb F]

/-- The position of the row id in the rows a sink takes. -/
def Sink.rowIdPosition (width : Nat) : Sink → Option Nat
  | insert _ => none
  | update _ _ => some (width - 1)
  | delete _ rowIdIndex => some rowIdIndex

def RowChange.rowId : RowChange F → Option String
  | insert _ => none
  | update rowId _ => some rowId
  | delete rowId => some rowId

/-- The row id of a change is the one the sink reads. -/
theorem Sink.Changes.rowId {width : Nat} {row : List (DuckValue F)} {sink : Sink}
    {change : RowChange F} {rowId : String} (h : sink.Changes width row change)
    (hid : change.rowId = some rowId) :
    ∃ position, sink.rowIdPosition width = some position ∧
      chunkRowId position row = .ok rowId := by
  cases h with
  | insert hcells => cases hid
  | update hread hcells =>
    cases hid
    exact ⟨_, rfl, hread⟩
  | delete hread =>
    cases hid
    exact ⟨_, rfl, hread⟩

namespace Statement

variable (statement : Statement F) (state : RustBridgeScanGlobalState)

/-- The filter of the statement keeps the row. -/
def selects (row : Row) : Bool :=
  (state.outputRow (F := F) (ffiScanRow row)).toOption.any statement.keeps

/-- The row id is scanned, and is where the sink looks for it. -/
def PassesRowId : Prop :=
  ∀ position, statement.sink.rowIdPosition statement.width = some position →
    ∃ index, state.columnIndexes[index]? = some ⟨columnIdentifierRowId⟩ ∧
      index < state.outputTypes.length ∧ ∀ (row : List (DuckValue F)) value,
        row[index]? = some value → (statement.project row)[position]? = some value

/-- The write is what the statement does to the row. -/
def Writes (config : ClientConfig) (row : Row) (write : RowWrite F) : Prop :=
  (∀ rowId, write.change.rowId = some rowId → rowId = row.id) ∧
  ∃ values, state.outputRow (ffiScanRow row) = .ok values ∧
    statement.sink.Writes config statement.width (statement.project values) write

variable {statement state}

theorem outputRow_rowId {row : Row} {values : List (DuckValue F)} {index : Nat}
    (h : state.outputRow (ffiScanRow row) = .ok values)
    (hindex : state.columnIndexes[index]? = some ⟨columnIdentifierRowId⟩)
    (htype : index < state.outputTypes.length) : values[index]? = some (.text row.id "") := by
  have hvalues := mapM_eq_ok.1 h
  obtain ⟨hlt, hcolumn⟩ := List.getElem?_eq_some_iff.1 hindex
  have hzip : index < (state.columnIndexes.zip state.outputTypes).length := by simp; omega
  have hget := hvalues.get hzip (hvalues.length_eq ▸ hzip)
  simp only [List.get_eq_getElem, List.getElem_zip, hcolumn, scanOutputValue] at hget
  rw [if_pos (by decide), if_pos trivial] at hget
  exact List.getElem?_eq_some_iff.2 ⟨hvalues.length_eq ▸ hzip, (Except.ok.inj hget).symm⟩

/-- The row id that the sink reads is that of the row. -/
theorem chunkRowId_project (hids : statement.PassesRowId state) {row : Row}
    {values : List (DuckValue F)} (h : state.outputRow (ffiScanRow row) = .ok values)
    {position : Nat} (hposition : statement.sink.rowIdPosition statement.width = some position) :
    chunkRowId position (statement.project values) = .ok row.id := by
  obtain ⟨index, hindex, htype, hproject⟩ := hids position hposition
  have hvalue := hproject values _ (outputRow_rowId h hindex htype)
  exact bind_eq_ok.2 ⟨_, chunkValue_eq_ok.2 hvalue, congrArg Except.ok (DuckDb.toString_text ..)⟩

/-- **A write for the values of a row is one of that row.** -/
theorem writes_of (hids : statement.PassesRowId state) {config : ClientConfig} {row : Row}
    {values : List (DuckValue F)} {write : RowWrite F}
    (h : state.outputRow (ffiScanRow row) = .ok values)
    (hwrites : statement.sink.Writes config statement.width (statement.project values) write) :
    statement.Writes state config row write := by
  refine ⟨fun rowId hid => ?_, values, h, hwrites⟩
  obtain ⟨table, -, -, -, hchanges⟩ := hwrites
  obtain ⟨position, hposition, hread⟩ := hchanges.rowId hid
  exact Except.ok.inj (hread.symm.trans (chunkRowId_project hids h hposition))

end Statement

end

/-! ## Runs -/

section
variable {F σ : Type} [F64 F] [SerdeJson] [DuckDb F] {limit standardVectorSize : Nat}
  {statement : Statement F} {w : World F σ} {config : ClientConfig}

namespace Statement

/-- The rows that a scan still passes to the sink, when its values are these. -/
def Left (statement : Statement F) (limit : Nat) (scan : RustBridgeScanGlobalState × List Reply)
    (rows : List (List (DuckValue F))) : Prop :=
  ∃ responses values, Scanning limit scan.1 scan.2 responses ∧ scan.1.InRange ∧
    values.map Except.ok = (scan.1.outstanding responses).map scan.1.outputRow ∧
    rows = statement.passed values

theorem Left.pull {scan scan' : RustBridgeScanGlobalState × List Reply}
    {items rows : List (List (DuckValue F))} (h : statement.Left limit scan rows)
    (hpull : statement.Pulls standardVectorSize scan items scan') :
    ∃ rows', rows = items ++ rows' ∧ statement.Left limit scan' rows' := by
  obtain ⟨responses, values, hscan, hrange, hvalues, rfl⟩ := h
  cases hpull with
  | @call scan replies chunk hresult hne =>
    obtain ⟨chunk', rest, hchunk⟩ := rustBridgeScan_spec (F := F) standardVectorSize hscan hrange
    cases hresult.symm.trans hchunk.result
    have hinj : Function.Injective (Except.ok : List (DuckValue F) → Except String _) :=
      fun _ _ h => Except.ok.inj h
    have htake : values.take chunk.length = chunk := by
      rw [← (List.map_injective_iff.2 hinj).eq_iff, hchunk.emitted, List.map_take, hvalues,
        List.map_take]
    refine ⟨statement.passed (values.drop chunk.length), ?_, rest, values.drop chunk.length,
      hchunk.scanning, hchunk.inRange, ?_, rfl⟩
    · nth_rewrite 1 [← List.take_append_drop chunk.length values]
      rw [htake, passed, List.filter_append, List.map_append]
      rfl
    · rw [hchunk.outstanding, hchunk.outputRow, List.map_drop, List.map_drop, hvalues]

/-- What was sent when the sink has taken rows. -/
structure Took (statement : Statement F) (config : ClientConfig) (db : Database F σ)
    (taken : List (List (DuckValue F))) (state : SinkState F σ) : Prop where
  sent : ∃ sent ops, state.database.log = db.log ++ sent.map (⟨statement.transaction, ·⟩) ∧
    Served config ops sent ∧
    List.Forall₂ (statement.sink.Writes config statement.width) taken (rowWrites sent)
  counted : state.counted.affectedCount = taken.length % 2 ^ 64

theorem Took.init (db : Database F σ) :
    statement.Took config db [] { database := db, counted := .new } where
  sent := ⟨[], [], by simp, Served.nil, .nil⟩
  counted := rfl

omit [F64 F] [SerdeJson] [DuckDb F] in
theorem reaches (statement : Statement F) {chunk : DataChunk F} (h : chunk.rows ≠ []) :
    SinkReaches statement.context statement.sink chunk :=
  ⟨h, Sink.plan_eq_ok statement.planned⟩

/-- **A chunk is pushed**: the sink takes it, or it fails within the chunk. -/
theorem Took.push {db : Database F σ} {taken : List (List (DuckValue F))}
    {state : SinkState F σ} (h : statement.Took config db taken state) {chunk : DataChunk F}
    (hwidth : chunk.columnCount = statement.width) (hrows : chunk.rows ≠ []) :
    ((statement.push w config state chunk).1 = .ok () →
      statement.Took config db (taken ++ chunk.rows) (statement.push w config state chunk).2) ∧
    ∃ sent ops count,
      (statement.push w config state chunk).2.database.log =
        db.log ++ sent.map (⟨statement.transaction, ·⟩) ∧
      Interrupted config ops sent ∧
      List.Forall₂ (statement.sink.Writes config statement.width) (taken ++ chunk.rows.take count)
        (rowWrites sent) := by
  obtain ⟨⟨sent, ops, hlog, hserved, hwrites⟩, hcounted⟩ := h
  obtain ⟨sent', ops', count, hsink⟩ := Database.sink_writes w config statement.sink chunk
    (statement.reaches hrows) state.database statement.transaction
  rw [← hwidth] at hwrites ⊢
  have hall : List.Forall₂ (statement.sink.Writes config chunk.columnCount)
      (taken ++ chunk.rows.take count) (rowWrites (sent ++ sent')) := by
    rw [rowWrites_append]
    exact List.rel_append hwrites hsink.writes
  unfold Statement.push
  cases hresult : state.database.sink w config statement.transaction statement.context
      statement.sink chunk with
  | mk result database =>
    rw [hresult] at hsink
    have hsent : database.log =
        db.log ++ (sent ++ sent').map (⟨statement.transaction, ·⟩) := by
      rw [hsink.log, hlog, List.append_assoc, List.map_append]
    cases result with
    | error e =>
      refine ⟨fun hok => ?_, sent ++ sent', ops ++ ops', count, hsent,
        hserved.append_interrupted hsink.interrupted, hall⟩
      cases hok
    | ok n =>
      refine ⟨fun _ => ?_, sent ++ sent', ops ++ ops', count, hsent,
        hserved.append_interrupted hsink.interrupted, hall⟩
      obtain ⟨rfl, hcount, hserved'⟩ := hsink.returns n rfl
      rw [hcount, List.take_length, hwidth] at hall
      refine ⟨⟨sent ++ sent', ops ++ ops', hsent, hserved.append hserved', hall⟩, ?_⟩
      simp only [RustBridgeDMLGlobalState.addAffected, hcounted, List.length_append]
      omega

/-- A scan that returned an empty chunk has no row left. -/
theorem Left.done {scan : RustBridgeScanGlobalState} {replies : List Reply}
    {rows : List (List (DuckValue F))} (hV : 0 < standardVectorSize)
    (h : statement.Left limit (scan, replies) rows)
    (hresult : (rustBridgeScan (F := F) standardVectorSize scan replies).result = .ok []) :
    rows = [] := by
  obtain ⟨responses, values, hscan, hrange, hvalues, rfl⟩ := h
  obtain ⟨chunk, rest, hchunk⟩ := rustBridgeScan_spec (F := F) standardVectorSize hscan hrange
  cases hresult.symm.trans hchunk.result
  obtain ⟨hunread, hfinished⟩ := hchunk.done hV.ne' rfl
  have houtstanding := hchunk.outstanding
  rw [RustBridgeScanGlobalState.outstanding, if_pos hfinished, hunread, List.length_nil,
    List.drop_zero] at houtstanding
  rw [← houtstanding] at hvalues
  rw [List.map_eq_nil_iff.1 hvalues]
  rfl

variable (w) (config) (standardVectorSize) in
/-- The rows that wait are pushed at once, unless the sink fails. -/
theorem flush (source : RustBridgeScanGlobalState × List Reply)
    {pending : List (List (DuckValue F))} (hwidth : ∀ row ∈ pending, row.length = statement.width)
    (state : SinkState F σ) :
    (∃ result db, statement.RunsFrom w config standardVectorSize ⟨source, pending, state⟩ result db) ∨
    ∃ state', ReflTransGen (statement.Moves w config standardVectorSize)
      ⟨source, pending, state⟩ ⟨source, [], state'⟩ := by
  by_cases hne : pending = []
  · exact .inr ⟨state, by rw [hne]⟩
  let chunk : DataChunk F :=
    { columnCount := statement.width, rows := pending, rows_length := hwidth }
  have hpending : pending = chunk.rows ++ [] := (List.append_nil pending).symm
  rw [hpending]
  cases hpush : (statement.push w config state chunk).1 with
  | error e => exact .inl ⟨_, _, _, .refl, .sinkFailed rfl hne hpush⟩
  | ok u => exact .inr ⟨_, .single (.push (.chunk rfl hne hpush))⟩

/-- **A statement ends**, whatever waits. -/
theorem ends {scan : RustBridgeScanGlobalState} {replies : List Reply}
    {responses : List RowsResponse} (h : Scanning limit scan replies responses)
    (hrange : scan.InRange) {pending : List (List (DuckValue F))}
    (hwidth : ∀ row ∈ pending, row.length = statement.width) (state : SinkState F σ) :
    ∃ result db, statement.RunsFrom w config standardVectorSize
      ⟨(scan, replies), pending, state⟩ result db := by
  induction hn : (scan.outstanding responses).length using Nat.strong_induction_on
    generalizing scan replies responses pending state with
  | _ n ih =>
    obtain hfails | ⟨state', hflush⟩ := flush standardVectorSize w config (scan, replies) hwidth
      state
    · exact hfails
    obtain ⟨chunk, rest, hchunk⟩ := rustBridgeScan_spec (F := F) standardVectorSize h hrange
    by_cases hne : chunk = []
    · subst hne
      exact ⟨_, _, _, hflush, .finished hchunk.result⟩
    have hpassed : ∀ row ∈ statement.passed chunk, row.length = statement.width := by
      intro row hrow
      obtain ⟨values, -, rfl⟩ := List.mem_map.1 hrow
      exact statement.project_length values
    have hlength := hchunk.length_add
    have hpos := List.length_pos_of_ne_nil hne
    obtain ⟨result, db, pipe, hrun, hend⟩ := ih _ (by omega) hchunk.scanning hchunk.inRange hpassed
      state' rfl
    exact ⟨result, db, pipe, hflush.trans (.head (.pull (.call hchunk.result hne)) hrun), hend⟩

/-- A scan with this many rows outstanding. -/
def Outstanding (limit : Nat) (source : RustBridgeScanGlobalState × List Reply) (n : Nat) : Prop :=
  ∃ responses, Scanning limit source.1 source.2 responses ∧ source.1.InRange ∧
    (source.1.outstanding responses).length = n

/-- A call of the scan hands out no more rows than it leaves out of the outstanding ones. -/
theorem Outstanding.pull {scan scan' : RustBridgeScanGlobalState × List Reply} {n : Nat}
    {items : List (List (DuckValue F))} (h : Outstanding limit scan n)
    (hpull : statement.Pulls standardVectorSize scan items scan') :
    ∃ n', Outstanding limit scan' n' ∧ n' < n ∧ n' + items.length ≤ n := by
  obtain ⟨responses, hscan, hrange, rfl⟩ := h
  cases hpull with
  | @call scan replies chunk hresult hne =>
    obtain ⟨chunk', rest, hchunk⟩ := rustBridgeScan_spec (F := F) standardVectorSize hscan hrange
    cases hresult.symm.trans hchunk.result
    have hlength := hchunk.length_add
    have hpos := List.length_pos_of_ne_nil hne
    have hpassed : (statement.passed chunk).length ≤ chunk.length := by
      rw [passed, List.length_map]
      exact List.length_filter_le _ _
    refine ⟨_, ⟨rest, hchunk.scanning, hchunk.inRange, rfl⟩, ?_⟩
    dsimp only at hlength ⊢
    omega

/-- The rows of writes that a sink took, among the rows the statement selects. -/
theorem selected_writes {scan : RustBridgeScanGlobalState} (hids : statement.PassesRowId scan)
    {rows : List Row} {values : List (List (DuckValue F))}
    (hvalues : List.Forall₂ (fun row value => scan.outputRow (ffiScanRow row) = .ok value)
      rows values)
    {taken left : List (List (DuckValue F))} (hsplit : statement.passed values = taken ++ left)
    {writes : List (RowWrite F)}
    (h : List.Forall₂ (statement.sink.Writes config statement.width) taken writes) :
    ∃ done rest, rows.filter (statement.selects scan) = done ++ rest ∧
      List.Forall₂ (statement.Writes scan config) done writes ∧
      done.length = taken.length ∧ rest.length = left.length := by
  have hkept : List.Forall₂ (fun row value => scan.outputRow (ffiScanRow row) = .ok value)
      (rows.filter (statement.selects scan)) (values.filter statement.keeps) := by
    refine List.rel_filter ?_ hvalues
    intro row value hvalue
    simp [selects, hvalue, Except.toOption]
  have hpassed : List.Forall₂ (fun row projected => ∃ value,
      scan.outputRow (ffiScanRow row) = .ok value ∧ projected = statement.project value)
      (rows.filter (statement.selects scan)) (taken ++ left) := by
    rw [← hsplit, passed, List.forall₂_map_right_iff]
    exact hkept.imp fun row value hvalue => ⟨value, hvalue, rfl⟩
  refine ⟨(rows.filter (statement.selects scan)).take taken.length,
    (rows.filter (statement.selects scan)).drop taken.length, (List.take_append_drop ..).symm, ?_,
    ?_, ?_⟩
  · refine (Layout.forall₂_through (List.forall₂_take_append _ _ _ hpassed) h).imp ?_
    intro row write hrow
    obtain ⟨projected, ⟨value, hvalue, rfl⟩, hwrite⟩ := hrow
    exact writes_of hids hvalue hwrite
  · exact (List.forall₂_take_append _ _ _ hpassed).length_eq
  · exact (List.forall₂_drop_append _ _ _ hpassed).length_eq

/-- The requests of a run over a scan that shows `rows`: those of the first rows it selects. -/
structure Sent (statement : Statement F) (config : ClientConfig)
    (scan : RustBridgeScanGlobalState) (rows : List Row) (db : Database F σ)
    (result : Except String (List (DuckValue F))) (db' : Database F σ) (done rest : List Row)
    (sent : List (Call F)) (ops : List (Operation F)) : Prop where
  rows : rows.filter (statement.selects scan) = done ++ rest
  log : db'.log = db.log ++ sent.map (⟨statement.transaction, ·⟩)
  writes : List.Forall₂ (statement.Writes scan config) done (rowWrites sent)
  interrupted : Interrupted config ops sent
  returns : ∀ row, result = .ok row →
    rest = [] ∧ row = [.int (done.length % 2 ^ 64 : Nat)] ∧ Served config ops sent

theorem sent_of {scan : RustBridgeScanGlobalState} (hids : statement.PassesRowId scan)
    {rows : List Row} {values : List (List (DuckValue F))}
    (hvalues : List.Forall₂ (fun row value => scan.outputRow (ffiScanRow row) = .ok value)
      rows values)
    {taken left : List (List (DuckValue F))} (hsplit : statement.passed values = taken ++ left)
    {db db' : Database F σ} {result : Except String (List (DuckValue F))} {sent : List (Call F)}
    {ops : List (Operation F)} (hlog : db'.log = db.log ++ sent.map (⟨statement.transaction, ·⟩))
    (hinterrupted : Interrupted config ops sent)
    (hwrites : List.Forall₂ (statement.sink.Writes config statement.width) taken (rowWrites sent))
    (hreturns : ∀ row, result = .ok row →
      left = [] ∧ row = [.int (taken.length % 2 ^ 64 : Nat)] ∧ Served config ops sent) :
    ∃ done rest sent ops, statement.Sent config scan rows db result db' done rest sent ops := by
  obtain ⟨done, rest, hrows, hdone, hlength, hrest⟩ := selected_writes hids hvalues hsplit hwrites
  refine ⟨done, rest, sent, ops, hrows, hlog, hdone, hinterrupted, fun row hrow => ?_⟩
  obtain ⟨rfl, rfl, hserved⟩ := hreturns row hrow
  exact ⟨List.length_eq_zero_iff.1 hrest, by rw [hlength], hserved⟩

/-- What a run did to the rows that its scan shows: it wrote the first of those it selects, in their
order. -/
structure Wrote (statement : Statement F) (config : ClientConfig)
    (scan : RustBridgeScanGlobalState) (rows : List Row) (db : Database F σ)
    (result : Except String (List (DuckValue F))) (db' : Database F σ) (done rest : List Row)
    (sent : List (Call F)) : Prop where
  rows : rows.filter (statement.selects scan) = done ++ rest
  log : db'.log = db.log ++ sent.map (⟨statement.transaction, ·⟩)
  writes : List.Forall₂ (statement.Writes scan config) done (rowWrites sent)
  /-- A mutation is confirmed before the next one is sent. -/
  sequential : config.waitForMutations = true → ∀ t₁ c t₂ c' t₃,
    sent = t₁ ++ c :: (t₂ ++ c' :: t₃) → c.operation.isMutation = true →
    c'.operation.isMutation = true → Confirmed config c t₂
  /-- A statement that returns has written all of them, and returns their number. -/
  returns : ∀ row, result = .ok row → rest = [] ∧ row = [.int (done.length % 2 ^ 64 : Nat)] ∧
    (config.waitForMutations = true → ∀ t₁ c t₂, sent = t₁ ++ c :: t₂ →
      c.operation.isMutation = true → Confirmed config c t₂)

/-- Requests in blocks confirm the mutations. -/
theorem Sent.wrote {scan : RustBridgeScanGlobalState} {rows : List Row} {db db' : Database F σ}
    {result : Except String (List (DuckValue F))} {done rest : List Row} {sent : List (Call F)}
    {ops : List (Operation F)}
    (h : statement.Sent config scan rows db result db' done rest sent ops) :
    statement.Wrote config scan rows db result db' done rest sent where
  rows := h.rows
  log := h.log
  writes := h.writes
  sequential hwait t₁ c t₂ c' t₃ hsent hc hc' := by
    have hinterrupted := h.interrupted
    rw [hsent] at hinterrupted
    exact hinterrupted.sequential hwait hc hc'
  returns row hrow := by
    obtain ⟨hrest, hcount, hserved⟩ := h.returns row hrow
    refine ⟨hrest, hcount, fun hwait t₁ c t₂ hsent hc => ?_⟩
    rw [hsent] at hserved
    obtain ⟨t, u, rfl, hsettled, -⟩ := hserved.settled hc
    exact (hsettled.mono u).confirmed hwait

end Statement

variable {newClient : ClientConfig → Except String Unit} {table : Table}
  {bindData : RustBridgeScanBindData} {projectionIds : List Nat}
  {columnIndexes : List ColumnIndex} {outputTypes : List LogicalType}
  {scan : RustBridgeScanGlobalState} {replies : List Reply} {responses : List RowsResponse}

/-- The rows that an opened scan is still to pass to the sink: all that it shows. -/
theorem Statement.left_new (statement : Statement F) (hlimit : bindData.pushedLimit = 0)
    (hnew : RustBridgeScanGlobalState.new newClient config table bindData projectionIds
      columnIndexes outputTypes = .ok scan)
    (hrange : scan.InRange) (hreplies : Consumes scan.scan replies responses) :
    ∃ values, List.Forall₂ (fun row value => scan.outputRow (ffiScanRow row) = .ok value)
        (visibleRows responses) values ∧
      statement.Left bindData.pushedLimit (scan, replies) (statement.passed values) := by
  obtain ⟨hscan, houtstanding⟩ := scanning_new hnew hreplies
  rw [hlimit, Paging.limited_zero, flatten_visiblePages] at houtstanding
  obtain ⟨values, hvalues⟩ := Effect.mapM_succeeds.2 fun row (_ : row ∈ visibleRows responses) =>
    outputRow_succeeds (F := F) hrange (ffiScanRow row)
  have hvalues := mapM_eq_ok.1 hvalues
  refine ⟨values, hvalues, responses, values, hscan, hrange, ?_, rfl⟩
  rw [houtstanding, List.map_map, ← List.forall₂_eq_eq_eq, List.forall₂_map_left_iff,
    List.forall₂_map_right_iff]
  exact hvalues.flip.imp fun _ _ h => h.symm

/-- **The rows of a pipeline**: the sink took the first ones, the next ones wait, and the scan
passes the others. -/
theorem Statement.moved {w : World F σ} {rows : List (List (DuckValue F))}
    (hleft : statement.Left limit (scan, replies) rows) {db : Database F σ}
    {pipe : StatementPipe F σ}
    (hrun : ReflTransGen (statement.Moves w config standardVectorSize) (.start scan replies db)
      pipe) :
    ∃ taken left, rows = taken ++ (pipe.pending ++ left) ∧ statement.Left limit pipe.source left ∧
      statement.Took config db taken pipe.sink :=
  Pipe.accounted (fun hleft hpull => hleft.pull hpull) (fun htook hpush => by
    cases hpush with
    | chunk hwidth hrows hok => exact (htook.push hwidth hrows).1 hok) hleft (.init db) hrun

/-- The pipeline ends, however DuckDB moves it: it cannot be moved more often than this, and it can
be carried to an end from wherever it got. -/
structure Statement.Terminates (statement : Statement F) (w : World F σ) (config : ClientConfig)
    (standardVectorSize : Nat) (start : StatementPipe F σ) (moves : Nat) : Prop where
  bounded : ∀ pipes, List.IsChain (statement.Moves w config standardVectorSize) (start :: pipes) →
    pipes.length ≤ moves
  finishes : ∀ pipe, ReflTransGen (statement.Moves w config standardVectorSize) start pipe →
    ∃ result db, statement.RunsFrom w config standardVectorSize pipe result db

/-- **A statement ends**: the scan is called at most once for each row it shows, and so is the
sink. -/
theorem statement_terminates (w : World F σ) (statement : Statement F)
    (hlimit : bindData.pushedLimit = 0)
    (hnew : RustBridgeScanGlobalState.new newClient config table bindData projectionIds
      columnIndexes outputTypes = .ok scan)
    (hrange : scan.InRange) (hreplies : Consumes scan.scan replies responses)
    (db : Database F σ) :
    statement.Terminates w config standardVectorSize (.start scan replies db)
      (2 * (visibleRows responses).length) where
  bounded pipes hchain := by
    obtain ⟨hscan, houtstanding⟩ := scanning_new hnew hreplies
    rw [hlimit, Paging.limited_zero, flatten_visiblePages] at houtstanding
    have hsize : Statement.Outstanding bindData.pushedLimit (scan, replies)
        (visibleRows responses).length :=
      ⟨responses, hscan, hrange, by rw [houtstanding, List.length_map]⟩
    exact Pipe.length_le (fun hsize hpull => hsize.pull hpull)
      (fun hpush => by cases hpush with | chunk _ hrows _ => exact hrows) hsize hchain
  finishes pipe hrun := by
    obtain ⟨values, -, hleft⟩ := statement.left_new hlimit hnew hrange hreplies
    obtain ⟨taken, left, hsplit, ⟨rest, leftValues, hscan, hrange, -⟩, -⟩ :=
      Statement.moved hleft hrun
    refine Statement.ends hscan hrange (fun row hrow => ?_) pipe.sink
    obtain ⟨passed, -, rfl⟩ := List.mem_map.1 (show row ∈ statement.passed values by
      rw [hsplit]; simp [hrow])
    exact statement.project_length passed

/-- Every run of a statement over an opened scan sends the requests of its rows. -/
theorem statement_sent {w : World F σ} (hV : 0 < standardVectorSize)
    (hlimit : bindData.pushedLimit = 0)
    (hnew : RustBridgeScanGlobalState.new newClient config table bindData projectionIds
      columnIndexes outputTypes = .ok scan)
    (hrange : scan.InRange) (hreplies : Consumes scan.scan replies responses)
    (hids : statement.PassesRowId scan) {db db' : Database F σ}
    {result : Except String (List (DuckValue F))}
    (hruns : statement.Runs w config standardVectorSize scan replies db result db') :
    ∃ done rest sent ops,
      statement.Sent config scan (visibleRows responses) db result db' done rest sent ops := by
  obtain ⟨values, hvalues, hleft⟩ := statement.left_new hlimit hnew hrange hreplies
  obtain ⟨pipe, hrun, hend⟩ := hruns
  obtain ⟨taken, left, hsplit, hleft, htook⟩ := Statement.moved hleft hrun
  cases hend with
  | finished hresult =>
    obtain ⟨⟨sent, ops, hlog, hserved, hwrites⟩, hcounted⟩ := htook
    rw [List.nil_append, hleft.done hV hresult] at hsplit
    refine Statement.sent_of hids hvalues hsplit hlog hserved.interrupted hwrites ?_
    intro row hrow
    rw [RustBridgeDMLGlobalState.getDataInternal, hcounted] at hrow
    split at hrow
    · cases hrow
      exact ⟨rfl, rfl, hserved⟩
    · cases hrow
  | scanFailed hresult =>
    obtain ⟨rest, values, hscan, hrange, -, -⟩ := hleft
    obtain ⟨chunk, rest', hchunk⟩ :=
      rustBridgeScan_spec (F := F) standardVectorSize hscan hrange
    cases hresult.symm.trans hchunk.result
  | sinkFailed hwidth hrows hresult =>
    obtain ⟨-, sent, ops, count, hlog, hinterrupted, hwrites⟩ := htook.push hwidth hrows
    rename_i chunk pending state e
    have hsplit : statement.passed values =
        (taken ++ chunk.rows.take count) ++ (chunk.rows.drop count ++ (pending ++ left)) := by
      rw [hsplit, List.append_assoc, List.append_assoc, ← List.append_assoc (chunk.rows.take count),
        List.take_append_drop]
    refine Statement.sent_of hids hvalues hsplit hlog hinterrupted hwrites ?_
    intro row hrow
    cases hrow

/-- **The rows a statement writes are those it selects**, in the order they are listed, each once
and with the row id it has there, up to a failure; and it ends. -/
theorem statement_writes (w : World F σ) (hV : 0 < standardVectorSize)
    (hlimit : bindData.pushedLimit = 0)
    (hnew : RustBridgeScanGlobalState.new newClient config table bindData projectionIds
      columnIndexes outputTypes = .ok scan)
    (hrange : scan.InRange) (hreplies : Consumes scan.scan replies responses)
    (hids : statement.PassesRowId scan) (db : Database F σ) :
    statement.Terminates w config standardVectorSize (.start scan replies db)
      (2 * (visibleRows responses).length) ∧
    ∀ result db', statement.Runs w config standardVectorSize scan replies db result db' →
      ∃ done rest sent,
        statement.Wrote config scan (visibleRows responses) db result db' done rest sent := by
  refine ⟨statement_terminates w statement hlimit hnew hrange hreplies db,
    fun result db' hruns => ?_⟩
  obtain ⟨done, rest, sent, ops, hsent⟩ := statement_sent hV hlimit hnew hrange hreplies hids hruns
  exact ⟨done, rest, sent, hsent.wrote⟩

end

open Json.Reference Reference

/-- `DELETE FROM docs.tasks`. -/
def deleteStatement : Statement Binary64 where
  transaction := 0
  context := deleteContext
  sink := deleteSink
  planned := by
    rw [Sink.plan_eq, planSink, deleteContext_accepted]
    rfl
  keeps _ := true
  project row := [row.headD (.null .varchar)]
  width := 1
  project_length _ := rfl

theorem deleteStatement_passesRowId : deleteStatement.PassesRowId (scanState 0) := by
  intro position hposition
  cases hposition
  refine ⟨0, rfl, by decide, fun row value hvalue => ?_⟩
  cases row with
  | nil => cases hvalue
  | cons head row => exact hvalue

/-- One page with a row and one that is deleted already. -/
theorem consumes_deletedRow : Consumes (scanState 0).scan
    [reply 200 (rowsJson [("r1", false), ("r2", true)] "" "")]
    [rowsResponse [("r1", false), ("r2", true)] "" ""] :=
  .next rfl (list_reply rfl ..) (.done rfl)

/-- A row that is deleted already is not deleted again. -/
theorem statement_writes_delete :
    deleteStatement.Terminates scripted config 2048
      (.start (scanState 0) [reply 200 (rowsJson [("r1", false), ("r2", true)] "" "")]
        (startedDatabase [mutationReply "m1", statusReply true])) 2 ∧
    ∃ result db' done rest sent,
      deleteStatement.Runs scripted config 2048 (scanState 0)
        [reply 200 (rowsJson [("r1", false), ("r2", true)] "" "")]
        (startedDatabase [mutationReply "m1", statusReply true]) result db' ∧
      deleteStatement.Wrote config (scanState 0) [namedRow ("r1", false)]
        (startedDatabase [mutationReply "m1", statusReply true]) result db' done rest sent := by
  obtain ⟨hterminates, hall⟩ := statement_writes scripted (show 0 < 2048 by decide) rfl
    (new_scanState 0) (scanState_inRange 0) consumes_deletedRow deleteStatement_passesRowId
    (startedDatabase [mutationReply "m1", statusReply true])
  obtain ⟨result, db', hruns⟩ := hterminates.finishes _ .refl
  obtain ⟨done, rest, sent, hwrote⟩ := hall result db' hruns
  exact ⟨hterminates, result, db', done, rest, sent, hruns, hwrote⟩

end SuperhumanDocs
