import SuperhumanDocs.Proof.BridgeScan
import SuperhumanDocs.Proof.RawValue

/-!
# The scan in memory does what the scan does

A scan in memory stands for one of the model (`Refines`) and owns its handle and the rows of its
last batch.

* `rustBridgeScan_matches`: each call gives the chunk of the model, or stops as the model does, and
  the scan stands for the same again.
* `new_matches`, `Refines.destroy`: it is opened from nothing and leaves nothing.
-/

set_option autoImplicit false

namespace SuperhumanDocs.Raw

open Binary (F64)
open Json (SerdeJson)
open Memory

/-! ## Results -/

/-- What is thrown for a call of Rust that stopped, or by C++ itself. -/
inductive Surfaces (context : String) : Option Exception → Stop → Prop
  | waiting : Surfaces context none .waiting
  | rust (message : String) :
    Surfaces context (some (.invalidInput s!"{context}: {message}")) (.failed message)
  | internal (message : String) : Surfaces context (some (.internal message)) (.failed message)

/-- The same result, or failures that match. -/
inductive SameResult {ε ε' α : Type} (R : ε → ε' → Prop) : Except ε α → Except ε' α → Prop
  | ok (a : α) : SameResult R (.ok a) (.ok a)
  | error {e : ε} {e' : ε'} : R e e' → SameResult R (.error e) (.error e')

theorem SameResult.map {ε ε' α β : Type} {R : ε → ε' → Prop} {x : Except ε α} {y : Except ε' α}
    (h : SameResult R x y) (f : α → β) : SameResult R (x.map f) (y.map f) := by
  cases h with
  | ok a => exact .ok (f a)
  | error he => exact .error he

theorem thrown_surfaces {α : Type} (context : String) (x : Except Stop α) :
    SameResult (Surfaces context) (x.mapError (Stop.thrown context .invalidInput)) x := by
  match x with
  | .ok a => exact .ok a
  | .error .waiting => exact .error .waiting
  | .error (.failed message) => exact .error (.rust message)

/-! ## The output of a row -/

/-- The tables and columns of a scan can be read in what is owned. -/
structure ReadsTable (own : Owned Block) (raw : RustBridgeTableInfo)
    (info : SuperhumanDocs.RustBridgeTableInfo) : Prop where
  table : ∃ record table, info.table.handle = some table ∧
    Triple own (raw.table.deref RustExtCatalogTable) (Leaves record own) ∧
    Triple own (refFromRaw Table record.handle "table") (Leaves (.ok table) own)
  columns : List.Forall₂ (ReadsColumn own) raw.columns info.columns

theorem ReadsTable.column {own : Owned Block} {raw : RustBridgeTableInfo}
    {info : SuperhumanDocs.RustBridgeTableInfo} (h : ReadsTable own raw info) {index : ℕ}
    {column : RustBridgeColumnInfo} (hcolumn : raw.columns[index]? = some column) :
    ∃ infoColumn, info.columns[index]? = some infoColumn ∧ ReadsColumn own column infoColumn := by
  obtain ⟨hlt, rfl⟩ := List.getElem?_eq_some_iff.1 hcolumn
  have hlt' : index < info.columns.length := h.columns.length_eq ▸ hlt
  exact ⟨_, List.getElem?_eq_getElem hlt', h.columns.get hlt hlt'⟩

section
variable {F : Type} [F64 F] [SerdeJson] [DuckDb F] [Allocator Block] {own : Owned Block}
  {raw : RustBridgeTableInfo} {info : SuperhumanDocs.RustBridgeTableInfo}

theorem scanOutputValue_spec (h : ReadsTable own raw info) (address : ℕ) (row : Row)
    (columnIndex : ColumnIndex) (outputType : LogicalType) :
    Triple (own + cell address (.row row))
      (scanOutputValue (F := F) raw (scanRowRecord address row) columnIndex outputType)
      (Leaves ((SuperhumanDocs.scanOutputValue info (SuperhumanDocs.ffiScanRow row) columnIndex
        outputType).mapError .internal) (own + cell address (.row row))) := by
  unfold scanOutputValue SuperhumanDocs.scanOutputValue
  by_cases hvirtual : columnIndex.isVirtualColumn = true
  · rw [if_pos hvirtual, if_pos hvirtual]
    by_cases hrow : columnIndex.primaryIndex = columnIdentifierRowId
    · rw [if_pos hrow, if_pos hrow, add_comm]
      have hid : Triple (cell address (Block.row row)) (scanRowRecord address row).rowId.asStr
          (Leaves row.id (cell address (.row row))) := borrowString_asStr rfl
      exact (hid.leaves_frame own).leaves_bind (Triple.pure ⟨rfl, rfl⟩)
    · rw [if_neg hrow, if_neg hrow]
      exact Triple.pure ⟨rfl, rfl⟩
  · rw [if_neg hvirtual, if_neg hvirtual]
    cases hcolumn : raw.columns[columnIndex.primaryIndex]? with
    | none =>
      have hinfo : info.columns[columnIndex.primaryIndex]? = none := by
        rw [List.getElem?_eq_none_iff] at hcolumn ⊢
        rwa [← h.columns.length_eq]
      rw [hinfo]
      exact Triple.pure ⟨rfl, rfl⟩
    | some column =>
      obtain ⟨infoColumn, hinfo, hreads⟩ := h.column hcolumn
      rw [hinfo]
      exact (scanColumnValue_spec hreads address row).leaves_bind (Triple.pure ⟨rfl, rfl⟩)

theorem outputRow_spec (h : ReadsTable own raw info) (address : ℕ) (row : Row)
    (columns : List (ColumnIndex × LogicalType)) :
    Triple (own + cell address (.row row))
      (outputRow (F := F) raw (scanRowRecord address row) columns)
      (Leaves ((columns.mapM fun column => SuperhumanDocs.scanOutputValue info
        (SuperhumanDocs.ffiScanRow row) column.1 column.2).mapError .internal)
        (own + cell address (.row row))) := by
  induction columns with
  | nil => exact Triple.pure ⟨rfl, rfl⟩
  | cons column columns ih =>
    obtain ⟨columnIndex, outputType⟩ := column
    unfold outputRow
    rw [List.mapM_cons]
    dsimp only
    refine (scanOutputValue_spec h address row columnIndex outputType).leaves_bind ?_
    cases SuperhumanDocs.scanOutputValue (F := F) info (SuperhumanDocs.ffiScanRow row) columnIndex
        outputType with
    | error e => exact Triple.pure ⟨rfl, rfl⟩
    | ok value =>
      refine ih.leaves_bind (Triple.pure ⟨?_, rfl⟩)
      cases columns.mapM fun column => SuperhumanDocs.scanOutputValue (F := F) info
        (SuperhumanDocs.ffiScanRow row) column.1 column.2 <;> rfl

end

/-! ## Batches -/

/-- A batch holds the rows it was made of, and is empty only at the end. -/
theorem nextBatch_boxed [SerdeJson] {handle : ScanHandle} {replies : List Reply}
    {batch : SuperhumanDocs.RustExtScanBatch}
    (h : (handle.nextBatch replies).2.result = .ok batch) :
    batch = SuperhumanDocs.ffiScanBatch (boxedRows batch) batch.finished ∧
      (batch.rows ≠ [] ∨ batch.finished = true) := by
  have hboxed (rows : List Row) (finished : Bool) :
      boxedRows (SuperhumanDocs.ffiScanBatch rows finished) = rows := by
    unfold boxedRows SuperhumanDocs.ffiScanBatch SuperhumanDocs.ffiScanRow
    simp
  induction hn : replies.length using Nat.strong_induction_on generalizing handle replies with
  | _ n ih =>
    cases hfinished : handle.finished with
    | true =>
      rw [nextBatch_finished hfinished] at h
      cases h
      exact ⟨by rw [hboxed]; rfl, .inr rfl⟩
    | false =>
      cases hl : (handle.list replies).result with
      | error stop =>
        rw [nextBatch_error hfinished hl] at h
        cases h
      | ok response =>
        rw [nextBatch_ok hfinished hl] at h
        split at h
        · rename_i hstop
          cases h
          refine ⟨by rw [hboxed]; rfl, ?_⟩
          cases hvisible : response.visibleRows with
          | nil =>
            have hlast : (handle.request.2.receive response).finished = true := by
              simpa [hvisible] using hstop
            exact .inr hlast
          | cons row rows => exact .inl (by simp [SuperhumanDocs.ffiScanBatch])
        · exact ih _ (hn ▸ listRows_replies hl) h rfl

/-- The context of an error of `rustBridgeNextScanBatch`. -/
abbrev nextContext : String := "failed to fetch next Superhuman Docs scan batch"

theorem rustBridgeNextScanBatch_spec [SerdeJson] [Allocator Block] (address : ℕ)
    (handle : ScanHandle) (replies : List Reply) :
    Triple (cell address (.scan handle)) (rustBridgeNextScanBatch (some address) replies)
      fun call own =>
        call.2 = (handle.nextBatch replies).2.replies ∧
        ∃ new, own = cell address (.scan (handle.nextBatch replies).1) + new ∧
        match (handle.nextBatch replies).2.result with
        | .error stop =>
          call.1 = .error (Stop.thrown nextContext .invalidInput stop) ∧ new = 0
        | .ok batch => ∃ raw, call.1 = .ok raw ∧ raw.finished = batch.finished ∧
          IsBatch raw (boxedRows batch) new := by
  unfold rustBridgeNextScanBatch
  refine (Triple.deref (β := Block) address handle).leaves_bind ?_
  refine (Triple.assign (β := Block) address handle _).leaves_bind ?_
  cases (handle.nextBatch replies).2.result with
  | error stop =>
    refine (ffiBool_orThrow (α := RustExtScanBatch) _ _ (.error stop) _).leaves_bind ?_
    exact Triple.pure ⟨rfl, 0, (add_zero _).symm, rfl, rfl⟩
  | ok batch =>
    rw [← zero_add (cell address _)]
    refine (ffiScanBatch_spec (boxedRows batch) batch.finished).frame_bind ?_
    rintro raw new ⟨hfinished, hbatch⟩
    refine (ffiBool_orThrow _ _ (.ok raw) _).leaves_bind ?_
    exact Triple.pure ⟨rfl, new, add_comm _ _, raw, rfl, hfinished, hbatch⟩

/-! ## The state of a scan -/

/-- A scan in memory that stands for one of the model and owns `held`. -/
structure Refines (own : Owned Block) (raw : RustBridgeScanGlobalState)
    (state : SuperhumanDocs.RustBridgeScanGlobalState) (held : Owned Block) : Prop where
  table : ReadsTable own raw.table state.table
  columnIndexes : raw.columnIndexes = state.columnIndexes
  outputTypes : raw.outputTypes = state.outputTypes
  rowOffset : raw.rowOffset = state.rowOffset
  remainingRows : raw.remainingRows = state.remainingRows
  finished : raw.finished = state.finished
  held : ∃ address rows batch, raw.scan = some address ∧
    state.rows.rows = rows.map SuperhumanDocs.ffiScanRow ∧ IsBatch raw.rows rows batch ∧
    held = cell address (.scan state.scan) + batch

/-- A row of a batch can be read, and is in memory. -/
theorem IsBatch.row {raw : RustExtScanBatch} {rows : List Row} {batch : Owned Block} {index : ℕ}
    {row : Row} (h : IsBatch raw rows batch) (hrow : rows[index]? = some row) :
    ∃ slice address rest, raw.rows = some slice ∧ batch = cell address (.row row) + rest ∧
      Triple batch (ItemPtr.deref RustExtScanRow ⟨slice, index⟩)
        (Leaves (scanRowRecord address row) batch) := by
  obtain ⟨slice, record, _, rest, hslice, ⟨address, rfl, rfl⟩, rfl, hderef⟩ := IsSlice.item h hrow
  exact ⟨slice, address, rest, hslice, rfl, hderef⟩

section
variable {own : Owned Block} {raw : RustBridgeScanGlobalState}
  {state : SuperhumanDocs.RustBridgeScanGlobalState} {held : Owned Block}

theorem Refines.rowCount (h : Refines own raw state held) :
    raw.rows.rowCount = state.rows.rows.length := by
  obtain ⟨address, rows, batch, -, hrows, hbatch, -⟩ := h.held
  rw [hrows, List.length_map]
  exact hbatch.length_eq

theorem Refines.countDown (h : Refines own raw state held) :
    Refines own raw.countDown state.countDown held := by
  refine ⟨h.table, h.columnIndexes, h.outputTypes, h.rowOffset, ?_, ?_, h.held⟩
  · show raw.remainingRows - 1 = state.remainingRows - 1
    rw [h.remainingRows]
  · show (raw.finished || raw.remainingRows == 1) = (state.finished || state.remainingRows == 1)
    rw [h.finished, h.remainingRows]

theorem Refines.advance (h : Refines own raw state held) :
    Refines own { raw with rowOffset := raw.rowOffset + 1 }
      { state with rowOffset := state.rowOffset + 1 } held :=
  ⟨h.table, h.columnIndexes, h.outputTypes, congrArg (· + 1) h.rowOffset, h.remainingRows,
    h.finished, h.held⟩

variable [SerdeJson]

/-- A call in memory that matches one of the model. -/
structure Matches {α : Type} (own : Owned Block) (raw : ScanCall α)
    (call : SuperhumanDocs.ScanCall α) (held : Owned Block) : Prop where
  state : Refines own raw.state call.state held
  result : SameResult (Surfaces nextContext) raw.result call.result
  replies : raw.replies = call.replies

theorem refill_stop {stop : Stop} {replies : List Reply} (h : state.unread = [])
    (hf : state.finished = false) (hr : (state.scan.nextBatch replies).2.result = .error stop) :
    state.refill replies =
      { state := { state with scan := (state.scan.nextBatch replies).1 }
        result := .error stop
        replies := (state.scan.nextBatch replies).2.replies } := by
  rw [SuperhumanDocs.RustBridgeScanGlobalState.refill, if_pos (List.drop_eq_nil_iff.1 h),
    if_neg (by simp [hf])]
  dsimp only
  split
  · rename_i stop' hs
    have : stop' = stop := by
      have := hs.symm.trans hr
      cases this; rfl
    rw [this]
  · rename_i hs; cases hs.symm.trans hr

/-- A refill that goes on found an unread row. -/
theorem refill_more {replies : List Reply} (h : (state.refill replies).result = .ok true) :
    ∃ row, (state.refill replies).state.rows.rows[(state.refill replies).state.rowOffset]? =
      some row := by
  by_cases hunread : state.unread = []
  · cases hfinished : state.finished with
    | true =>
      rw [SuperhumanDocs.refill_finished hunread hfinished] at h
      cases h
    | false =>
      cases hresult : (state.scan.nextBatch replies).2.result with
      | error stop =>
        rw [refill_stop hunread hfinished hresult] at h
        cases h
      | ok batch =>
        rw [SuperhumanDocs.refill_batch hunread hfinished hresult (nextBatch_boxed hresult).2]
          at h ⊢
        cases hrows : batch.rows with
        | nil => simp [hrows] at h
        | cons row rows => exact ⟨row, rfl⟩
  · rw [SuperhumanDocs.refill_unread hunread]
    obtain ⟨row, rows, hcons⟩ := List.exists_cons_of_ne_nil hunread
    exact ⟨row, (unread_cons hcons).1⟩

variable [Allocator Block]

/-- **A refill in memory**: the rows of the last batch are freed when the next one is there. -/
theorem refill_matches (h : Refines own raw state held) (replies : List Reply) :
    Triple (own + held) (raw.refill replies) fun call own' =>
      ∃ held', own' = own + held' ∧ Matches own call (state.refill replies) held' := by
  have hcount := h.rowCount
  rw [RustBridgeScanGlobalState.refill]
  by_cases hunread : state.unread = []
  · have hge : state.rowOffset ≥ state.rows.rows.length := List.drop_eq_nil_iff.1 hunread
    rw [if_pos (by rw [h.rowOffset, hcount]; exact hge)]
    by_cases hfinished : state.finished = true
    · rw [if_pos (by rw [h.finished, hfinished]), SuperhumanDocs.refill_finished hunread hfinished]
      exact Triple.pure ⟨held, rfl, h, .ok false, rfl⟩
    · rw [Bool.not_eq_true] at hfinished
      rw [if_neg (by rw [h.finished, hfinished]; simp)]
      obtain ⟨address, rows, batch, hscan, hrows, hbatch, rfl⟩ := h.held
      rw [hscan, show own + (cell address (Block.scan state.scan) + batch) =
        cell address (Block.scan state.scan) + (own + batch) by abel]
      refine (rustBridgeNextScanBatch_spec address state.scan replies).frame_bind ?_
      rintro ⟨response, left⟩ _ ⟨rfl, new, rfl, hresponse⟩
      cases hresult : (state.scan.nextBatch replies).2.result with
      | error stop =>
        rw [hresult] at hresponse
        obtain ⟨rfl, rfl⟩ := hresponse
        rw [refill_stop hunread hfinished hresult]
        refine Triple.pure ⟨cell address (.scan (state.scan.nextBatch replies).1) + batch, by abel,
          ⟨h.table, h.columnIndexes, h.outputTypes, h.rowOffset, h.remainingRows, h.finished,
            address, rows, batch, hscan, hrows, hbatch, rfl⟩, ?_, rfl⟩
        exact thrown_surfaces nextContext (.error stop)
      | ok next =>
        rw [hresult] at hresponse
        obtain ⟨rawNext, rfl, hnext, hnew⟩ := hresponse
        obtain ⟨hboxed, hnonempty⟩ := nextBatch_boxed hresult
        rw [SuperhumanDocs.refill_batch hunread hfinished hresult hnonempty,
          show cell address (Block.scan (state.scan.nextBatch replies).1) + new + (own + batch) =
            batch + (own + (cell address (.scan (state.scan.nextBatch replies).1) + new)) by abel]
        refine hbatch.free.leaves_frame_bind ?_
        rw [zero_add]
        have hrefines : Refines own
            { raw with
              scan := some address
              rows := rawNext
              finished := rawNext.finished
              rowOffset := 0 }
            { state with
              scan := (state.scan.nextBatch replies).1
              rows := next
              finished := next.finished
              rowOffset := 0 }
            (cell address (.scan (state.scan.nextBatch replies).1) + new) :=
          ⟨h.table, h.columnIndexes, h.outputTypes, rfl, h.remainingRows, hnext, address,
            boxedRows next, new, rfl, congrArg (·.rows) hboxed, hnew, rfl⟩
        have hrowCount : rawNext.rowCount = next.rows.length := hrefines.rowCount
        dsimp only
        by_cases hrows : next.rows = []
        · have hlast : rawNext.finished = true :=
            hnext.trans (hnonempty.resolve_left (not_not.2 hrows))
          rw [if_pos (by rw [hrowCount, hrows]; rfl), if_pos hlast, hrows]
          exact Triple.pure ⟨_, rfl, hrefines, .ok false, rfl⟩
        · rw [if_neg (by rw [hrowCount]; exact fun h => hrows (List.length_eq_zero_iff.1 h)),
            show (!next.rows.isEmpty) = true by simpa using hrows]
          exact Triple.pure ⟨_, rfl, hrefines, .ok true, rfl⟩
  · have hlt : ¬ state.rowOffset ≥ state.rows.rows.length := fun hge =>
      hunread (List.drop_eq_nil_of_le hge)
    rw [if_neg (by rw [h.rowOffset, hcount]; exact hlt), SuperhumanDocs.refill_unread hunread]
    exact Triple.pure ⟨held, rfl, h, .ok true, rfl⟩

variable {F : Type} [F64 F] [DuckDb F]

theorem scanRows_matches (space : ℕ) (h : Refines own raw state held) (replies : List Reply) :
    Triple (own + held) (scanRows (F := F) space raw replies) fun call own' =>
      ∃ held', own' = own + held' ∧
        Matches own call (SuperhumanDocs.scanRows space state replies) held' := by
  induction space generalizing raw state held replies with
  | zero => exact Triple.pure ⟨held, rfl, h, .ok [], rfl⟩
  | succ space ih =>
    unfold scanRows SuperhumanDocs.scanRows
    refine (refill_matches h replies).bind ?_
    rintro refilled _ ⟨held', rfl, hrefilled⟩
    have hresult := hrefilled.result
    have hreplies := hrefilled.replies
    dsimp only
    cases hmodel : (state.refill replies).result with
    | error stop =>
      rw [hmodel] at hresult
      generalize refilled.result = x at hresult
      cases hresult with
      | error hsurfaces =>
        exact Triple.pure ⟨held', rfl, hrefilled.state, .error hsurfaces, hreplies⟩
    | ok more =>
      rw [hmodel] at hresult
      generalize refilled.result = x at hresult
      cases hresult
      cases more with
      | false => exact Triple.pure ⟨held', rfl, hrefilled.state, .ok [], hreplies⟩
      | true =>
        obtain ⟨record, hrecord⟩ := refill_more hmodel
        have hstate := hrefilled.state
        generalize (state.refill replies).state = state' at hstate hrecord ⊢
        have hadvance := hstate.advance
        obtain ⟨address, rows, batch, -, hrows, hbatch, rfl⟩ := hstate.held
        have hrow := hrecord
        rw [hrows, List.getElem?_map, Option.map_eq_some_iff] at hrow
        obtain ⟨row, hrow, rfl⟩ := hrow
        obtain ⟨slice, rowAddress, rest, hslice, hbatch', hderef⟩ := hbatch.row hrow
        have hscan : own + (cell address (Block.scan state'.scan) + batch) =
            batch + (own + cell address (Block.scan state'.scan)) := by abel
        have hread : own + (cell address (Block.scan state'.scan) + batch) =
            own + cell rowAddress (Block.row row) +
              (rest + cell address (Block.scan state'.scan)) := by rw [hbatch']; abel
        have hvalues := (outputRow_spec (F := F) hstate.table rowAddress row
          (refilled.state.columnIndexes.zip refilled.state.outputTypes)).leaves_frame
            (rest + cell address (Block.scan state'.scan))
        have hmodelRow : ((refilled.state.columnIndexes.zip refilled.state.outputTypes).mapM
            fun column => SuperhumanDocs.scanOutputValue (F := F) state'.table
              (SuperhumanDocs.ffiScanRow row) column.1 column.2) =
            state'.outputRow (SuperhumanDocs.ffiScanRow row) := by
          rw [hstate.columnIndexes, hstate.outputTypes]
          rfl
        rw [← hread, hmodelRow] at hvalues
        rw [← hstate.rowOffset] at hderef
        rw [hslice, hrecord, hscan]
        refine hderef.leaves_frame_bind ?_
        rw [← hscan]
        refine hvalues.leaves_bind ?_
        dsimp only
        rw [show SuperhumanDocs.RustBridgeScanGlobalState.outputRow (F := F)
          { state' with rowOffset := state'.rowOffset + 1 } (SuperhumanDocs.ffiScanRow row) =
            state'.outputRow (SuperhumanDocs.ffiScanRow row) from rfl]
        cases state'.outputRow (F := F) (SuperhumanDocs.ffiScanRow row) with
        | error e => exact Triple.pure ⟨_, rfl, hadvance, .error (.internal e), hreplies⟩
        | ok values =>
          dsimp only [Except.mapError]
          by_cases hlast : state'.remainingRows = 1
          · rw [if_pos (hstate.remainingRows.trans hlast), if_pos hlast]
            exact Triple.pure ⟨_, rfl, hadvance.countDown, .ok [values], hreplies⟩
          · rw [if_neg (hstate.remainingRows ▸ hlast), if_neg hlast, hreplies]
            refine (ih hadvance.countDown _).bind ?_
            rintro call _ ⟨held, rfl, hcall⟩
            exact Triple.pure ⟨held, rfl, hcall.state, hcall.result.map _, hcall.replies⟩

/-- **A chunk in memory**: the rows of the model, or the same failure, for the same replies. -/
theorem rustBridgeScan_matches (standardVectorSize : ℕ) (h : Refines own raw state held)
    (replies : List Reply) :
    Triple (own + held) (rustBridgeScan (F := F) standardVectorSize raw replies) fun call own' =>
      ∃ held', own' = own + held' ∧ Matches own call
        (SuperhumanDocs.rustBridgeScan standardVectorSize state replies) held' := by
  unfold rustBridgeScan SuperhumanDocs.rustBridgeScan
  rw [h.finished, h.rowOffset, h.rowCount]
  split_ifs
  · exact Triple.pure ⟨held, rfl, h, .ok [], rfl⟩
  · exact scanRows_matches standardVectorSize h replies

end

/-! ## Opening and destroying -/

/-- **A destroyed scan leaves nothing.** -/
theorem Refines.destroy {own : Owned Block} {raw : RustBridgeScanGlobalState}
    {state : SuperhumanDocs.RustBridgeScanGlobalState} {held : Owned Block}
    (h : Refines own raw state held) : Triple held raw.destroy (Leaves () 0) := by
  obtain ⟨address, rows, batch, hscan, -, hbatch, rfl⟩ := h.held
  unfold RustBridgeScanGlobalState.destroy
  rw [hscan, add_comm]
  refine hbatch.free.leaves_frame_bind ?_
  rw [zero_add]
  exact dropHandle_spec address state.scan

section
variable [Allocator Block] {own : Owned Block} {info : SuperhumanDocs.RustBridgeScanBindData}
  {raw : RustBridgeScanBindData} {config : ClientConfig} {table : Table} {handle : Option ℕ}

/-- Bind data in memory, for a table of the catalog. -/
structure ReadsBindData (own : Owned Block) (raw : RustBridgeScanBindData)
    (info : SuperhumanDocs.RustBridgeScanBindData) : Prop where
  table : ReadsTable own raw.table info.table
  pushedQuery : raw.pushedQuery = info.pushedQuery
  pushedSortBy : raw.pushedSortBy = info.pushedSortBy
  pushedLimit : raw.pushedLimit = info.pushedLimit

abbrev openContext : String := "failed to open Superhuman Docs scan"

theorem rustBridgeOpenScan_spec (newClient : ClientConfig → Except String Unit)
    (hconfig : Triple own (refFromRaw ClientConfig handle "client config")
      (Leaves (.ok config) own))
    (h : ReadsBindData own raw info) (htable : info.table.table.handle = some table) :
    Triple own (rustBridgeOpenScan newClient handle raw) fun result own' =>
      match ScanHandle.new newClient config table
        { filter := info.pushedQuery, order := info.pushedSortBy, limit := info.pushedLimit } with
      | .error e => result = .error (some (.invalidInput s!"{openContext}: {e}")) ∧ own' = own
      | .ok scan => ∃ address, result = .ok address ∧ own' = own + cell address (.scan scan) := by
  obtain ⟨record, table', htable', hderef, hread⟩ := h.table.table
  rw [htable, Option.some.injEq] at htable'
  subst htable'
  unfold rustBridgeOpenScan
  refine hderef.leaves_bind ?_
  refine hconfig.leaves_bind ?_
  refine hread.leaves_bind ?_
  refine (lendString_asStr _ own).leaves_bind ?_
  refine (lendString_asStr _ own).leaves_bind ?_
  rw [h.pushedQuery, h.pushedSortBy, h.pushedLimit]
  show Triple own
    (match ScanHandle.new newClient config table _ with | .error e => _ | .ok scan => _) _
  cases ScanHandle.new newClient config table _ with
  | error e =>
    exact (ffiBool_orThrow _ _ (.error (.failed e)) own).mono fun _ _ hthrown => hthrown
  | ok scan =>
    rw [← zero_add own]
    refine (Triple.alloc (Block.scan scan)).frame_bind fun address new hnew => ?_
    refine (ffiBool_orThrow _ _ (.ok address) _).mono ?_
    rintro _ _ ⟨rfl, rfl⟩
    exact ⟨address, rfl, by rw [hnew, zero_add, add_comm]⟩

/-- **A scan is opened** for the handle and the table of the model. -/
theorem new_matches (newClient : ClientConfig → Except String Unit)
    (hconfig : Triple own (refFromRaw ClientConfig handle "client config")
      (Leaves (.ok config) own))
    (h : ReadsBindData own raw info) (htable : info.table.table.handle = some table)
    (projectionIds : List ℕ) (columnIndexes : List ColumnIndex) (outputTypes : List LogicalType) :
    Triple own (RustBridgeScanGlobalState.new newClient handle raw projectionIds columnIndexes
      outputTypes) fun result own' =>
      match SuperhumanDocs.RustBridgeScanGlobalState.new newClient config table info projectionIds
        columnIndexes outputTypes with
      | .error e => (∃ thrown, result = .error thrown ∧ Surfaces openContext thrown (.failed e)) ∧
        own' = own
      | .ok state => ∃ raw held, result = .ok raw ∧ own' = own + held ∧
        Refines own raw state held := by
  unfold RustBridgeScanGlobalState.new SuperhumanDocs.RustBridgeScanGlobalState.new
  cases projectedColumns projectionIds columnIndexes with
  | error e => exact Triple.pure ⟨⟨_, rfl, .internal e⟩, rfl⟩
  | ok columnIndexes =>
    refine (rustBridgeOpenScan_spec newClient hconfig h htable).bind fun result own' hresult => ?_
    cases hscan : ScanHandle.new newClient config table
      { filter := info.pushedQuery, order := info.pushedSortBy, limit := info.pushedLimit } with
    | error e =>
      rw [hscan] at hresult
      obtain ⟨rfl, rfl⟩ := hresult
      simp only [hscan]
      exact Triple.pure ⟨⟨_, rfl, .rust e⟩, rfl⟩
    | ok scan =>
      rw [hscan] at hresult
      obtain ⟨address, rfl, rfl⟩ := hresult
      refine Triple.pure ?_
      dsimp only [bind, Except.bind]
      rw [hscan]
      exact ⟨_, cell address (.scan scan), rfl, rfl, h.table, rfl, rfl, rfl, h.pushedLimit, rfl,
        address, [], 0, rfl, rfl, isBatch_default, (add_zero _).symm⟩

end

end SuperhumanDocs.Raw
