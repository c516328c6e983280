import SuperhumanDocs.Bridge.Scan
import SuperhumanDocs.Paging.Limit
import SuperhumanDocs.Proof.ClientScan

/-!
# Runs of the table scan

`Scanning` is the invariant of the global state: its scan handle reads the remaining responses.
`outstanding` are the rows the state is still to emit; every chunk is a prefix of them
(`rustBridgeScan_spec`), so that a whole run emits all of them (`ScanRun.flatten`).
-/

set_option autoImplicit false

namespace SuperhumanDocs

open Binary (F64)
open Json (SerdeJson)
open Paging (limited limited_nil_cons limited_cons_cons limited_singleton limited_skip)

/-! ## The rows left -/

/-- The rows of the current batch that were not emitted. -/
def RustBridgeScanGlobalState.unread (state : RustBridgeScanGlobalState) : List RustExtScanRow :=
  state.rows.rows.drop state.rowOffset

/-- The rows the state is still to emit. -/
def RustBridgeScanGlobalState.outstanding (state : RustBridgeScanGlobalState)
    (responses : List RowsResponse) : List RustExtScanRow :=
  if state.finished then state.unread
  else limited state.remainingRows (state.unread :: visiblePages responses)

section
variable [SerdeJson]

/-- The invariant of a scan with a pushed limit. -/
structure Scanning (limit : Nat) (state : RustBridgeScanGlobalState) (replies : List Reply)
    (responses : List RowsResponse) : Prop where
  consumes : Consumes state.scan replies responses
  finished : state.scan.finished = true → state.finished = true
  unlimited : limit = 0 → state.remainingRows = 0 ∧
    (state.finished = true → state.scan.finished = true)

variable {limit : Nat} {state : RustBridgeScanGlobalState} {replies : List Reply}
  {responses : List RowsResponse}

/-! ## Refilling -/

theorem refill_unread (h : state.unread ≠ []) :
    state.refill replies = { state, result := .ok true, replies } := by
  have : ¬ state.rowOffset ≥ state.rows.rows.length := fun hge =>
    h (List.drop_eq_nil_of_le hge)
  rw [RustBridgeScanGlobalState.refill, if_neg this]

theorem refill_finished (h : state.unread = []) (hf : state.finished = true) :
    state.refill replies = { state, result := .ok false, replies } := by
  rw [RustBridgeScanGlobalState.refill, if_pos (List.drop_eq_nil_iff.1 h), if_pos hf]

theorem refill_batch (h : state.unread = []) (hf : state.finished = false)
    {rows : RustExtScanBatch} (hr : (state.scan.nextBatch replies).2.result = .ok rows)
    (hne : rows.rows ≠ [] ∨ rows.finished = true) :
    state.refill replies =
      { state := { state with
          scan := (state.scan.nextBatch replies).1
          rows
          finished := rows.finished
          rowOffset := 0 }
        result := .ok !rows.rows.isEmpty
        replies := (state.scan.nextBatch replies).2.replies } := by
  rw [RustBridgeScanGlobalState.refill, if_pos (List.drop_eq_nil_iff.1 h), if_neg (by simp [hf])]
  dsimp only
  split
  · rename_i hs; cases hs.symm.trans hr
  · rename_i rows' hs
    have : rows' = rows := by
      have := hs.symm.trans hr
      cases this; rfl
    subst this
    split
    · rename_i he
      have hfin : rows'.finished = true := hne.resolve_left (by simpa using he)
      rw [dif_pos hfin, he]
      rfl
    · rename_i he
      rw [Bool.not_eq_true] at he
      rw [he]
      rfl

/-- What a refill does. -/
structure Refilled (limit : Nat) (state : RustBridgeScanGlobalState) (responses : List RowsResponse)
    (call : ScanCall Bool) (more : Bool) (rest : List RowsResponse) : Prop where
  result : call.result = .ok more
  scanning : Scanning limit call.state call.replies rest
  outstanding : call.state.outstanding rest = state.outstanding responses
  table : call.state.table = state.table
  columnIndexes : call.state.columnIndexes = state.columnIndexes
  outputTypes : call.state.outputTypes = state.outputTypes
  unread : more = true → call.state.unread ≠ []
  done : more = false → call.state.unread = [] ∧ call.state.finished = true

theorem refill_spec (h : Scanning limit state replies responses) :
    ∃ more rest, Refilled limit state responses (state.refill replies) more rest := by
  by_cases hu : state.unread = []
  · cases hf : state.finished with
    | true =>
      rw [refill_finished hu hf]
      exact ⟨false, responses, rfl, h, rfl, rfl, rfl, rfl, by simp, fun _ => ⟨hu, hf⟩⟩
    | false =>
      obtain ⟨rows, rest, hb⟩ := nextBatch_consumes h.consumes
      have hne : (ffiScanBatch rows (state.scan.nextBatch replies).1.finished).rows ≠ [] ∨
          (ffiScanBatch rows (state.scan.nextBatch replies).1.finished).finished = true := by
        rcases hb.nonempty with hr | hr
        · exact .inl (by simpa [ffiScanBatch] using hr)
        · exact .inr (hb.consumes.finished_iff.2 hr)
      rw [refill_batch hu hf hb.result hne]
      refine ⟨_, rest, rfl, ⟨hb.consumes, id, fun hl => ⟨(h.unlimited hl).1, id⟩⟩, ?_, rfl, rfl, rfl,
        ?_, ?_⟩
      · obtain ⟨skipped, hs, hempty⟩ := hb.skips
        have hout : state.outstanding responses = limited state.remainingRows
            ((if rows = [] then [] else [rows.map ffiScanRow]) ++ visiblePages rest) := by
          rw [RustBridgeScanGlobalState.outstanding, if_neg (by simp [hf]), hu, limited_nil_cons,
            hs, List.append_assoc, limited_skip hempty]
        rw [hout]
        cases hfin : (state.scan.nextBatch replies).1.finished with
        | true =>
          have hrest := hb.consumes.finished_iff.1 hfin
          subst hrest
          by_cases hr : rows = []
          · simp [RustBridgeScanGlobalState.outstanding, RustBridgeScanGlobalState.unread,
              ffiScanBatch, visiblePages, hr, limited]
          · simp [RustBridgeScanGlobalState.outstanding, RustBridgeScanGlobalState.unread,
              ffiScanBatch, visiblePages, hr, limited_singleton]
        | false =>
          have hr : rows ≠ [] := hb.nonempty.resolve_right fun e => by
            rw [hb.consumes.finished_iff.2 e] at hfin; cases hfin
          simp [RustBridgeScanGlobalState.outstanding, RustBridgeScanGlobalState.unread,
            ffiScanBatch, hr]
      · intro hm
        simpa [RustBridgeScanGlobalState.unread] using hm
      · intro hm
        refine ⟨by simpa [RustBridgeScanGlobalState.unread] using hm, ?_⟩
        exact hne.resolve_left (by simpa using hm)
  · rw [refill_unread hu]
    exact ⟨true, responses, rfl, h, rfl, rfl, rfl, rfl, fun _ => hu, by simp⟩

/-! ## Emitting a row -/

/-- The state after its next row. -/
def RustBridgeScanGlobalState.step (state : RustBridgeScanGlobalState) :
    RustBridgeScanGlobalState :=
  RustBridgeScanGlobalState.countDown { state with rowOffset := state.rowOffset + 1 }

omit [SerdeJson] in
theorem unread_cons {row : RustExtScanRow} {rows : List RustExtScanRow}
    (h : state.unread = row :: rows) :
    state.rows.rows[state.rowOffset]? = some row ∧ state.step.unread = rows := by
  have hlt : state.rowOffset < state.rows.rows.length := by
    by_contra hge
    rw [RustBridgeScanGlobalState.unread, List.drop_eq_nil_of_le (by omega)] at h
    cases h
  rw [RustBridgeScanGlobalState.unread, List.drop_eq_getElem_cons hlt] at h
  cases h
  exact ⟨List.getElem?_eq_getElem hlt, rfl⟩

/-- **A row is emitted**: it was the next one outstanding, and the rest stays outstanding. -/
theorem step_spec (h : Scanning limit state replies responses) {row : RustExtScanRow}
    {rows : List RustExtScanRow} (hu : state.unread = row :: rows) :
    Scanning limit state.step replies responses ∧
      state.outstanding responses = row :: state.step.outstanding responses := by
  have hunread := (unread_cons hu).2
  constructor
  · refine ⟨h.consumes, fun hf => ?_, fun hl => ?_⟩
    · simp [RustBridgeScanGlobalState.step, RustBridgeScanGlobalState.countDown, h.finished hf]
    · have hr := (h.unlimited hl).1
      refine ⟨by simp [RustBridgeScanGlobalState.step, RustBridgeScanGlobalState.countDown, hr],
        fun hf => (h.unlimited hl).2 ?_⟩
      simpa [RustBridgeScanGlobalState.step, RustBridgeScanGlobalState.countDown, hr] using hf
  · by_cases hone : state.remainingRows = 1
    · have hf : state.step.finished = true := by
        simp [RustBridgeScanGlobalState.step, RustBridgeScanGlobalState.countDown, hone]
      rw [RustBridgeScanGlobalState.outstanding, RustBridgeScanGlobalState.outstanding, if_pos hf,
        hunread, hu, hone, Paging.limited_reached _ Nat.one_pos (by simp), ite_self]
    · have hf : state.step.finished = state.finished := by
        simp [RustBridgeScanGlobalState.step, RustBridgeScanGlobalState.countDown, hone]
      have hr : state.step.remainingRows = state.remainingRows - 1 := rfl
      rw [RustBridgeScanGlobalState.outstanding, RustBridgeScanGlobalState.outstanding, hf, hr,
        hunread, hu]
      split
      · rfl
      · rw [limited_cons_cons _ _ _ hone]

/-! ## Chunks -/

variable {F : Type} [F64 F] [DuckDb F]

theorem outputRow_succeeds (h : state.InRange) (row : RustExtScanRow) :
    Effect.Succeeds (state.outputRow row : Except String (List (DuckValue F))) := by
  apply Effect.mapM_succeeds.2
  intro p hp
  obtain ⟨index, type⟩ := p
  have hmem := (List.of_mem_zip hp).1
  simp only [scanOutputValue]
  cases hv : index.isVirtualColumn with
  | true => simp only [if_true]; split <;> exact ⟨_, rfl⟩
  | false =>
    have hlt := (h index hmem).resolve_left (by simp [hv])
    rw [List.getElem?_eq_getElem hlt]
    exact ⟨_, rfl⟩

/-- What a call that fills a chunk of at most `space` rows does. -/
structure Chunked (F : Type) [F64 F] [DuckDb F] (limit space : Nat)
    (state : RustBridgeScanGlobalState) (responses : List RowsResponse)
    (call : ScanCall (List (List (DuckValue F)))) (chunk : List (List (DuckValue F)))
    (rest : List RowsResponse) : Prop where
  result : call.result = .ok chunk
  scanning : Scanning limit call.state call.replies rest
  inRange : call.state.InRange
  outputRow : call.state.outputRow (F := F) = state.outputRow
  length : chunk.length ≤ space
  /-- The chunk is the next rows outstanding. -/
  emitted : chunk.map Except.ok =
    ((state.outstanding responses).take chunk.length).map state.outputRow
  outstanding : call.state.outstanding rest = (state.outstanding responses).drop chunk.length
  /-- An empty chunk is the end. -/
  done : space ≠ 0 → chunk = [] → call.state.unread = [] ∧ call.state.finished = true

/-- Each row outstanding is in the chunk or still outstanding. -/
theorem Chunked.length_add {F : Type} [F64 F] [DuckDb F] {limit space : Nat}
    {responses rest : List RowsResponse} {call : ScanCall (List (List (DuckValue F)))}
    {chunk : List (List (DuckValue F))}
    (h : Chunked F limit space state responses call chunk rest) :
    chunk.length + (call.state.outstanding rest).length = (state.outstanding responses).length := by
  have hlength := congrArg List.length h.emitted
  rw [List.length_map, List.length_map, List.length_take] at hlength
  rw [h.outstanding, List.length_drop]
  omega

/-! ### One turn of the loop -/

theorem scanRows_end {space : Nat} (hresult : (state.refill replies).result = .ok false) :
    scanRows (F := F) (space + 1) state replies =
      { state := (state.refill replies).state, result := .ok []
        replies := (state.refill replies).replies } := by
  rw [scanRows]
  simp only [hresult]

section
variable {space : Nat} {row : RustExtScanRow} {rows : List RustExtScanRow}
  {values : List (DuckValue F)} (hresult : (state.refill replies).result = .ok true)
  (hunread : (state.refill replies).state.unread = row :: rows)
  (hvalues : (state.refill replies).state.outputRow row = .ok values)
include hresult hunread hvalues

theorem scanRows_last (hone : (state.refill replies).state.remainingRows = 1) :
    scanRows (space + 1) state replies =
      { state := (state.refill replies).state.step, result := .ok [values]
        replies := (state.refill replies).replies } := by
  have hvalues : RustBridgeScanGlobalState.outputRow
      { (state.refill replies).state with
        rowOffset := (state.refill replies).state.rowOffset + 1 } row = .ok values := hvalues
  rw [scanRows]
  simp only [hresult, (unread_cons hunread).1, hvalues, if_pos hone]
  rfl

theorem scanRows_next (hone : (state.refill replies).state.remainingRows ≠ 1)
    {chunk : List (List (DuckValue F))}
    (hrest : (scanRows (F := F) space (state.refill replies).state.step
      (state.refill replies).replies).result = .ok chunk) :
    scanRows (F := F) (space + 1) state replies =
      { scanRows (F := F) space (state.refill replies).state.step (state.refill replies).replies with
        result := .ok (values :: chunk) } := by
  have hvalues : RustBridgeScanGlobalState.outputRow
      { (state.refill replies).state with
        rowOffset := (state.refill replies).state.rowOffset + 1 } row = .ok values := hvalues
  simp only [RustBridgeScanGlobalState.step] at hrest
  rw [scanRows]
  simp only [hresult, (unread_cons hunread).1, hvalues, if_neg hone, hrest]
  rfl

end

theorem scanRows_spec (space : Nat) (h : Scanning limit state replies responses)
    (hr : state.InRange) :
    ∃ chunk rest, Chunked F limit space state responses (scanRows space state replies) chunk rest := by
  induction space generalizing state replies responses with
  | zero => exact ⟨[], responses, rfl, h, hr, rfl, Nat.le_refl _, by simp, rfl, by simp⟩
  | succ space ih =>
    obtain ⟨more, rest, hrefill⟩ := refill_spec h
    have hrange : (state.refill replies).state.InRange := by
      rw [RustBridgeScanGlobalState.InRange, hrefill.columnIndexes, hrefill.table]
      exact hr
    have hout : (state.refill replies).state.outputRow (F := F) = state.outputRow := by
      funext row
      rw [RustBridgeScanGlobalState.outputRow, hrefill.columnIndexes, hrefill.outputTypes,
        hrefill.table, RustBridgeScanGlobalState.outputRow]
    cases more with
    | false =>
      rw [scanRows_end hrefill.result]
      exact ⟨[], rest, rfl, hrefill.scanning, hrange, hout, Nat.zero_le _, by simp,
        hrefill.outstanding, fun _ _ => hrefill.done rfl⟩
    | true =>
      obtain ⟨row, rows, hu⟩ := List.exists_cons_of_ne_nil (hrefill.unread rfl)
      obtain ⟨values, hvalues⟩ := outputRow_succeeds (F := F) hrange row
      obtain ⟨hscan, hnext⟩ := step_spec hrefill.scanning hu
      by_cases hone : (state.refill replies).state.remainingRows = 1
      · rw [scanRows_last hrefill.result hu hvalues hone]
        refine ⟨[values], rest, rfl, hscan, hrange, hout, by simp, ?_, ?_, by simp⟩
        · rw [← hrefill.outstanding, hnext, ← hout]
          simp [hvalues]
        · rw [← hrefill.outstanding, hnext]
          rfl
      · obtain ⟨chunk, rest', hc⟩ := ih hscan hrange
        have hstep : (state.refill replies).state.step.outputRow (F := F) = state.outputRow := hout
        rw [scanRows_next hrefill.result hu hvalues hone hc.result]
        refine ⟨values :: chunk, rest', rfl, hc.scanning, hc.inRange, hc.outputRow.trans hstep,
          ?_, ?_, ?_, by simp⟩
        · have := hc.length
          simp only [List.length_cons]
          omega
        · rw [← hrefill.outstanding, hnext]
          simp only [List.map_cons, List.length_cons, List.take_succ_cons, hc.emitted, hstep,
            ← hout, hvalues]
        · rw [← hrefill.outstanding, hnext]
          exact hc.outstanding

theorem rustBridgeScan_spec (standardVectorSize : Nat)
    (h : Scanning limit state replies responses) (hr : state.InRange) :
    ∃ chunk rest, Chunked F limit standardVectorSize state responses
      (rustBridgeScan standardVectorSize state replies) chunk rest := by
  unfold rustBridgeScan
  split
  · rename_i hend
    simp only [Bool.and_eq_true, decide_eq_true_eq] at hend
    exact ⟨[], responses, rfl, h, hr, rfl, Nat.zero_le _, by simp, rfl,
      fun _ _ => ⟨List.drop_eq_nil_of_le hend.2, hend.1⟩⟩
  · exact scanRows_spec standardVectorSize h hr

end

end SuperhumanDocs
