import SuperhumanDocs.Bridge.Reference
import SuperhumanDocs.Proof.BridgeScan

/-!
# What a whole scan streams

`ScanRun`: DuckDB calls the scan until it returns an empty chunk.

* `scan_streams_visible`: without a limit, a run streams the visible rows of all responses and
  ends with every page requested.
* `scan_limit_iff`: with a limit, exactly when a run streams the first visible rows.
-/

set_option autoImplicit false

namespace SuperhumanDocs

open Binary (F64 Binary64)
open Json (SerdeJson)
open Paging (limited limited_zero limited_nil_cons limited_prefix limited_eq_take_iff)

/-- Calls of the scan up to the first empty chunk: the chunks before it, the state after it and
the replies left. -/
inductive ScanRun {F : Type} [F64 F] [SerdeJson] [DuckDb F] (standardVectorSize : Nat) :
    RustBridgeScanGlobalState → List Reply → List (List (List (DuckValue F))) →
    RustBridgeScanGlobalState → List Reply → Prop
  | stop {state : RustBridgeScanGlobalState} {replies : List Reply} :
      (rustBridgeScan (F := F) standardVectorSize state replies).result = .ok [] →
      ScanRun standardVectorSize state replies []
        (rustBridgeScan (F := F) standardVectorSize state replies).state
        (rustBridgeScan (F := F) standardVectorSize state replies).replies
  | call {state final : RustBridgeScanGlobalState} {replies rest : List Reply}
      {chunk : List (List (DuckValue F))} {chunks : List (List (List (DuckValue F)))} :
      (rustBridgeScan (F := F) standardVectorSize state replies).result = .ok chunk → chunk ≠ [] →
      ScanRun standardVectorSize (rustBridgeScan (F := F) standardVectorSize state replies).state
        (rustBridgeScan (F := F) standardVectorSize state replies).replies chunks final rest →
      ScanRun standardVectorSize state replies (chunk :: chunks) final rest

section
variable {F : Type} [F64 F] [SerdeJson] [DuckDb F] {limit standardVectorSize : Nat}
  {state : RustBridgeScanGlobalState} {replies : List Reply} {responses : List RowsResponse}

theorem scanRun_exists (h : Scanning limit state replies responses)
    (hr : state.InRange) :
    ∃ chunks final rest, ScanRun (F := F) standardVectorSize state replies chunks final rest := by
  induction hn : (state.outstanding responses).length using Nat.strong_induction_on
    generalizing state replies responses with
  | _ n ih =>
    obtain ⟨chunk, rest, hc⟩ := rustBridgeScan_spec (F := F) standardVectorSize h hr
    by_cases hne : chunk = []
    · subst hne
      exact ⟨_, _, _, .stop hc.result⟩
    · have hlen : ((rustBridgeScan (F := F) standardVectorSize state replies).state.outstanding
          rest).length < n := by
        have hpos := List.length_pos_of_ne_nil hne
        have hle := congrArg List.length hc.emitted
        rw [List.length_map, List.length_map, List.length_take] at hle
        rw [hc.outstanding, List.length_drop]
        omega
      obtain ⟨chunks, final, rest', hrun⟩ := ih _ hlen hc.scanning hc.inRange rfl
      exact ⟨_, _, _, .call hc.result hne hrun⟩

/-- What is left after a run. -/
structure Ended (limit : Nat) (final : RustBridgeScanGlobalState) (rest : List Reply) : Prop where
  unread : final.unread = []
  finished : final.finished = true
  scanning : ∃ responses, Scanning limit final rest responses

/-- **A run emits exactly the outstanding rows**, and nothing is left unread. -/
theorem ScanRun.flatten {chunks : List (List (List (DuckValue F)))}
    {final : RustBridgeScanGlobalState} {rest : List Reply}
    (hrun : ScanRun standardVectorSize state replies chunks final rest)
    (hV : 0 < standardVectorSize) (h : Scanning limit state replies responses)
    (hr : state.InRange) :
    chunks.flatten.map Except.ok = (state.outstanding responses).map state.outputRow ∧
      Ended limit final rest := by
  induction hrun generalizing responses with
  | @stop state replies hres =>
    obtain ⟨chunk, rest, hc⟩ := rustBridgeScan_spec (F := F) standardVectorSize h hr
    cases hres.symm.trans hc.result
    obtain ⟨hu, hf⟩ := hc.done hV.ne' rfl
    have hout : state.outstanding responses = [] := by
      have := hc.outstanding
      rwa [RustBridgeScanGlobalState.outstanding, if_pos hf, hu, List.length_nil, List.drop_zero,
        eq_comm] at this
    exact ⟨by simp [hout], hu, hf, rest, hc.scanning⟩
  | @call state final replies rest chunk chunks hres hne hrun ih =>
    obtain ⟨chunk', rest', hc⟩ := rustBridgeScan_spec (F := F) standardVectorSize h hr
    cases hres.symm.trans hc.result
    obtain ⟨hflat, hend⟩ := ih hc.scanning hc.inRange
    refine ⟨?_, hend⟩
    rw [List.flatten_cons, List.map_append, hflat, hc.emitted, hc.outputRow, hc.outstanding,
      ← List.map_append, List.take_append_drop]

end

/-! ## Opened scans -/

section
variable [SerdeJson] {newClient : ClientConfig → Except String Unit} {config : ClientConfig}
  {table : Table} {bindData : RustBridgeScanBindData} {projectionIds : List Nat}
  {columnIndexes : List ColumnIndex} {outputTypes : List LogicalType}
  {state : RustBridgeScanGlobalState} {replies : List Reply} {responses : List RowsResponse}

omit [SerdeJson] in
theorem new_spec (h : RustBridgeScanGlobalState.new newClient config table bindData projectionIds
    columnIndexes outputTypes = .ok state) :
    state.rows = { rows := [], finished := false } ∧ state.rowOffset = 0 ∧
      state.remainingRows = bindData.pushedLimit ∧ state.finished = false ∧
      state.scan.finished = false := by
  unfold RustBridgeScanGlobalState.new at h
  obtain ⟨indexes, -, h⟩ := Effect.bind_eq_ok.1 h
  obtain ⟨scan, hscan, h⟩ := Effect.bind_eq_ok.1 h
  unfold ScanHandle.new at hscan
  obtain ⟨_, -, hscan⟩ := Effect.bind_eq_ok.1 hscan
  cases h; cases hscan
  exact ⟨rfl, rfl, rfl, rfl, rfl⟩

theorem scanning_new (h : RustBridgeScanGlobalState.new newClient config table bindData
    projectionIds columnIndexes outputTypes = .ok state)
    (hc : Consumes state.scan replies responses) :
    Scanning bindData.pushedLimit state replies responses ∧
      state.outstanding responses = limited bindData.pushedLimit (visiblePages responses) := by
  obtain ⟨hrows, -, hrem, hf, hsf⟩ := new_spec h
  refine ⟨⟨hc, by simp [hsf], fun hl => ⟨hrem.trans hl, by simp [hf]⟩⟩, ?_⟩
  rw [RustBridgeScanGlobalState.outstanding, if_neg (by simp [hf]), hrem,
    RustBridgeScanGlobalState.unread, hrows, List.drop_nil, limited_nil_cons]

/-- The visible rows of all responses, in order. -/
def visibleRows (responses : List RowsResponse) : List Row :=
  responses.flatMap RowsResponse.visibleRows

/-- **Which rows of a body are visible**: those of the items that are not marked as deleted. -/
theorem visibleRows_of_body {body : String} {response : RowsResponse}
    (h : rowsFromJson body = .ok response) :
    ∃ root items, SerdeJson.fromStr body = .ok root ∧ root.get "items" = some (.array items) ∧
      List.Forall₂ (fun item row => rowFromJson item = .ok row)
        (items.filter fun item => !decide (MarkedDeleted item)) response.visibleRows := by
  obtain ⟨root, items, hroot, hitems, hrows⟩ := rowsFromJson_eq_ok h
  refine ⟨root, items, hroot, hitems, List.rel_filter ?_ hrows⟩
  intro item row hrow
  have hdeleted := rowFromJson_deleted hrow
  cases hflag : row.deleted <;> simp_all

omit [SerdeJson] in
theorem flatten_visiblePages (responses : List RowsResponse) :
    (visiblePages responses).flatten = (visibleRows responses).map ffiScanRow := by
  rw [visiblePages, visibleRows, List.flatMap_def, List.map_flatten, List.map_map]
  rfl

variable {F : Type} [F64 F] [DuckDb F] {standardVectorSize : Nat}

/-- **An unlimited scan streams exactly the visible rows**, and its first empty chunk comes after
the last of them, when every page was requested. -/
theorem scan_streams_visible (hV : 0 < standardVectorSize) (hlimit : bindData.pushedLimit = 0)
    (hnew : RustBridgeScanGlobalState.new newClient config table bindData projectionIds
      columnIndexes outputTypes = .ok state)
    (hr : state.InRange) (hc : Consumes state.scan replies responses) :
    (∃ chunks final rest, ScanRun (F := F) standardVectorSize state replies chunks final rest) ∧
    ∀ chunks final rest, ScanRun (F := F) standardVectorSize state replies chunks final rest →
      chunks.flatten.map Except.ok =
        (visibleRows responses).map (fun row => state.outputRow (ffiScanRow row)) ∧
      final.unread = [] ∧ final.scan.finished = true ∧ rest = [] := by
  obtain ⟨hscan, hout⟩ := scanning_new hnew hc
  refine ⟨scanRun_exists hscan hr, fun chunks final rest hrun => ?_⟩
  obtain ⟨hflat, hend⟩ := hrun.flatten hV hscan hr
  rw [hout, hlimit, limited_zero, flatten_visiblePages, List.map_map] at hflat
  obtain ⟨left, hleft⟩ := hend.scanning
  have hfin := (hleft.unlimited hlimit).2 hend.finished
  have hnil := hleft.consumes.finished_iff.1 hfin
  subst hnil
  exact ⟨hflat, hend.unread, hfin, hleft.consumes.replies_nil⟩

end

section
open Json.Reference Reference

/-- The chunk of a page with a row. -/
theorem rustBridgeScan_page :
    (rustBridgeScan (F := Binary64) 2048 (scanState 0)
        [reply 200 (rowsJson [("r1", false)] "" "")]).result =
      .ok [[.text "r1" "", .text "Task r1" ""]] := by
  have hc : Consumes (scanState 0).scan [reply 200 (rowsJson [("r1", false)] "" "")]
      [rowsResponse [("r1", false)] "" ""] := .next rfl (list_reply rfl ..) (.done rfl)
  obtain ⟨hscan, -⟩ := scanning_new (new_scanState 0) hc
  obtain ⟨chunk, rest, hchunk⟩ := rustBridgeScan_spec (F := Binary64) 2048 hscan
    (scanState_inRange 0)
  have hout : (scanState 0).outstanding [rowsResponse [("r1", false)] "" ""] =
      [ffiScanRow (namedRow ("r1", false))] := rfl
  have hemitted := hchunk.emitted
  have hleft := hchunk.outstanding
  rw [hout] at hemitted hleft
  rw [hchunk.result]
  cases chunk with
  | nil =>
    -- an empty chunk would be the end, with the row outstanding
    obtain ⟨hunread, hfinished⟩ := hchunk.done (by decide) rfl
    rw [RustBridgeScanGlobalState.outstanding, if_pos hfinished, hunread] at hleft
    cases hleft
  | cons values chunk =>
    rw [List.length_cons, List.take_succ_cons, List.take_nil, List.map_singleton,
      outputRow_namedRow 0 "Task r1" (by decide +kernel), List.map_cons] at hemitted
    obtain ⟨hvalues, hnil⟩ := List.cons_eq_cons.1 hemitted
    rw [Except.ok.inj hvalues, List.map_eq_nil_iff.1 hnil]

/-- Two pages and a sync response: the rows that are not deleted are streamed. -/
theorem scan_streams_visible_rowIds :
    ∃ chunks final rest, ScanRun (F := Binary64) 2048 (scanState 0)
      [reply 200 (rowsJson [("r1", false), ("r2", true)] "p2" "s1"),
        reply 200 (rowsJson [] "" "s2"), reply 200 (rowsJson [("r3", false)] "" "s3")]
      chunks final rest ∧
    chunks.flatten =
      [[.text "r1" "", .text "Task r1" ""], [.text "r3" "", .text "Task r3" ""]] := by
  have hc : Consumes (scanState 0).scan
      [reply 200 (rowsJson [("r1", false), ("r2", true)] "p2" "s1"),
        reply 200 (rowsJson [] "" "s2"), reply 200 (rowsJson [("r3", false)] "" "s3")]
      [rowsResponse [("r1", false), ("r2", true)] "p2" "s1", rowsResponse [] "" "s2",
        rowsResponse [("r3", false)] "" "s3"] :=
    .next rfl (list_reply rfl ..) (.next rfl (list_reply rfl ..)
      (.next rfl (list_reply rfl ..) (.done rfl)))
  obtain ⟨⟨chunks, final, rest, hrun⟩, hall⟩ := scan_streams_visible (F := Binary64)
    (show 0 < 2048 by decide) rfl (new_scanState 0) (scanState_inRange 0) hc
  refine ⟨chunks, final, rest, hrun, ?_⟩
  have hflat := (hall _ _ _ hrun).1
  have hrows : visibleRows [rowsResponse [("r1", false), ("r2", true)] "p2" "s1",
      rowsResponse [] "" "s2", rowsResponse [("r3", false)] "" "s3"] =
      [namedRow ("r1", false), namedRow ("r3", false)] := rfl
  rw [hrows, List.map_cons, List.map_singleton, outputRow_namedRow 0 "Task r1" (by decide +kernel),
    outputRow_namedRow 0 "Task r3" (by decide +kernel)] at hflat
  exact List.map_injective_iff.2 (fun _ _ h => Except.ok.inj h) hflat

end

section
variable {F : Type} [F64 F] [SerdeJson] [DuckDb F] {newClient : ClientConfig → Except String Unit}
  {config : ClientConfig} {table : Table} {bindData : RustBridgeScanBindData}
  {projectionIds : List Nat} {columnIndexes : List ColumnIndex} {outputTypes : List LogicalType}
  {state : RustBridgeScanGlobalState} {replies : List Reply} {responses : List RowsResponse}
  {standardVectorSize : Nat}

/-- **When a limited scan streams exactly the first visible rows**: there are fewer of them than
the limit, or the first responses hold exactly as many. -/
theorem scan_limit_iff (hV : 0 < standardVectorSize) (hlimit : 0 < bindData.pushedLimit)
    (hnew : RustBridgeScanGlobalState.new newClient config table bindData projectionIds
      columnIndexes outputTypes = .ok state)
    (hr : state.InRange) (hc : Consumes state.scan replies responses) :
    (∃ chunks final rest, ScanRun (F := F) standardVectorSize state replies chunks final rest) ∧
    ∀ chunks final rest, ScanRun (F := F) standardVectorSize state replies chunks final rest →
      ((chunks.flatten.length = min bindData.pushedLimit (visibleRows responses).length ∧
        chunks.flatten.map Except.ok = ((visibleRows responses).take bindData.pushedLimit).map
          (fun row => state.outputRow (ffiScanRow row))) ↔
      ((visibleRows responses).length < bindData.pushedLimit ∨
        ∃ n, (visibleRows (responses.take n)).length = bindData.pushedLimit)) := by
  obtain ⟨hscan, hout⟩ := scanning_new hnew hc
  refine ⟨scanRun_exists hscan hr, fun chunks final rest hrun => ?_⟩
  obtain ⟨hflat, -⟩ := hrun.flatten hV hscan hr
  rw [hout] at hflat
  have hlen := congrArg List.length hflat
  rw [List.length_map, List.length_map] at hlen
  have hpages (n : Nat) : ((visiblePages responses).take n).flatten.length =
      (visibleRows (responses.take n)).length := by
    rw [visiblePages, ← List.map_take, ← visiblePages, flatten_visiblePages, List.length_map]
  have hiff := limited_eq_take_iff hlimit (visiblePages responses)
  simp only [hpages, flatten_visiblePages, List.length_map] at hiff
  rw [← hiff]
  constructor
  · rintro ⟨hcount, -⟩
    -- both are prefixes of the visible rows, of one length
    have hpre := limited_prefix bindData.pushedLimit (visiblePages responses)
    rw [flatten_visiblePages] at hpre
    rw [List.prefix_iff_eq_take.1 hpre, ← hlen, hcount, List.take_eq_take_iff, List.length_map]
    omega
  · intro htake
    rw [htake] at hflat hlen
    refine ⟨by simpa using hlen, ?_⟩
    rw [hflat, ← List.map_take, List.map_map]
    rfl

end

section
open Json.Reference Reference

/-- One visible row on each page, so the pages reach the limit together. -/
theorem scan_limit_iff_rowIds :
    ∃ chunks final rest, ScanRun (F := Binary64) 2048 (scanState 2)
      [reply 200 (rowsJson [("r1", false), ("r2", true)] "p2" ""),
        reply 200 (rowsJson [("r3", false)] "p3" ""), reply 200 (rowsJson [("r4", false)] "" "")]
      chunks final rest ∧ chunks.flatten.length = 2 := by
  have hc : Consumes (scanState 2).scan
      [reply 200 (rowsJson [("r1", false), ("r2", true)] "p2" ""),
        reply 200 (rowsJson [("r3", false)] "p3" ""), reply 200 (rowsJson [("r4", false)] "" "")]
      [rowsResponse [("r1", false), ("r2", true)] "p2" "", rowsResponse [("r3", false)] "p3" "",
        rowsResponse [("r4", false)] "" ""] :=
    .next rfl (list_reply rfl ..) (.next rfl (list_reply rfl ..)
      (.next rfl (list_reply rfl ..) (.done rfl)))
  obtain ⟨⟨chunks, final, rest, hrun⟩, hall⟩ := scan_limit_iff (F := Binary64)
    (show 0 < 2048 by decide) (by decide) (new_scanState 2) (scanState_inRange 2) hc
  exact ⟨chunks, final, rest, hrun, ((hall _ _ _ hrun).2 (.inr ⟨2, by decide⟩)).1⟩

/-- **A limited scan can stream more rows than its limit**: with limit 2, the second of these
pages is streamed whole. -/
theorem scan_limit_overrun :
    ∃ replies responses chunks final rest, Consumes (scanState 2).scan replies responses ∧
      (∀ response ∈ responses, response.rows.length ≤ min 2 500) ∧
      ScanRun (F := Binary64) 2048 (scanState 2) replies chunks final rest ∧
      (visibleRows responses).length = 3 ∧ chunks.flatten.length = 3 := by
  have hc : Consumes (scanState 2).scan
      [reply 200 (rowsJson [("r1", false), ("r2", true)] "p2" ""),
        reply 200 (rowsJson [("r3", false), ("r4", false)] "" "")]
      [rowsResponse [("r1", false), ("r2", true)] "p2" "",
        rowsResponse [("r3", false), ("r4", false)] "" ""] :=
    .next rfl (list_reply rfl ..) (.next rfl (list_reply rfl ..) (.done rfl))
  obtain ⟨hscan, hout⟩ := scanning_new (new_scanState 2) hc
  have hexists : ∃ chunks final rest, ScanRun (F := Binary64) 2048 (scanState 2) _ chunks final
      rest := scanRun_exists hscan (scanState_inRange 2)
  obtain ⟨chunks, final, rest, hrun⟩ := hexists
  obtain ⟨hflat, -⟩ := hrun.flatten (by decide) hscan (scanState_inRange 2)
  refine ⟨_, _, chunks, final, rest, hc, by decide, hrun, by decide, ?_⟩
  have hlen := congrArg List.length hflat
  rw [hout, List.length_map, List.length_map] at hlen
  rw [hlen]
  decide

end

end SuperhumanDocs
