import SuperhumanDocs.Bridge.BindData
import SuperhumanDocs.Proof.Planning

/-!
# Bind data that compares equal

Bind data is compared by the table it is of. What was pushed into it is copied but not compared,
so equal bind data may open different scans.

* `planned_table`, `planned_request`: the bind data after callbacks.
* `interchangeable_iff`: when equal bind data opens the same scan.
-/

set_option autoImplicit false

namespace SuperhumanDocs

open Binary (Binary64 F64)
open Json (SerdeJson)

namespace BoundScan

theorem copy_eq (scan : BoundScan) : scan.copy = scan := rfl

theorem equals_iff {scan other : BoundScan} :
    scan.equals other = true ↔ scan.tableEntry = other.tableEntry ∧ scan.handle = other.handle := by
  simp [equals]

/-- **Being equal is an equivalence.** -/
theorem equals_equivalence : Equivalence fun scan other : BoundScan => scan.equals other = true where
  refl _ := equals_iff.2 ⟨rfl, rfl⟩
  symm h := equals_iff.2 ⟨(equals_iff.1 h).1.symm, (equals_iff.1 h).2.symm⟩
  trans h h' := equals_iff.2 ⟨(equals_iff.1 h).1.trans (equals_iff.1 h').1,
    (equals_iff.1 h).2.trans (equals_iff.1 h').2⟩

end BoundScan

section
variable {F : Type} [F64 F] [SerdeJson] [DuckDb F]

/-! ## What is pushed -/

/-- The query the callback pushes into a scan that has none. -/
def Callback.query (table : RustBridgeTableInfo) : Callback F → Option String
  | filters get exprs =>
    match extractFirst get table exprs with
    | .ok (some ((query, _), _)) => some query
    | _ => none
  | _ => none

/-- The order and the limit the callback pushes. -/
def Callback.sort (table : RustBridgeTableInfo) : Callback F → Option (String × Nat)
  | order orderOptions => scanOrder table orderOptions
  | _ => none

/-- The first query that is pushed. -/
def firstQuery (table : RustBridgeTableInfo) (callbacks : List (Callback F)) : String :=
  (callbacks.findSome? (Callback.query table)).getD ""

/-- The last order and limit that are pushed. -/
def lastSort (table : RustBridgeTableInfo) (callbacks : List (Callback F)) : String × Nat :=
  (callbacks.reverse.findSome? (Callback.sort table)).getD ("", 0)

theorem Callback.query_ne_empty {table : RustBridgeTableInfo} {callback : Callback F}
    {query : String} (h : callback.query table = some query) : query ≠ "" := by
  cases callback with
  | filters get exprs =>
    simp only [Callback.query] at h
    split at h
    · rename_i query' description rest hfirst
      cases h
      obtain ⟨before, expr, after, -, -, hexpr, -⟩ := extractFirst_some hfirst
      obtain ⟨column, constant, hpush⟩ := tryExtract_iff.1 ⟨description, hexpr⟩
      intro hempty
      cases hpush.query_ne_empty.symm.trans (String.isEmpty_iff.2 hempty)
    · cases h
  | order | copy => cases h

namespace BoundScan

/-- What a callback does: the first query stays, an order replaces the one before, and the rest of
the bind data is as it was. -/
structure Steps (scan next : BoundScan) (callback : Callback F) : Prop where
  tableEntry : next.tableEntry = scan.tableEntry
  handle : next.handle = scan.handle
  table : next.data.table = scan.data.table
  query : next.data.pushedQuery = if scan.data.pushedQuery = "" then
    (callback.query scan.data.table).getD "" else scan.data.pushedQuery
  sort : (next.data.pushedSortBy, next.data.pushedLimit) =
    (callback.sort scan.data.table).getD (scan.data.pushedSortBy, scan.data.pushedLimit)

theorem step_steps (scan : BoundScan) (callback : Callback F) :
    Steps scan (scan.step callback) callback := by
  cases callback with
  | filters get exprs =>
    simp only [step, rustBridgeScanPushdownComplexFilter]
    by_cases hempty : scan.data.pushedQuery = ""
    · rw [if_neg (by simp [hempty])]
      refine ⟨rfl, rfl, ?_, ?_, ?_⟩
      all_goals
        simp only [Callback.query, Callback.sort, if_pos hempty]
        rcases extractFirst get scan.data.table exprs with e | _ | ⟨⟨query, description⟩, rest⟩
        all_goals simp [hempty]
    · rw [if_pos (by simpa using hempty)]
      exact ⟨rfl, rfl, rfl, (if_neg hempty).symm, rfl⟩
  | order orderOptions =>
    simp only [step, rustBridgeScanSetScanOrder]
    refine ⟨rfl, rfl, ?_, ?_, ?_⟩
    all_goals
      simp only [Callback.query, Callback.sort]
      rcases scanOrder scan.data.table orderOptions with _ | ⟨sortBy, limit⟩
      all_goals simp
  | copy =>
    refine ⟨rfl, rfl, rfl, ?_, rfl⟩
    simp only [step, copy_eq, Callback.query]
    split_ifs with hempty
    · exact hempty
    · rfl

/-! ## All callbacks -/

/-- **The bind data after callbacks.** -/
theorem foldl_step (scan : BoundScan) (callbacks : List (Callback F)) :
    (callbacks.foldl step scan).tableEntry = scan.tableEntry ∧
    (callbacks.foldl step scan).handle = scan.handle ∧
    (callbacks.foldl step scan).data.table = scan.data.table ∧
    (callbacks.foldl step scan).data.pushedQuery = (if scan.data.pushedQuery = "" then
      firstQuery scan.data.table callbacks else scan.data.pushedQuery) ∧
    ((callbacks.foldl step scan).data.pushedSortBy, (callbacks.foldl step scan).data.pushedLimit) =
      (callbacks.reverse.findSome? (Callback.sort scan.data.table)).getD
        (scan.data.pushedSortBy, scan.data.pushedLimit) := by
  induction callbacks generalizing scan with
  | nil => simp [firstQuery]
  | cons callback callbacks ih =>
    have hstep := scan.step_steps callback
    obtain ⟨hentry, hhandle, htable, hquery, hsort⟩ := ih (scan.step callback)
    rw [List.foldl_cons]
    refine ⟨hentry.trans hstep.tableEntry, hhandle.trans hstep.handle, htable.trans hstep.table,
      ?_, ?_⟩
    · rw [hquery, hstep.table, hstep.query]
      by_cases hempty : scan.data.pushedQuery = ""
      · rw [if_pos hempty, if_pos hempty, firstQuery, firstQuery, List.findSome?_cons]
        cases hpushed : callback.query scan.data.table with
        | none => simp
        | some query => simp [Callback.query_ne_empty hpushed]
      · simp [hempty]
    · rw [hsort, hstep.table, hstep.sort, List.reverse_cons, List.findSome?_append,
        List.findSome?_singleton]
      cases callbacks.reverse.findSome? (Callback.sort scan.data.table) <;> simp

variable (entries : Nat → AttachedTableEntry) (address address' : Nat)
  (callbacks callbacks' : List (Callback F))

theorem planned_equals_iff : (planned entries address callbacks).equals
    (planned entries address' callbacks') = true ↔ address = address' := by
  obtain ⟨hentry, hhandle, -⟩ := foldl_step (getScanFunction entries address) callbacks
  obtain ⟨hentry', hhandle', -⟩ := foldl_step (getScanFunction entries address') callbacks'
  rw [equals_iff, planned, planned, hentry, hentry', hhandle, hhandle']
  constructor
  · exact fun h => h.1
  · rintro rfl
    exact ⟨rfl, rfl⟩

theorem planned_table : (planned entries address callbacks).data.table = (entries address).table :=
  (foldl_step (getScanFunction entries address) callbacks).2.2.1

/-- **What is asked of the server**: the first query and the last order and limit. -/
theorem planned_request : (planned entries address callbacks).request =
    { filter := firstQuery (entries address).table callbacks
      order := (lastSort (entries address).table callbacks).1
      limit := (lastSort (entries address).table callbacks).2 } := by
  obtain ⟨-, -, -, hquery, hsort⟩ := foldl_step (getScanFunction entries address) callbacks
  have hfirst : (planned entries address callbacks).data.pushedQuery =
      firstQuery (entries address).table callbacks := hquery.trans (if_pos rfl)
  have hlast : ((planned entries address callbacks).data.pushedSortBy,
      (planned entries address callbacks).data.pushedLimit) =
        lastSort (entries address).table callbacks := hsort
  rw [request, hfirst, ← hlast]

/-! ## The same scan -/

/-- Both open the same scan: the same table, query, order and limit, and so the same state for
every client and every projection. -/
structure SameScan (scan other : BoundScan) : Prop where
  table : scan.data.table.table.handle = other.data.table.table.handle
  request : scan.request = other.request
  opened : ∀ newClient projectionIds columnIndexes outputTypes,
    scan.opened entries newClient projectionIds columnIndexes outputTypes =
      other.opened entries newClient projectionIds columnIndexes outputTypes

omit [SerdeJson] in
/-- What is opened depends on the entry, the table and the request only. -/
theorem sameScan_of_request {scan other : BoundScan} (hentry : scan.tableEntry = other.tableEntry)
    (htable : scan.data.table = other.data.table) (hrequest : scan.request = other.request) :
    SameScan entries scan other := by
  refine ⟨by rw [htable], hrequest, ?_⟩
  intro newClient projectionIds columnIndexes outputTypes
  obtain ⟨hquery, hsort, hlimit⟩ := RustExtScanRequest.mk.inj hrequest
  simp only [opened, RustBridgeScanGlobalState.new, hentry, htable, hquery, hsort, hlimit]

/-- **When equal bind data opens the same scan.** Being equal is an equivalence and copies are
equal; but bind data of one table opens the same scan only when the first query and the last order
and limit that were pushed into it agree. -/
theorem interchangeable_iff :
    (Equivalence fun scan other : BoundScan => scan.equals other = true) ∧
    (∀ scan : BoundScan, scan.copy.equals scan = true) ∧
    ∀ (address address' : Nat) (callbacks callbacks' : List (Callback F)),
      ((planned entries address callbacks).equals (planned entries address' callbacks') = true →
        SameScan entries (planned entries address callbacks)
          (planned entries address' callbacks')) ↔
      address ≠ address' ∨
        firstQuery (entries address).table callbacks =
            firstQuery (entries address').table callbacks' ∧
          lastSort (entries address).table callbacks =
            lastSort (entries address').table callbacks' := by
  refine ⟨equals_equivalence, fun scan => equals_equivalence.refl scan, ?_⟩
  intro address address' callbacks callbacks'
  rw [planned_equals_iff, ← imp_iff_not_or]
  refine forall_congr' ?_
  rintro rfl
  have hrequest : (planned entries address callbacks).request =
      (planned entries address callbacks').request ↔
        firstQuery (entries address).table callbacks =
            firstQuery (entries address).table callbacks' ∧
          lastSort (entries address).table callbacks =
            lastSort (entries address).table callbacks' := by
    rw [planned_request, planned_request, RustExtScanRequest.mk.injEq, Prod.ext_iff]
  rw [← hrequest]
  constructor
  · exact fun h => h.request
  · intro h
    refine sameScan_of_request entries ?_ ?_ h
    · exact equals_iff.1 ((planned_equals_iff entries address address callbacks callbacks').2 rfl) |>.1
    · rw [planned_table, planned_table]

end BoundScan

end

/-! ## A scan with a filter and one without -/

open Json.Reference Reference

/-- The only table entry. -/
def textEntry : AttachedTableEntry where
  tableIndex := 0
  table := textTable
  config := config
  handle := 1

/-- **A filter is pushed into one of two scans that compare equal.** -/
theorem equal_scans_differ :
    (BoundScan.planned (fun _ => textEntry) 0 [.filters textGet [textFilter]]).equals
        (BoundScan.planned (fun _ => textEntry) 0 ([] : List (Callback Binary64))) = true ∧
    (BoundScan.planned (fun _ => textEntry) 0 [.filters textGet [textFilter]]).request ≠
      (BoundScan.planned (fun _ => textEntry) 0 ([] : List (Callback Binary64))).request := by
  refine ⟨(BoundScan.planned_equals_iff _ _ _ _ _).2 rfl, ?_⟩
  have hquery : firstQuery textTable [.filters textGet [textFilter]] = "c1:\"Ada\"" := by
    decide +kernel
  rw [BoundScan.planned_request, BoundScan.planned_request]
  intro h
  have hsame := congrArg RustExtScanRequest.filter h
  exact absurd (hquery.symm.trans hsame) (by decide)

end SuperhumanDocs
