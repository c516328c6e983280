import SuperhumanDocs.Rows
import SuperhumanDocs.Sdk

/-!
# The scan handle

A `ScanHandle` follows the page chain of a row listing and then makes one request with the sync
token of the last page. `nextBatch` runs against the replies the server will give, in the order
of the requests: it stops at the first batch, and says which inputs it sent and which replies it
left.
-/

set_option autoImplicit false

namespace SuperhumanDocs

open Json (SerdeJson)

inductive RowsSortBy where
  | createdAt
  | natural
  | updatedAt
deriving DecidableEq, Repr

inductive ValueFormat where
  | simple
  | simpleWithArrays
  | rich
deriving DecidableEq, Repr

/-- The input of the SDK's row listing. -/
structure ListRowsInput where
  docId : String
  tableIdOrName : String
  query : Option String
  sortBy : Option RowsSortBy
  useColumnNames : Option Bool
  valueFormat : Option ValueFormat
  visibleOnly : Option Bool
  limit : Option Nat
  pageToken : Option String
  syncToken : Option String
deriving DecidableEq, Repr

def rowsSortBy (value : String) : Except String (Option RowsSortBy) :=
  match value with
  | "" => .ok none
  | "createdAt" => .ok (some .createdAt)
  | "natural" => .ok (some .natural)
  | "updatedAt" => .ok (some .updatedAt)
  | _ => .error s!"unsupported row sort order: {value}"

/-- Why a call has no result: the server has not replied yet, or it failed. -/
inductive Stop where
  | waiting
  | failed (message : String)
deriving DecidableEq, Repr

/-- A call against a list of replies: its result, what it sent and the replies it left. -/
structure Exchanged (α : Type) where
  result : Except Stop α
  sent : List ListRowsInput
  replies : List Reply

def listRowsInput (docId tableId : String) (request : RowsRequest) (sortBy : Option RowsSortBy) :
    ListRowsInput where
  docId
  tableIdOrName := tableId
  query := nonEmptyString request.query
  sortBy
  useColumnNames := some false
  valueFormat := some .rich
  visibleOnly := some false
  limit := some request.limit
  pageToken := nonEmptyString request.pageToken
  syncToken := nonEmptyString request.syncToken

/-- The rows in a reply. -/
def Reply.rows [SerdeJson] (reply : Reply) : Except String RowsResponse := do
  rowsFromJson (← execute reply)

def listRows [SerdeJson] (docId tableId : String) (request : RowsRequest) (replies : List Reply) :
    Exchanged RowsResponse :=
  match rowsSortBy request.sortBy with
  | .error e => { result := .error (.failed e), sent := [], replies }
  | .ok sortBy =>
    let input := listRowsInput docId tableId request sortBy
    match replies with
    | [] => { result := .error .waiting, sent := [input], replies := [] }
    | reply :: replies =>
      { result := reply.rows.mapError .failed, sent := [input], replies }

structure ScanHandle where
  docId : String
  tableId : String
  query : String
  sortBy : String
  limit : Nat
  nextPageToken : String
  nextSyncToken : String
  syncCheckDone : Bool
  finished : Bool
deriving DecidableEq, Repr

/-- Open a scan; `newClient` is the constructor of the SDK client. -/
def ScanHandle.new (newClient : ClientConfig → Except String Unit) (config : ClientConfig)
    (table : Table) (request : RustExtScanRequest) : Except String ScanHandle := do
  newClient config
  return {
    docId := config.resource
    tableId := table.id
    query := request.filter
    sortBy := request.order
    limit := if request.limit = 0 then 500 else min request.limit 500
    nextPageToken := ""
    nextSyncToken := ""
    syncCheckDone := false
    finished := false }

/-- The next request is the one with the sync token. -/
def ScanHandle.checksSync (handle : ScanHandle) : Bool :=
  handle.nextPageToken.isEmpty && !handle.nextSyncToken.isEmpty && !handle.syncCheckDone

/-- The next request; asking with the sync token is remembered. -/
def ScanHandle.request (handle : ScanHandle) : RowsRequest × ScanHandle :=
  ({ pageToken := handle.nextPageToken
     query := handle.query
     sortBy := handle.sortBy
     syncToken := if handle.checksSync then handle.nextSyncToken else ""
     limit := handle.limit },
   { handle with syncCheckDone := handle.syncCheckDone || handle.checksSync })

/-- The handle after a response. -/
def ScanHandle.receive (handle : ScanHandle) (response : RowsResponse) : ScanHandle :=
  { handle with
    nextPageToken := response.nextPageToken
    nextSyncToken := response.nextSyncToken
    finished := handle.finished || (response.nextPageToken.isEmpty &&
      (response.nextSyncToken.isEmpty || handle.syncCheckDone)) }

/-- The rows of a response that are not deleted. -/
def RowsResponse.visibleRows (response : RowsResponse) : List Row :=
  response.rows.filter fun row => !row.deleted

def ffiScanRow (row : Row) : RustExtScanRow := { handle := some row, rowId := row.id }

def ffiScanBatch (rows : List Row) (finished : Bool) : RustExtScanBatch :=
  { rows := rows.map ffiScanRow, finished }

/-- A listing that succeeded used up a reply. -/
theorem listRows_replies [SerdeJson] {docId tableId : String} {request : RowsRequest}
    {replies : List Reply} {response : RowsResponse}
    (h : (listRows docId tableId request replies).result = .ok response) :
    (listRows docId tableId request replies).replies.length < replies.length := by
  unfold listRows at h ⊢
  cases hs : rowsSortBy request.sortBy with
  | error e => rw [hs] at h; cases h
  | ok sortBy =>
    rw [hs] at h
    cases replies with
    | nil => cases h
    | cons reply replies => exact Nat.lt_succ_self _

/-- The next batch, with the handle after the call. -/
def ScanHandle.nextBatch [SerdeJson] (handle : ScanHandle) (replies : List Reply) :
    ScanHandle × Exchanged RustExtScanBatch :=
  if handle.finished then (handle, { result := .ok (ffiScanBatch [] true), sent := [], replies })
  else
    let request := handle.request.1
    let handle := handle.request.2
    let listed := listRows handle.docId handle.tableId request replies
    match _h : listed.result with
    | .error stop => (handle, { listed with result := .error stop })
    | .ok response =>
      let handle := handle.receive response
      if !response.visibleRows.isEmpty || handle.finished then
        (handle,
          { result := .ok (ffiScanBatch response.visibleRows handle.finished)
            sent := listed.sent
            replies := listed.replies })
      else
        let next := handle.nextBatch listed.replies
        (next.1, { next.2 with sent := listed.sent ++ next.2.sent })
termination_by replies.length
decreasing_by exact listRows_replies _h

/-! ## One step of the loop -/

section
variable [SerdeJson] {handle : ScanHandle} {replies : List Reply}

/-- The next listing of a handle. -/
def ScanHandle.list (handle : ScanHandle) (replies : List Reply) : Exchanged RowsResponse :=
  listRows handle.docId handle.tableId handle.request.1 replies

theorem nextBatch_finished (h : handle.finished = true) :
    handle.nextBatch replies =
      (handle, { result := .ok (ffiScanBatch [] true), sent := [], replies }) := by
  rw [ScanHandle.nextBatch, if_pos h]

theorem nextBatch_error {stop : Stop} (h : handle.finished = false)
    (hl : (handle.list replies).result = .error stop) :
    handle.nextBatch replies =
      (handle.request.2, { handle.list replies with result := .error stop }) := by
  rw [ScanHandle.nextBatch, if_neg (by simp [h])]
  dsimp only
  split
  · rename_i stop' hs
    have : stop' = stop := by
      have := hs.symm.trans hl
      cases this; rfl
    rw [this]; rfl
  · rename_i hs; cases hs.symm.trans hl

theorem nextBatch_ok {response : RowsResponse} (h : handle.finished = false)
    (hl : (handle.list replies).result = .ok response) :
    handle.nextBatch replies =
      if !response.visibleRows.isEmpty || (handle.request.2.receive response).finished then
        (handle.request.2.receive response,
          { result := .ok (ffiScanBatch response.visibleRows
              (handle.request.2.receive response).finished)
            sent := (handle.list replies).sent
            replies := (handle.list replies).replies })
      else
        let next := (handle.request.2.receive response).nextBatch (handle.list replies).replies
        (next.1, { next.2 with sent := (handle.list replies).sent ++ next.2.sent }) := by
  rw [ScanHandle.nextBatch, if_neg (by simp [h])]
  dsimp only
  split
  · rename_i hs; cases hs.symm.trans hl
  · rename_i response' hs
    have : response' = response := by
      have := hs.symm.trans hl
      cases this; rfl
    rw [this]; rfl

/-- A batch that is not the last used up a reply. -/
theorem nextBatch_replies {batch : RustExtScanBatch}
    (h : (handle.nextBatch replies).2.result = .ok batch) (hf : batch.finished = false) :
    (handle.nextBatch replies).2.replies.length < replies.length := by
  induction hn : replies.length using Nat.strong_induction_on generalizing handle replies with
  | _ n ih =>
    cases hfin : handle.finished with
    | true =>
      rw [nextBatch_finished hfin] at h
      cases h; cases hf
    | false =>
      cases hl : (handle.list replies).result with
      | error stop =>
        rw [nextBatch_error hfin hl] at h
        cases h
      | ok response =>
        have hlt : (handle.list replies).replies.length < replies.length := listRows_replies hl
        rw [nextBatch_ok hfin hl] at h ⊢
        split
        · exact hn ▸ hlt
        · rename_i hskip
          rw [if_neg hskip] at h
          exact (ih _ (hn ▸ hlt) h rfl).trans (hn ▸ hlt)

end

end SuperhumanDocs
