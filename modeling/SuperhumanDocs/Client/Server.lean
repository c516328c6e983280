import SuperhumanDocs.Client.Scan
import SuperhumanDocs.Paging.Store

/-!
# A server of rows

What the scan handle relies on of the server. The document is a store of rows by id; the base
listing puts each id on one page; a sync token stands for the version of the document it was
issued at, and a request with it lists the rows written since, also in pages. Which rows a request
asks for, their order and the tokens are the server's own.
-/

set_option autoImplicit false

namespace SuperhumanDocs

open Json (SerdeJson)

/-- The rows by id; the log is that of the edits. -/
abbrev Document := Paging.Store Row.id

/-- Where a request reads. -/
inductive Cursor where
  | base (page : Nat)
  | changes (since page : Nat)
deriving DecidableEq, Repr

namespace Cursor

def next : Cursor → Cursor
  | base page => base (page + 1)
  | changes since page => changes since (page + 1)

def isChanges : Cursor → Bool
  | base _ => false
  | changes _ _ => true

@[simp] theorem isChanges_next (cursor : Cursor) : cursor.next.isChanges = cursor.isChanges := by
  cases cursor <;> rfl

end Cursor

structure Server where
  /-- The page of the base listing an id is on. -/
  basePage : String → Nat
  /-- The page an id is on among the changes since a version. -/
  changesPage : Nat → String → Nat
  /-- The request asks for the row: by its query, for one. -/
  selects : RowsRequest → Row → Bool
  readPageToken : String → Option Cursor
  /-- The version a sync token was issued at. -/
  readSyncToken : String → Option Nat

namespace Server

variable (server : Server)

def cursor (request : RowsRequest) : Option Cursor :=
  if request.pageToken.isEmpty then
    if request.syncToken.isEmpty then some (.base 0)
    else (server.readSyncToken request.syncToken).map (.changes · 0)
  else server.readPageToken request.pageToken

/-- The id belongs to what is listed at a cursor. -/
def OnPage (document : Document) (id : String) : Cursor → Prop
  | .base page => server.basePage id = page
  | .changes since page => document.Touched since id ∧ server.changesPage since id = page

/-- The response to a request, with the cursor it was read at. -/
structure Answers (document : Document) (request : RowsRequest) (cursor : Cursor)
    (response : RowsResponse) : Prop where
  reads : server.cursor request = some cursor
  rows : ∀ row, row ∈ response.rows ↔ document.find row.id = some row ∧
    server.OnPage document row.id cursor ∧ server.selects request row = true
  nodup : (response.rows.map Row.id).Nodup
  page : response.nextPageToken.isEmpty = false →
    server.readPageToken response.nextPageToken = some cursor.next
  sync : response.nextSyncToken.isEmpty = false →
    server.readSyncToken response.nextSyncToken = some document.version

end Server

/-! ## Scans of an edited document -/

/-- One request of a scan and what it found. -/
structure Visit where
  document : Document
  request : RowsRequest
  cursor : Cursor
  response : RowsResponse

/-- The replies are the server's to the requests of the handle; before each request the document
may have been edited. -/
inductive Serves [SerdeJson] (server : Server) :
    ScanHandle → Document → List Reply → List Visit → Prop
  | stop {handle : ScanHandle} {document : Document} : Serves server handle document [] []
  | visit {handle : ScanHandle} {document : Document} {reply : Reply} {replies : List Reply}
      {response : RowsResponse} {cursor : Cursor} {visits : List Visit} (edits : List Row) :
      handle.finished = false →
      (handle.list (reply :: replies)).result = .ok response →
      server.Answers (document.writeAll edits) handle.request.1 cursor response →
      Serves server (handle.request.2.receive response) (document.writeAll edits) replies visits →
      Serves server handle document (reply :: replies)
        (⟨document.writeAll edits, handle.request.1, cursor, response⟩ :: visits)

/-- Calls of a handle and the batches they return. -/
inductive Returned [SerdeJson] : ScanHandle → List Reply → List RustExtScanBatch → Prop
  | nil {handle : ScanHandle} {replies : List Reply} : Returned handle replies []
  | call {handle : ScanHandle} {replies : List Reply} {batch : RustExtScanBatch}
      {batches : List RustExtScanBatch} : (handle.nextBatch replies).2.result = .ok batch →
      Returned (handle.nextBatch replies).1 (handle.nextBatch replies).2.replies batches →
      Returned handle replies (batch :: batches)

/-- The row ids of the batches, in order. -/
def emittedIds (batches : List RustExtScanBatch) : List String :=
  batches.flatMap fun batch => batch.rows.map RustExtScanRow.rowId

end SuperhumanDocs
