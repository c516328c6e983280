import SuperhumanDocs.Client.Server
import SuperhumanDocs.Proof.ScanRun
import SuperhumanDocs.Proof.UpdatePuts

/-!
# Rows emitted twice

The pages of a scan are disjoint, and so are the pages of the changes after it. A row of a base
page comes back with the changes when it was edited after the sync token was issued, so a scan
emits every row at most once exactly when no row it has shown is edited then and still there.

* `Serves.follows`: the cursors a scan visits.
* `scan_emits_once_iff`: when the batches of a scan repeat no row.
-/

set_option autoImplicit false

namespace SuperhumanDocs

open Binary (Binary64 F64)
open Json (SerdeJson)

/-! ## The cursors of a scan -/

/-- The cursors that come after a cursor in a scan. -/
def Cursor.Before : Cursor → Cursor → Prop
  | base page, base page' => page < page'
  | base _, changes _ _ => True
  | changes since page, changes since' page' => since = since' ∧ page < page'
  | changes _ _, base _ => False

namespace Cursor

variable {cursor later : Cursor}

theorem Before.trans {middle : Cursor} (h : cursor.Before middle) (h' : middle.Before later) :
    cursor.Before later := by
  cases cursor <;> cases middle <;> cases later <;> simp only [Before] at h h' ⊢
  · omega
  · omega

theorem before_of_next (h : later = cursor.next ∨ cursor.next.Before later) :
    cursor.Before later := by
  have hnext : cursor.Before cursor.next := by
    cases cursor with
    | base page => exact Nat.lt_succ_self page
    | changes since page => exact ⟨rfl, Nat.lt_succ_self page⟩
  rcases h with rfl | h
  · exact hnext
  · exact hnext.trans h

theorem before_of_turn {since : Nat} (hbase : cursor.isChanges = false)
    (h : later = .changes since 0 ∨ (Cursor.changes since 0).Before later) :
    cursor.Before later := by
  have hturn : cursor.Before (.changes since 0) := by
    cases cursor with
    | base page => trivial
    | changes since page => cases hbase
  rcases h with rfl | h
  · exact hturn
  · exact hturn.trans h

end Cursor

/-- From a cursor on, a scan visits the pages one by one; after a base page it may turn to the
changes since then. -/
inductive Follows : Cursor → List Visit → Prop
  | nil {cursor : Cursor} : Follows cursor []
  | next {visit : Visit} {visits : List Visit} : Follows visit.cursor.next visits →
      Follows visit.cursor (visit :: visits)
  | turn {visit : Visit} {visits : List Visit} : visit.cursor.isChanges = false →
      Follows (.changes visit.document.version 0) visits →
      Follows visit.cursor (visit :: visits)

theorem Follows.mem {cursor : Cursor} {visits : List Visit} (h : Follows cursor visits) :
    ∀ visit ∈ visits, visit.cursor = cursor ∨ cursor.Before visit.cursor := by
  induction h with
  | nil => simp
  | next h ih =>
    intro later hlater
    rcases List.mem_cons.1 hlater with rfl | hlater
    · exact .inl rfl
    · exact .inr (Cursor.before_of_next (ih later hlater))
  | turn hbase h ih =>
    intro later hlater
    rcases List.mem_cons.1 hlater with rfl | hlater
    · exact .inl rfl
    · exact .inr (Cursor.before_of_turn hbase (ih later hlater))

/-- **The cursors of a scan are in order.** -/
theorem Follows.pairwise {cursor : Cursor} {visits : List Visit} (h : Follows cursor visits) :
    visits.Pairwise fun visit later => visit.cursor.Before later.cursor := by
  induction h with
  | nil => exact .nil
  | next h ih => exact .cons (fun later hlater => Cursor.before_of_next (h.mem later hlater)) ih
  | turn hbase h ih =>
    exact .cons (fun later hlater => Cursor.before_of_turn hbase (h.mem later hlater)) ih

/-! ## The phases of a handle -/

/-- The next request of the handle reads at the cursor; the sync token is used once. -/
structure Phase (server : Server) (handle : ScanHandle) (cursor : Cursor) : Prop where
  reads : server.cursor handle.request.1 = some cursor
  checked : handle.request.2.syncCheckDone = cursor.isChanges

theorem phase_new {server : Server} {newClient : ClientConfig → Except String Unit}
    {config : ClientConfig} {table : Table} {request : RustExtScanRequest} {handle : ScanHandle}
    (h : ScanHandle.new newClient config table request = .ok handle) :
    Phase server handle (.base 0) := by
  obtain ⟨_, -, h⟩ := Effect.bind_eq_ok.1 h
  cases h
  exact ⟨rfl, rfl⟩

theorem phase_of_page {server : Server} {handle : ScanHandle} {cursor : Cursor}
    (hpage : handle.nextPageToken.isEmpty = false)
    (hreads : server.readPageToken handle.nextPageToken = some cursor)
    (hchecked : handle.syncCheckDone = cursor.isChanges) : Phase server handle cursor := by
  constructor
  · simp [Server.cursor, ScanHandle.request, hpage, hreads]
  · simp [ScanHandle.request, ScanHandle.checksSync, hpage, hchecked]

theorem phase_of_sync {server : Server} {handle : ScanHandle} {since : Nat}
    (hpage : handle.nextPageToken.isEmpty = true) (hsync : handle.nextSyncToken.isEmpty = false)
    (hreads : server.readSyncToken handle.nextSyncToken = some since)
    (hchecked : handle.syncCheckDone = false) : Phase server handle (.changes since 0) := by
  have hchecks : handle.checksSync = true := by
    simp [ScanHandle.checksSync, hpage, hsync, hchecked]
  constructor
  · simp [Server.cursor, ScanHandle.request, hpage, hsync, hchecks, hreads]
  · simp [ScanHandle.request, hchecks, Cursor.isChanges]

/-- **One step**: the next page, or the first page of the changes since the last base page. -/
theorem Phase.step {server : Server} {handle : ScanHandle} {cursor : Cursor} {document : Document}
    {response : RowsResponse} (h : Phase server handle cursor)
    (hanswers : server.Answers document handle.request.1 cursor response)
    (hfinished : (handle.request.2.receive response).finished = false) :
    Phase server (handle.request.2.receive response) cursor.next ∨
      cursor.isChanges = false ∧
        Phase server (handle.request.2.receive response) (.changes document.version 0) := by
  simp only [ScanHandle.receive, Bool.or_eq_false_iff, Bool.and_eq_false_iff] at hfinished
  cases hpage : response.nextPageToken.isEmpty with
  | false =>
    refine .inl (phase_of_page hpage (hanswers.page hpage) ?_)
    rw [Cursor.isChanges_next, ← h.checked]
    rfl
  | true =>
    obtain ⟨hsync, hdone⟩ : response.nextSyncToken.isEmpty = false ∧
        handle.request.2.syncCheckDone = false := by
      simpa [hpage] using hfinished.2
    exact .inr ⟨by rw [← h.checked, hdone], phase_of_sync hpage hsync (hanswers.sync hsync) hdone⟩

/-- **The cursors a scan visits.** -/
theorem Serves.follows [SerdeJson] {server : Server} {handle : ScanHandle} {document : Document}
    {replies : List Reply} {visits : List Visit} (h : Serves server handle document replies visits)
    {cursor : Cursor} (hphase : handle.finished = false → Phase server handle cursor) :
    Follows cursor visits := by
  induction h generalizing cursor with
  | stop => exact .nil
  | @visit handle document reply replies response cursor' visits edits hf hl hanswers hrest ih =>
    have hcursor : cursor' = cursor :=
      Option.some.inj (hanswers.reads.symm.trans (hphase hf).reads)
    subst hcursor
    let visit : Visit := ⟨document.writeAll edits, handle.request.1, cursor', response⟩
    cases hfinished : (handle.request.2.receive response).finished with
    | true =>
      have hrest : Follows visit.cursor.next visits :=
        ih fun hf => by rw [hfinished] at hf; cases hf
      exact .next hrest
    | false =>
      rcases (hphase hf).step hanswers hfinished with hnext | ⟨hbase, hturn⟩
      · have hrest : Follows visit.cursor.next visits := ih fun _ => hnext
        exact .next hrest
      · have hrest : Follows (.changes visit.document.version 0) visits := ih fun _ => hturn
        exact .turn hbase hrest

theorem Serves.answers [SerdeJson] {server : Server} {handle : ScanHandle} {document : Document}
    {replies : List Reply} {visits : List Visit} (h : Serves server handle document replies visits) :
    ∀ visit ∈ visits,
      server.Answers visit.document visit.request visit.cursor visit.response := by
  induction h with
  | stop => simp
  | visit edits hf hl hanswers hrest ih => exact List.forall_mem_cons.2 ⟨hanswers, ih⟩

/-! ## The batches of a scan -/

/-- The rows the visits show, in order. -/
def shownRows (visits : List Visit) : List Row :=
  visits.flatMap fun visit => visit.response.visibleRows

theorem rowIds_ffiScanBatch (rows : List Row) (finished : Bool) :
    (ffiScanBatch rows finished).rows.map RustExtScanRow.rowId = rows.map Row.id := by
  simp [ffiScanBatch, ffiScanRow]

section
variable [SerdeJson] {server : Server} {handle : ScanHandle} {document : Document}
  {replies : List Reply} {visits : List Visit}

/-- Without a reply there is no batch. -/
theorem nextBatch_nil (hf : handle.finished = false) :
    ∃ stop, (handle.nextBatch []).2.result = .error stop := by
  obtain ⟨stop, hl⟩ : ∃ stop, (handle.list []).result = .error stop := by
    unfold ScanHandle.list listRows
    split
    · exact ⟨_, rfl⟩
    · exact ⟨_, rfl⟩
  rw [nextBatch_error hf hl]
  exact ⟨stop, rfl⟩

/-- **The next batch** is what the next visits show, unless they show nothing and the server has
not replied to the next request. -/
theorem Serves.nextBatch (h : Serves server handle document replies visits) :
    (∃ rows rest document',
      (handle.nextBatch replies).2.result =
        .ok (ffiScanBatch rows (handle.nextBatch replies).1.finished) ∧
      Serves server (handle.nextBatch replies).1 document' (handle.nextBatch replies).2.replies
        rest ∧
      shownRows visits = rows ++ shownRows rest ∧
      (rest.length < visits.length ∨ visits = [] ∧ rest = [])) ∨
    (∃ stop, (handle.nextBatch replies).2.result = .error stop) ∧ shownRows visits = [] := by
  induction h with
  | @stop handle document =>
    cases hf : handle.finished with
    | true =>
      have he : handle.nextBatch [] = _ := nextBatch_finished hf
      refine .inl ⟨[], [], document, ?_, ?_, rfl, .inr ⟨rfl, rfl⟩⟩
      · rw [he, hf]
      · rw [he]
        exact .stop
    | false => exact .inr ⟨nextBatch_nil hf, rfl⟩
  | @visit handle document reply replies response cursor visits edits hf hl hanswers hrest ih =>
    by_cases hb : response.visibleRows ≠ [] ∨ (handle.request.2.receive response).finished = true
    · have he := nextBatch_shows hf hl hb
      refine .inl ⟨response.visibleRows, visits, document.writeAll edits, ?_, ?_, rfl,
        .inl (Nat.lt_succ_self _)⟩
      · rw [he]
      · rw [he]
        exact hrest
    · have he := nextBatch_passes hf hl hb
      simp only [not_or, not_not] at hb
      -- a response that shows nothing is skipped
      have hshown : shownRows (⟨document.writeAll edits, handle.request.1, cursor, response⟩ ::
          visits) = shownRows visits := by
        simp [shownRows, hb.1]
      rw [he, hshown]
      rcases ih with ⟨rows, rest, document', hresult, hserves, hrows, hlen⟩ | ⟨hstop, hnone⟩
      · refine .inl ⟨rows, rest, document', hresult, hserves, hrows, .inl ?_⟩
        rcases hlen with hlen | ⟨rfl, rfl⟩
        · exact hlen.trans (Nat.lt_succ_self _)
        · exact Nat.lt_succ_self _
      · exact .inr ⟨hstop, hnone⟩

/-- The batches returned are what the first visits show. -/
theorem Returned.emitted_shown {batches : List RustExtScanBatch} (h : Returned handle replies batches)
    (hserves : Serves server handle document replies visits) :
    emittedIds batches <+: (shownRows visits).map Row.id := by
  induction h generalizing document visits with
  | nil => exact List.nil_prefix
  | @call handle replies batch batches hbatch hrest ih =>
    obtain ⟨rows, rest, document', hresult, hserves', hrows, -⟩ | ⟨⟨stop, hstop⟩, -⟩ :=
      hserves.nextBatch
    · cases hbatch.symm.trans hresult
      rw [hrows, List.map_append, emittedIds, List.flatMap_cons, rowIds_ffiScanBatch]
      exact (List.prefix_append_right_inj _).2 (ih hserves')
    · cases hbatch.symm.trans hstop

/-- Calls can return all that the visits show. -/
theorem Serves.returned (h : Serves server handle document replies visits) :
    ∃ batches, Returned handle replies batches ∧
      emittedIds batches = (shownRows visits).map Row.id := by
  induction hn : visits.length using Nat.strong_induction_on
    generalizing handle document replies visits with
  | _ n ih =>
    obtain ⟨rows, rest, document', hresult, hserves, hrows, hlen⟩ | ⟨-, hnone⟩ := h.nextBatch
    · rcases hlen with hlen | ⟨rfl, rfl⟩
      · obtain ⟨batches, hreturned, hids⟩ := ih _ (hn ▸ hlen) hserves rfl
        refine ⟨_ :: batches, .call hresult hreturned, ?_⟩
        rw [hrows, List.map_append, ← hids, emittedIds, List.flatMap_cons, rowIds_ffiScanBatch]
        rfl
      · exact ⟨[], .nil, rfl⟩
    · exact ⟨[], .nil, by rw [hnone]; rfl⟩

end

/-! ## Rows shown twice -/

section
variable (server : Server)

/-- The row is there and the request asks for it. -/
def Server.Offers (document : Document) (request : RowsRequest) (id : String) : Prop :=
  ∃ row, document.find id = some row ∧ row.deleted = false ∧ server.selects request row = true

/-- No row that the visit of a base page was offered is among the edited rows, on the later page
of changes, unless it is gone by then. -/
def Server.Undisturbed (visit later : Visit) : Prop :=
  ∀ page since page' id, visit.cursor = .base page → later.cursor = .changes since page' →
    server.basePage id = page → server.Offers visit.document visit.request id →
    later.document.Touched since id → server.changesPage since id = page' →
    ¬ server.Offers later.document later.request id

variable {server : Server} {visit later : Visit}

/-- **What a visit shows.** -/
theorem Server.Answers.mem_shown (h : server.Answers visit.document visit.request visit.cursor
    visit.response) (id : String) :
    id ∈ visit.response.visibleRows.map Row.id ↔
      server.OnPage visit.document id visit.cursor ∧
        server.Offers visit.document visit.request id := by
  constructor
  · intro hid
    obtain ⟨row, hrow, rfl⟩ := List.mem_map.1 hid
    obtain ⟨hrow, hvisible⟩ := List.mem_filter.1 hrow
    obtain ⟨hfind, hpage, hselects⟩ := (h.rows row).1 hrow
    exact ⟨hpage, row, hfind, by simpa using hvisible, hselects⟩
  · intro ⟨hpage, row, hfind, hvisible, hselects⟩
    have hid := visit.document.key_find id row hfind
    subst hid
    refine List.mem_map.2 ⟨row, List.mem_filter.2 ⟨?_, by simp [hvisible]⟩, rfl⟩
    exact (h.rows row).2 ⟨hfind, hpage, hselects⟩

theorem Server.Answers.nodup_shown (h : server.Answers visit.document visit.request visit.cursor
    visit.response) : (visit.response.visibleRows.map Row.id).Nodup :=
  h.nodup.sublist (List.filter_sublist.map Row.id)

/-- **When two visits show no common row.** -/
theorem disjoint_iff (h : server.Answers visit.document visit.request visit.cursor visit.response)
    (h' : server.Answers later.document later.request later.cursor later.response)
    (hbefore : visit.cursor.Before later.cursor) :
    List.Disjoint (visit.response.visibleRows.map Row.id)
      (later.response.visibleRows.map Row.id) ↔ server.Undisturbed visit later := by
  simp only [List.disjoint_left, h.mem_shown, h'.mem_shown]
  cases hcursor : visit.cursor with
  | base page =>
    cases hlater : later.cursor with
    | base page' =>
      -- an id is on one base page
      rw [hcursor, hlater] at hbefore
      refine iff_of_true ?_ ?_
      · intro id ⟨hpage, _⟩ ⟨hpage', _⟩
        exact absurd (hpage.symm.trans hpage') (Nat.ne_of_lt hbefore)
      · intro page since page' id hcursor' hlater'
        cases hlater.symm.trans hlater'
    | changes since page' =>
      constructor
      · intro hdisjoint page since page' id hcursor' hlater' hpage hoffers htouched hpage' hoffers'
        cases hcursor.symm.trans hcursor'
        cases hlater.symm.trans hlater'
        exact hdisjoint ⟨hpage, hoffers⟩ ⟨⟨htouched, hpage'⟩, hoffers'⟩
      · intro hundisturbed id ⟨hpage, hoffers⟩ ⟨⟨htouched, hpage'⟩, hoffers'⟩
        exact hundisturbed page since page' id hcursor hlater hpage hoffers htouched hpage' hoffers'
  | changes since page =>
    refine iff_of_true ?_ ?_
    · cases hlater : later.cursor with
      | base page' =>
        rw [hcursor, hlater] at hbefore
        exact hbefore.elim
      | changes since' page' =>
        -- and on one page of the changes
        rw [hcursor, hlater] at hbefore
        intro id ⟨⟨_, hpage⟩, _⟩ ⟨⟨_, hpage'⟩, _⟩
        rw [hbefore.1] at hpage
        exact absurd (hpage.symm.trans hpage') (Nat.ne_of_lt hbefore.2)
    · intro page since page' id hcursor' hlater'
      cases hcursor.symm.trans hcursor'

/-- **When the visits of a scan show no row twice.** -/
theorem nodup_shownRows_iff {visits : List Visit} {cursor : Cursor} (h : Follows cursor visits)
    (hanswers : ∀ visit ∈ visits,
      server.Answers visit.document visit.request visit.cursor visit.response) :
    ((shownRows visits).map Row.id).Nodup ↔ visits.Pairwise server.Undisturbed := by
  rw [shownRows, List.map_flatMap, List.nodup_flatMap,
    and_iff_right fun visit hvisit => (hanswers visit hvisit).nodup_shown]
  have hpairs := h.pairwise.and (List.pairwise_iff_forall_sublist.2
    fun {visit later} hsub => (⟨hanswers visit (hsub.subset (.head _)),
      hanswers later (hsub.subset (.tail _ (.head _)))⟩ :
      server.Answers visit.document visit.request visit.cursor visit.response ∧
      server.Answers later.document later.request later.cursor later.response))
  constructor
  · intro hdisjoint
    exact (hdisjoint.and hpairs).imp fun ⟨hd, hbefore, ha, ha'⟩ => (disjoint_iff ha ha' hbefore).1 hd
  · intro hundisturbed
    exact (hundisturbed.and hpairs).imp fun ⟨hu, hbefore, ha, ha'⟩ =>
      (disjoint_iff ha ha' hbefore).2 hu

end

section
variable [SerdeJson] {server : Server} {newClient : ClientConfig → Except String Unit}
  {config : ClientConfig} {table : Table} {request : RustExtScanRequest} {handle : ScanHandle}
  {document : Document} {replies : List Reply} {visits : List Visit}

/-- **When a scan emits no row twice**: when no row it was shown on a base page is edited after
the sync token was issued and still there on the pages of the changes. Then an UPDATE over the
scan writes each row at most once. -/
theorem scan_emits_once_iff (hnew : ScanHandle.new newClient config table request = .ok handle)
    (h : Serves server handle document replies visits) :
    ((∀ batches, Returned handle replies batches → (emittedIds batches).Nodup) ↔
      visits.Pairwise server.Undisturbed) ∧
    (visits.Pairwise server.Undisturbed → ∀ batches, Returned handle replies batches →
      ∀ (F σ : Type) [F64 F] [DuckDb F] (w : World F σ) (info : RustBridgeTableInfo)
        (assignments : List Assignment) (chunks : List (DataChunk F × σ)),
        (chunks.flatMap fun chunk => chunkRowIds chunk.1).Sublist (emittedIds batches) →
        (putIds (updateEvents w config info assignments chunks)).Nodup) := by
  have hfollows : Follows (.base 0) visits := h.follows fun _ => phase_new hnew
  have hshown := nodup_shownRows_iff hfollows h.answers
  have honce (hundisturbed : visits.Pairwise server.Undisturbed)
      (batches : List RustExtScanBatch) (hreturned : Returned handle replies batches) :
      (emittedIds batches).Nodup :=
    (hshown.2 hundisturbed).sublist (hreturned.emitted_shown h).sublist
  refine ⟨⟨fun hall => ?_, honce⟩, ?_⟩
  · obtain ⟨batches, hreturned, hids⟩ := h.returned
    rw [← hshown, ← hids]
    exact hall batches hreturned
  · intro hundisturbed batches hreturned F σ _ _ w info assignments chunks hchunks
    exact (honce hundisturbed batches hreturned).sublist
      ((updateEvents_putIds w config info assignments chunks).trans hchunks)

end

/-! ## A row edited during a scan -/

open Json.Reference Reference

/-- One page for all rows; the sync token `s1` stands for the first version. -/
def onePage : Server where
  basePage _ := 0
  changesPage _ _ := 0
  selects _ _ := true
  readPageToken _ := none
  readSyncToken token := if token = "s1" then some 1 else none

def editedRow : Row := namedRow ("r1", false)

/-- The document of the one row, as it was created. -/
def editedDocument : Document := (Paging.Store.empty Row.id).write editedRow

/-- The server lists the row. -/
theorem onePage_lists {document : Document} {request : RowsRequest} {cursor : Cursor}
    {nextSyncToken : String}
    (hfind : ∀ id, document.find id = if id = "r1" then some editedRow else none)
    (hreads : onePage.cursor request = some cursor)
    (hpage : onePage.OnPage document "r1" cursor)
    (hsync : nextSyncToken.isEmpty = false →
      onePage.readSyncToken nextSyncToken = some document.version) :
    onePage.Answers document request cursor (rowsResponse [("r1", false)] "" nextSyncToken) where
  reads := hreads
  rows row := by
    have hrows : (rowsResponse [("r1", false)] "" nextSyncToken).rows = [editedRow] := rfl
    rw [hrows, List.mem_singleton, hfind]
    constructor
    · rintro rfl
      exact ⟨rfl, hpage, rfl⟩
    · intro ⟨hrow, _, _⟩
      split at hrow
      · exact (Option.some.inj hrow).symm
      · cases hrow
  nodup := List.nodup_singleton _
  page h := by cases h
  sync := hsync

/-- The server lists no changes. -/
theorem onePage_unchanged {document : Document} {request : RowsRequest} {since page : Nat}
    (hreads : onePage.cursor request = some (.changes since page))
    (hversion : since = document.version) :
    onePage.Answers document request (.changes since page) (rowsResponse [] "" "") where
  reads := hreads
  rows row := by
    subst hversion
    have hnot := document.not_touched_version row.id
    simp [rowsResponse, Server.OnPage, hnot]
  nodup := List.nodup_nil
  page h := by cases h
  sync h := by cases h

theorem find_editedDocument (id : String) :
    editedDocument.find id = if id = "r1" then some editedRow else none := rfl

/-- The request after the page asks for the changes since the first version. -/
theorem reads_changes : onePage.cursor ((scanState 0).scan.request.2.receive
    (rowsResponse [("r1", false)] "" "s1")).request.1 = some (.changes 1 0) := by
  decide +kernel

/-- The page of the one row. -/
theorem onePage_first : onePage.Answers editedDocument (scanState 0).scan.request.1 (.base 0)
    (rowsResponse [("r1", false)] "" "s1") :=
  onePage_lists find_editedDocument rfl rfl fun _ => by decide +kernel

/-- The scan of the document, nobody editing it. -/
theorem serves_unchanged : ∃ visits, Serves onePage (scanState 0).scan editedDocument
    [reply 200 (rowsJson [("r1", false)] "" "s1"), reply 200 (rowsJson [] "" "")] visits ∧
    visits.Pairwise onePage.Undisturbed := by
  have hsecond := @onePage_unchanged editedDocument _ 1 0 reads_changes rfl
  refine ⟨_, .visit [] rfl (list_reply rfl ..) onePage_first
    (.visit [] rfl (list_reply rfl ..) hsecond .stop), ?_⟩
  refine .cons ?_ (.cons (by simp) .nil)
  intro later hlater page since page' id hcursor hcursor' _ _ htouched
  rw [List.mem_singleton.1 hlater] at hcursor' htouched
  cases hcursor'
  exact absurd htouched (Paging.Store.not_touched_version editedDocument id)

theorem scan_emits_once_iff_unchanged : ∃ batches, Returned (scanState 0).scan
    [reply 200 (rowsJson [("r1", false)] "" "s1"), reply 200 (rowsJson [] "" "")] batches ∧
    (emittedIds batches).Nodup := by
  obtain ⟨visits, hserves, hundisturbed⟩ := serves_unchanged
  obtain ⟨batches, hreturned, -⟩ := hserves.returned
  have hnew : ScanHandle.new (fun _ => .ok ()) config table
    { filter := "", order := "", limit := 0 } = .ok (scanState 0).scan := rfl
  exact ⟨batches, hreturned, (scan_emits_once_iff hnew hserves).1.2 hundisturbed batches hreturned⟩

/-- The scan of the document, the row edited after its page. -/
theorem serves_edited : ∃ visits, Serves onePage (scanState 0).scan editedDocument
    [reply 200 (rowsJson [("r1", false)] "" "s1"), reply 200 (rowsJson [("r1", false)] "" "")]
      visits ∧
    (shownRows visits).map Row.id = ["r1", "r1"] := by
  have hfind (id : String) :
      (editedDocument.write editedRow).find id = if id = "r1" then some editedRow else none := by
    rw [Paging.Store.find_write, find_editedDocument]
    by_cases hid : id = "r1"
    · exact (if_pos hid).trans (if_pos hid).symm
    · exact if_neg hid
  have hedited : (editedDocument.writeAll [editedRow]).Touched 1 "r1" :=
    (Paging.Store.touched_writeAll (Nat.le_refl 1) "r1").2 (.inr (.head _))
  have hsecond := @onePage_lists _ _ _ "" hfind reads_changes ⟨hedited, rfl⟩ fun h => by cases h
  refine ⟨_, .visit [] rfl (list_reply rfl ..) onePage_first
    (.visit [editedRow] rfl (list_reply rfl ..) hsecond .stop), rfl⟩

/-- **A row edited after its page comes twice.** -/
theorem scan_emits_twice : ∃ visits batches, Serves onePage (scanState 0).scan editedDocument
    [reply 200 (rowsJson [("r1", false)] "" "s1"), reply 200 (rowsJson [("r1", false)] "" "")]
      visits ∧
    Returned (scanState 0).scan
      [reply 200 (rowsJson [("r1", false)] "" "s1"), reply 200 (rowsJson [("r1", false)] "" "")]
      batches ∧
    emittedIds batches = ["r1", "r1"] ∧ ¬ (emittedIds batches).Nodup := by
  obtain ⟨visits, hserves, hids⟩ := serves_edited
  obtain ⟨batches, hreturned, hshown⟩ := hserves.returned
  rw [hids] at hshown
  exact ⟨visits, batches, hserves, hreturned, hshown, by rw [hshown]; decide⟩

end SuperhumanDocs
