import SuperhumanDocs.Bridge.Reference
import SuperhumanDocs.Paging.Position
import SuperhumanDocs.Proof.ClientScan

/-!
# The requests of a scan handle

A scan handle is at a position of the listing or of its changes (`At`); the tokens of its next
request are those of the position, and a response moves it to the next position.

* `requests_well_formed`: what holds of the requests of any number of calls.
-/

set_option autoImplicit false

namespace SuperhumanDocs

open Json (SerdeJson)
open Paging (Answer Position)
open Paging.Position (trail finish asked Live)

/-! ## Positions of a handle -/

/-- The tokens of a response. -/
def RowsResponse.answer (response : RowsResponse) : Answer String where
  page := nonEmptyString response.nextPageToken
  sync := nonEmptyString response.nextSyncToken

theorem nonEmptyString_of_ne {value : String} (h : value ≠ "") :
    nonEmptyString value = some value := by
  rw [nonEmptyString, if_neg (by simpa using h)]

theorem nonEmptyString_empty : nonEmptyString "" = none := rfl

/-- The fields that change tell the position. -/
def ScanHandle.InPhase (handle : ScanHandle) : Position String → Prop
  | .first => handle.finished = false ∧ handle.syncCheckDone = false ∧
      handle.nextPageToken = "" ∧ handle.nextSyncToken = ""
  | .page token => handle.finished = false ∧ handle.syncCheckDone = false ∧
      handle.nextPageToken = token ∧ token ≠ ""
  | .sync token => handle.finished = false ∧ handle.syncCheckDone = false ∧
      handle.nextPageToken = "" ∧ handle.nextSyncToken = token ∧ token ≠ ""
  | .changes token => handle.finished = false ∧ handle.syncCheckDone = true ∧
      handle.nextPageToken = token ∧ token ≠ ""
  | .done => handle.finished = true

/-- A handle that was opened as `opened` and is now at a position. -/
structure At (opened : ScanHandle) (p : Position String) (handle : ScanHandle) : Prop where
  docId : handle.docId = opened.docId
  tableId : handle.tableId = opened.tableId
  query : handle.query = opened.query
  sortBy : handle.sortBy = opened.sortBy
  limit : handle.limit = opened.limit
  phase : handle.InPhase p

/-- The input of the request at a position. -/
def positionInput (opened : ScanHandle) (sortBy : Option RowsSortBy) (p : Position String) :
    ListRowsInput where
  docId := opened.docId
  tableIdOrName := opened.tableId
  query := nonEmptyString opened.query
  sortBy
  useColumnNames := some false
  valueFormat := some .rich
  visibleOnly := some false
  limit := some opened.limit
  pageToken := p.pageToken
  syncToken := p.syncToken

theorem at_new {newClient : ClientConfig → Except String Unit} {config : ClientConfig}
    {table : Table} {request : RustExtScanRequest} {handle : ScanHandle}
    (h : ScanHandle.new newClient config table request = .ok handle) :
    At handle .first handle := by
  obtain ⟨_, -, h⟩ := Effect.bind_eq_ok.1 h
  cases h
  exact ⟨rfl, rfl, rfl, rfl, rfl, rfl, rfl, rfl, rfl⟩

namespace At

variable {opened handle : ScanHandle} {p : Position String}

theorem finished_iff (h : At opened p handle) : handle.finished = p.isDone := by
  have hphase := h.phase
  cases p with
  | done => exact hphase
  | first | page | sync | changes => exact hphase.1

/-- The request remembers whether the changes have begun. -/
theorem checked (h : At opened p handle) (hp : p.isDone = false) :
    handle.request.2.syncCheckDone = p.readsChanges := by
  have hphase := h.phase
  cases p with
  | done => cases hp
  | first =>
    obtain ⟨-, hdone, -, hsync⟩ := hphase
    simp [ScanHandle.request, ScanHandle.checksSync, hdone, hsync, Position.readsChanges]
  | page token =>
    obtain ⟨-, hdone, hpage, hne⟩ := hphase
    simp [ScanHandle.request, ScanHandle.checksSync, hdone, hpage, hne, Position.readsChanges]
  | sync token =>
    obtain ⟨-, -, hpage, hsync, hne⟩ := hphase
    simp [ScanHandle.request, ScanHandle.checksSync, hpage, hsync, hne, Position.readsChanges]
  | changes token =>
    obtain ⟨-, hdone, -⟩ := hphase
    simp [ScanHandle.request, hdone, Position.readsChanges]

theorem tokens (h : At opened p handle) (hp : p.isDone = false) :
    nonEmptyString handle.request.1.pageToken = p.pageToken ∧
      nonEmptyString handle.request.1.syncToken = p.syncToken := by
  have hphase := h.phase
  cases p with
  | done => cases hp
  | first =>
    obtain ⟨-, -, hpage, hsync⟩ := hphase
    simp [ScanHandle.request, ScanHandle.checksSync, hpage, hsync, nonEmptyString_empty,
      Position.pageToken, Position.syncToken]
  | page token =>
    obtain ⟨-, -, hpage, hne⟩ := hphase
    simp [ScanHandle.request, ScanHandle.checksSync, hpage, hne, nonEmptyString_empty,
      nonEmptyString_of_ne hne, Position.pageToken, Position.syncToken]
  | sync token =>
    obtain ⟨-, hdone, hpage, hsync, hne⟩ := hphase
    simp [ScanHandle.request, ScanHandle.checksSync, hdone, hpage, hsync, hne,
      nonEmptyString_empty, nonEmptyString_of_ne hne, Position.pageToken, Position.syncToken]
  | changes token =>
    obtain ⟨-, hdone, hpage, hne⟩ := hphase
    simp [ScanHandle.request, ScanHandle.checksSync, hdone, hpage, nonEmptyString_empty,
      nonEmptyString_of_ne hne, Position.pageToken, Position.syncToken]

/-- **The request of a handle is the one of its position.** -/
theorem input (h : At opened p handle) (hp : p.isDone = false) (sortBy : Option RowsSortBy) :
    listRowsInput handle.docId handle.tableId handle.request.1 sortBy =
      positionInput opened sortBy p := by
  simp only [listRowsInput, positionInput, h.tokens hp, h.docId, h.tableId]
  simp only [ScanHandle.request, h.query, h.limit]

/-- **A response moves the handle to the next position.** -/
theorem receive (h : At opened p handle) (hp : p.isDone = false) (response : RowsResponse) :
    At opened (p.next response.answer) (handle.request.2.receive response) := by
  refine ⟨h.docId, h.tableId, h.query, h.sortBy, h.limit, ?_⟩
  have hfinished : handle.request.2.finished = false := h.finished_iff.trans hp
  have hchecked := h.checked hp
  by_cases hpage : response.nextPageToken = ""
  · have hlast : response.answer.page = none := by
      rw [RowsResponse.answer, hpage, nonEmptyString_empty]
    rw [Position.next_last hp hlast]
    by_cases hchanges : p.readsChanges = true
    · rw [if_pos hchanges]
      simp [ScanHandle.InPhase, ScanHandle.receive, hpage, hchecked, hchanges]
    · rw [if_neg hchanges]
      by_cases hsync : response.nextSyncToken = ""
      · rw [RowsResponse.answer, hsync, nonEmptyString_empty]
        simp [ScanHandle.InPhase, ScanHandle.receive, hpage, hsync]
      · rw [RowsResponse.answer, nonEmptyString_of_ne hsync]
        simp [ScanHandle.InPhase, ScanHandle.receive, hpage, hsync, hfinished, hchecked, hchanges]
  · have htoken : response.answer.page = some response.nextPageToken := nonEmptyString_of_ne hpage
    rw [Position.next_page hp htoken]
    by_cases hchanges : p.readsChanges = true
    · rw [if_pos hchanges]
      simp [ScanHandle.InPhase, ScanHandle.receive, hpage, hfinished, hchecked, hchanges]
    · rw [if_neg hchanges]
      simp [ScanHandle.InPhase, ScanHandle.receive, hpage, hfinished, hchecked, hchanges]

end At

/-! ## One call -/

/-- A call that has sent requests before. -/
def sentBefore {α : Type} (sent : List ListRowsInput) (call : ScanHandle × Exchanged α) :
    ScanHandle × Exchanged α := (call.1, { call.2 with sent := sent ++ call.2.sent })

/-- The answers in a list of responses. -/
def answers (responses : List RowsResponse) : List (Answer String) :=
  responses.map RowsResponse.answer

theorem answers_append (xs ys : List RowsResponse) : answers (xs ++ ys) = answers xs ++ answers ys :=
  List.map_append

section
variable [SerdeJson] {opened handle : ScanHandle} {p : Position String}
  {sortBy : Option RowsSortBy}

theorem list_nil (h : At opened p handle) (hp : p.isDone = false)
    (hsort : rowsSortBy opened.sortBy = .ok sortBy) : handle.list [] =
      { result := .error .waiting, sent := [positionInput opened sortBy p], replies := [] } := by
  have hsort' : rowsSortBy handle.request.1.sortBy = .ok sortBy := by
    rw [← hsort, ← h.sortBy]
    rfl
  simp only [ScanHandle.list, listRows, hsort', h.input hp]

theorem list_cons (h : At opened p handle) (hp : p.isDone = false)
    (hsort : rowsSortBy opened.sortBy = .ok sortBy) (reply : Reply) (replies : List Reply) :
    handle.list (reply :: replies) =
      { result := reply.rows.mapError .failed, sent := [positionInput opened sortBy p], replies } := by
  have hsort' : rowsSortBy handle.request.1.sortBy = .ok sortBy := by
    rw [← hsort, ← h.sortBy]
    rfl
  simp only [ScanHandle.list, listRows, hsort', h.input hp]

/-- A handle that waits for the reply. -/
theorem nextBatch_waits (h : At opened p handle) (hp : p.isDone = false)
    (hsort : rowsSortBy opened.sortBy = .ok sortBy) : (handle.nextBatch []).2 =
      { result := .error .waiting, sent := [positionInput opened sortBy p], replies := [] } := by
  rw [nextBatch_error (h.finished_iff.trans hp) (by rw [list_nil h hp hsort]),
    list_nil h hp hsort]

/-- A handle that returns what it reads. -/
theorem nextBatch_returns (h : At opened p handle) (hp : p.isDone = false)
    (hsort : rowsSortBy opened.sortBy = .ok sortBy) {reply : Reply} {response : RowsResponse}
    (hrow : reply.rows = .ok response)
    (hreturns : response.visibleRows ≠ [] ∨ (handle.request.2.receive response).finished = true)
    (replies : List Reply) : handle.nextBatch (reply :: replies) =
      (handle.request.2.receive response,
        { result := .ok (ffiScanBatch response.visibleRows
            (handle.request.2.receive response).finished)
          sent := [positionInput opened sortBy p]
          replies }) := by
  have hl : (handle.list (reply :: replies)).result = .ok response := by
    rw [list_cons h hp hsort, hrow]
    rfl
  rw [nextBatch_shows (h.finished_iff.trans hp) hl hreturns, list_cons h hp hsort]

/-- A handle that shows nothing of what it reads goes on. -/
theorem nextBatch_skips (h : At opened p handle) (hp : p.isDone = false)
    (hsort : rowsSortBy opened.sortBy = .ok sortBy) {reply : Reply} {response : RowsResponse}
    (hrow : reply.rows = .ok response)
    (hskips : ¬ (response.visibleRows ≠ [] ∨
      (handle.request.2.receive response).finished = true))
    (replies : List Reply) : handle.nextBatch (reply :: replies) =
      sentBefore [positionInput opened sortBy p]
        ((handle.request.2.receive response).nextBatch replies) := by
  have hl : (handle.list (reply :: replies)).result = .ok response := by
    rw [list_cons h hp hsort, hrow]
    rfl
  rw [nextBatch_passes (h.finished_iff.trans hp) hl hskips, list_cons h hp hsort]
  rfl

/-- The replies are read as these responses. -/
abbrev Answered (replies : List Reply) (responses : List RowsResponse) : Prop :=
  List.Forall₂ (fun reply response => reply.rows = .ok response) replies responses

theorem Answered.split {used rest : List Reply} {read responses : List RowsResponse}
    (h : Answered (used ++ rest) responses) (hread : Answered used read) :
    ∃ later, responses = read ++ later ∧ Answered rest later := by
  induction hread generalizing responses with
  | nil => exact ⟨responses, rfl, h⟩
  | @cons reply response used read hrow hread ih =>
    cases h with
    | cons hrow' h =>
      cases hrow.symm.trans hrow'
      obtain ⟨later, rfl, hlater⟩ := ih h
      exact ⟨later, rfl, hlater⟩

theorem Answered.append {used rest : List Reply} {read later : List RowsResponse}
    (h : Answered used read) (h' : Answered rest later) : Answered (used ++ rest) (read ++ later) := by
  induction h with
  | nil => exact h'
  | cons hrow h ih => exact .cons hrow ih

/-- The handle reads replies that show no row, and is then at `middle`. -/
structure Reads (opened : ScanHandle) (sortBy : Option RowsSortBy) (p : Position String)
    (handle : ScanHandle) (used : List Reply) (responses : List RowsResponse)
    (middle : ScanHandle) : Prop where
  rows : Answered used responses
  live : Live p (answers responses)
  at_middle : At opened (finish p (answers responses)) middle
  goesOn : ∀ more, handle.nextBatch (used ++ more) =
    sentBefore ((trail p (answers responses)).map (positionInput opened sortBy))
      (middle.nextBatch more)

/-- How a call ends at a handle that is not done: it waits, it fails, or it returns a batch. -/
def Stops (middle : ScanHandle) (replies : List Reply) : Prop :=
  replies = [] ∨ ∃ reply rest, replies = reply :: rest ∧
    ((∃ e, reply.rows = .error e) ∨ ∃ response, reply.rows = .ok response ∧
      (response.visibleRows ≠ [] ∨ (middle.request.2.receive response).finished = true))

/-- **A call reads replies without visible rows, and then stops.** -/
theorem reads_exists (h : At opened p handle) (hp : p.isDone = false)
    (hsort : rowsSortBy opened.sortBy = .ok sortBy) (replies : List Reply) :
    ∃ used responses middle rest, replies = used ++ rest ∧
      Reads opened sortBy p handle used responses middle ∧
      (finish p (answers responses)).isDone = false ∧ Stops middle rest := by
  have hhere : Reads opened sortBy p handle [] [] handle :=
    ⟨.nil, fun _ hq => (List.not_mem_nil hq).elim, h, fun _ => rfl⟩
  induction replies generalizing p handle with
  | nil => exact ⟨[], [], handle, [], rfl, hhere, hp, .inl rfl⟩
  | cons reply replies ih =>
    cases hrows : reply.rows with
    | error e =>
      exact ⟨[], [], handle, reply :: replies, rfl, hhere, hp,
        .inr ⟨reply, replies, rfl, .inl ⟨e, hrows⟩⟩⟩
    | ok response =>
      by_cases hreturns : response.visibleRows ≠ [] ∨
          (handle.request.2.receive response).finished = true
      · exact ⟨[], [], handle, reply :: replies, rfl, hhere, hp,
          .inr ⟨reply, replies, rfl, .inr ⟨response, hrows, hreturns⟩⟩⟩
      · have hat := h.receive hp response
        have hnext : (p.next response.answer).isDone = false := by
          rw [← hat.finished_iff]
          simpa using fun hf => hreturns (.inr hf)
        obtain ⟨used, responses, middle, rest, rfl, hreads, hdone, hstops⟩ :=
          ih hat hnext ⟨.nil, fun _ hq => (List.not_mem_nil hq).elim, hat, fun _ => rfl⟩
        refine ⟨reply :: used, response :: responses, middle, rest, rfl, ?_, hdone, hstops⟩
        refine ⟨.cons hrows hreads.rows, ?_, hreads.at_middle, fun more => ?_⟩
        · intro q hq
          rcases List.mem_cons.1 hq with rfl | hq
          · exact hp
          · exact hreads.live q hq
        · rw [List.cons_append, nextBatch_skips h hp hsort hrows hreturns, hreads.goesOn more]
          rfl

/-! ## Any number of calls -/

/-- Calls that return batches, with what they sent, the handle after them and the replies left. -/
inductive NextBatches : ScanHandle → List Reply → List RustExtScanBatch → List ListRowsInput →
    ScanHandle → List Reply → Prop
  | nil {handle : ScanHandle} {replies : List Reply} : NextBatches handle replies [] [] handle replies
  | call {handle final : ScanHandle} {replies rest : List Reply} {batch : RustExtScanBatch}
      {batches : List RustExtScanBatch} {sent : List ListRowsInput} :
      (handle.nextBatch replies).2.result = .ok batch →
      NextBatches (handle.nextBatch replies).1 (handle.nextBatch replies).2.replies batches sent
        final rest →
      NextBatches handle replies (batch :: batches) ((handle.nextBatch replies).2.sent ++ sent)
        final rest

variable {replies : List Reply} {responses : List RowsResponse}

theorem NextBatches.of_call {next final : ScanHandle} {left rest : List Reply}
    {batch : RustExtScanBatch} {batches : List RustExtScanBatch} {sent more : List ListRowsInput}
    (hcall : handle.nextBatch replies = (next, { result := .ok batch, sent, replies := left }))
    (h : NextBatches next left batches more final rest) :
    NextBatches handle replies (batch :: batches) (sent ++ more) final rest := by
  have hrun : (handle.nextBatch replies).2.result = .ok batch →
      NextBatches (handle.nextBatch replies).1 (handle.nextBatch replies).2.replies batches more
        final rest →
      NextBatches handle replies (batch :: batches) ((handle.nextBatch replies).2.sent ++ more)
        final rest := .call
  rw [hcall] at hrun
  exact hrun rfl h

theorem NextBatches.of_skip {next final : ScanHandle} {left rest : List Reply}
    {batch : RustExtScanBatch} {batches : List RustExtScanBatch} {first more : List ListRowsInput}
    (hcall : handle.nextBatch replies = sentBefore first (next.nextBatch left))
    (hok : (next.nextBatch left).2.result = .ok batch)
    (h : NextBatches (next.nextBatch left).1 (next.nextBatch left).2.replies batches more
      final rest) :
    NextBatches handle replies (batch :: batches) (first ++ (next.nextBatch left).2.sent ++ more)
      final rest :=
  .of_call (by rw [hcall, sentBefore, ← hok]) h

/-- From `replies` with these responses, the handle has read `used`: the requests it sent, where it
is and what is left. -/
structure Walked (opened : ScanHandle) (sortBy : Option RowsSortBy) (p : Position String)
    (responses used : List RowsResponse) (sent : List ListRowsInput) (final : ScanHandle)
    (rest : List Reply) : Prop where
  left : ∃ later, responses = used ++ later ∧ Answered rest later
  live : Live p (answers used)
  sent_eq : sent = (trail p (answers used)).map (positionInput opened sortBy)
  at_final : At opened (finish p (answers used)) final


/-- **One call that returns.** -/
theorem nextBatch_walked (h : At opened p handle) (hsort : rowsSortBy opened.sortBy = .ok sortBy)
    (hreplies : Answered replies responses) {batch : RustExtScanBatch}
    (hok : (handle.nextBatch replies).2.result = .ok batch) :
    ∃ used, Walked opened sortBy p responses used (handle.nextBatch replies).2.sent
      (handle.nextBatch replies).1 (handle.nextBatch replies).2.replies := by
  by_cases hp : p.isDone = true
  · rw [nextBatch_finished (h.finished_iff.trans hp)]
    exact ⟨[], ⟨responses, rfl, hreplies⟩, fun _ hq => (List.not_mem_nil hq).elim, rfl, h⟩
  · rw [Bool.not_eq_true] at hp
    obtain ⟨used, read, middle, rest, rfl, hreads, hnot, hstops⟩ := reads_exists h hp hsort replies
    obtain ⟨later, rfl, hlater⟩ := Answered.split hreplies hreads.rows
    rw [hreads.goesOn, sentBefore] at hok ⊢
    rcases hstops with rfl | ⟨reply, rest, rfl, ⟨e, hrow⟩ | ⟨response, hrow, hreturns⟩⟩
    · rw [nextBatch_waits hreads.at_middle hnot hsort] at hok
      cases hok
    · cases hlater with
      | cons hrow' _ => cases hrow.symm.trans hrow'
    · cases hlater with
      | @cons _ response' _ later hrow' hlater =>
        cases hrow.symm.trans hrow'
        rw [nextBatch_returns hreads.at_middle hnot hsort hrow hreturns]
        refine ⟨read ++ [response], ⟨later, by simp, hlater⟩, ?_, ?_, ?_⟩
        · rw [answers_append]
          refine hreads.live.append fun q hq => ?_
          rw [show q = _ from List.mem_singleton.1 hq]
          exact hnot
        · rw [answers_append, Position.trail_append, List.map_append]
          rfl
        · rw [answers_append, Position.finish_append]
          exact hreads.at_middle.receive hnot response

/-- **Any number of calls that return.** -/
theorem NextBatches.walked {batches : List RustExtScanBatch} {sent : List ListRowsInput}
    {final : ScanHandle} {rest : List Reply}
    (hrun : NextBatches handle replies batches sent final rest)
    (h : At opened p handle) (hsort : rowsSortBy opened.sortBy = .ok sortBy)
    (hreplies : Answered replies responses) :
    ∃ used, Walked opened sortBy p responses used sent final rest := by
  induction hrun generalizing p responses with
  | nil => exact ⟨[], ⟨responses, rfl, hreplies⟩, fun _ hq => (List.not_mem_nil hq).elim, rfl, h⟩
  | call hok _ ih =>
    obtain ⟨used, ⟨later, rfl, hlater⟩, hlive, hsent, hat⟩ := nextBatch_walked h hsort hreplies hok
    obtain ⟨used', ⟨later', rfl, hlater'⟩, hlive', hsent', hat'⟩ := ih hat hlater
    refine ⟨used ++ used', ⟨later', by simp, hlater'⟩, ?_, ?_, ?_⟩
    · rw [answers_append]
      exact hlive.append hlive'
    · rw [hsent, hsent', answers_append, Position.trail_append, List.map_append]
    · rw [answers_append, Position.finish_append]
      exact hat'

/-- The requests of one more call, whether it returns or waits. -/
theorem nextBatch_sent (h : At opened p handle) (hsort : rowsSortBy opened.sortBy = .ok sortBy)
    (hreplies : Answered replies responses) : ∃ positions, positions <+: asked p (answers responses) ∧
      (handle.nextBatch replies).2.sent = positions.map (positionInput opened sortBy) := by
  by_cases hp : p.isDone = true
  · rw [nextBatch_finished (h.finished_iff.trans hp)]
    exact ⟨[], List.nil_prefix, rfl⟩
  · rw [Bool.not_eq_true] at hp
    obtain ⟨used, read, middle, rest, rfl, hreads, hnot, hstops⟩ := reads_exists h hp hsort replies
    obtain ⟨later, rfl, hlater⟩ := Answered.split hreplies hreads.rows
    rw [hreads.goesOn, sentBefore]
    refine ⟨trail p (answers read) ++ [finish p (answers read)], ?_, ?_⟩
    · rw [answers_append, Position.asked_append hreads.live, List.prefix_append_right_inj]
      cases later with
      | nil => rw [show answers [] = [] from rfl, Position.asked_nil hnot]
      | cons response later =>
        rw [show answers (response :: later) = response.answer :: answers later from rfl,
          Position.asked_cons hnot]
        exact ⟨_, rfl⟩
    · rw [List.map_append]
      rcases hstops with rfl | ⟨reply, rest, rfl, ⟨e, hrow⟩ | ⟨response, hrow, hreturns⟩⟩
      · rw [nextBatch_waits hreads.at_middle hnot hsort]
        rfl
      · cases hlater with
        | cons hrow' _ => cases hrow.symm.trans hrow'
      · rw [nextBatch_returns hreads.at_middle hnot hsort hrow hreturns]
        rfl

/-- The requests of any number of calls and one more. -/
theorem NextBatches.sent_positions {batches : List RustExtScanBatch} {sent : List ListRowsInput}
    {final : ScanHandle} {rest : List Reply}
    (hrun : NextBatches handle replies batches sent final rest)
    (h : At opened p handle) (hsort : rowsSortBy opened.sortBy = .ok sortBy)
    (hreplies : Answered replies responses) :
    ∃ positions, positions <+: asked p (answers responses) ∧
      sent ++ (final.nextBatch rest).2.sent = positions.map (positionInput opened sortBy) := by
  obtain ⟨used, ⟨later, rfl, hlater⟩, hlive, hsent, hat⟩ := hrun.walked h hsort hreplies
  obtain ⟨positions, hinitial, hmore⟩ := nextBatch_sent hat hsort hlater
  refine ⟨trail p (answers used) ++ positions, ?_, ?_⟩
  · rw [answers_append, Position.asked_append hlive]
    exact (List.prefix_append_right_inj _).2 hinitial
  · rw [hsent, hmore, List.map_append]

theorem list_unsorted {e : String} (hsort : rowsSortBy handle.sortBy = .error e)
    (replies : List Reply) :
    handle.list replies = { result := .error (.failed e), sent := [], replies } := by
  have hsort' : rowsSortBy handle.request.1.sortBy = .error e := hsort
  rw [ScanHandle.list, listRows, hsort']

/-- Without a sort order of the service nothing is sent. -/
theorem nextBatch_unsorted {e : String} (hf : handle.finished = false)
    (hsort : rowsSortBy handle.sortBy = .error e) (replies : List Reply) :
    handle.nextBatch replies =
      (handle.request.2, { result := .error (.failed e), sent := [], replies }) := by
  rw [nextBatch_error hf (by rw [list_unsorted hsort]), list_unsorted hsort]

theorem NextBatches.unsorted {batches : List RustExtScanBatch} {sent : List ListRowsInput}
    {final : ScanHandle} {rest : List Reply}
    (hrun : NextBatches handle replies batches sent final rest)
    {e : String} (hf : handle.finished = false) (hsort : rowsSortBy handle.sortBy = .error e) :
    sent = [] ∧ final = handle := by
  cases hrun with
  | nil => exact ⟨rfl, rfl⟩
  | call hok _ =>
    rw [nextBatch_unsorted hf hsort] at hok
    cases hok

/-! ## The protocol of a scan -/

/-- The requests of a scan whose responses are these. -/
structure WellFormedRequests (request : RustExtScanRequest) (responses : List RowsResponse)
    (inputs : List ListRowsInput) : Prop where
  first : ∀ input, inputs.head? = some input → input.pageToken = none ∧ input.syncToken = none
  exclusive : ∀ input ∈ inputs, input.pageToken = none ∨ input.syncToken = none
  syncOnce : inputs.Pairwise fun a b => a.syncToken = none ∨ b.syncToken = none
  syncLast : ∀ i input, inputs[i + 1]? = some input → input.syncToken ≠ none →
    ∃ response, responses[i]? = some response ∧ response.nextPageToken = ""
  noRestart : ∀ i input, inputs[i + 1]? = some input →
    input.pageToken ≠ none ∨ input.syncToken ≠ none
  same : ∃ limit, 1 ≤ limit ∧ limit ≤ 500 ∧ ∀ input ∈ inputs,
    input.query = nonEmptyString request.filter ∧ rowsSortBy request.order = .ok input.sortBy ∧
      input.limit = some limit

omit [SerdeJson] in
/-- Requests at the positions of the listing are well formed. -/
theorem wellFormed_of_positions {newClient : ClientConfig → Except String Unit}
    {config : ClientConfig} {table : Table} {request : RustExtScanRequest}
    {positions : List (Position String)}
    (hnew : ScanHandle.new newClient config table request = .ok opened)
    (hsort : rowsSortBy opened.sortBy = .ok sortBy)
    (hinitial : positions <+: asked .first (answers responses)) :
    WellFormedRequests request responses (positions.map (positionInput opened sortBy)) := by
  have hsucc : ∀ i p, positions[i + 1]? = some p → ∃ q answer, (answers responses)[i]? = some answer ∧
      p = Position.next q answer ∧ p.isDone = false := by
    intro i p hp
    obtain ⟨hi, rfl⟩ := List.getElem?_eq_some_iff.1 hp
    have hasked := List.getElem?_eq_getElem (hi.trans_le hinitial.length_le)
    rw [← hinitial.getElem hi] at hasked
    obtain ⟨q, answer, -, hanswer, heq, hdone⟩ := Position.asked_succ hasked
    exact ⟨q, answer, hanswer, heq, hdone⟩
  obtain ⟨_, -, hopened⟩ := Effect.bind_eq_ok.1 hnew
  cases hopened
  refine ⟨?_, ?_, ?_, ?_, ?_, ?_⟩
  · intro input hinput
    cases positions with
    | nil => cases hinput
    | cons p positions =>
      obtain ⟨more, hmore⟩ := hinitial
      have hp : p = .first := Position.asked_head? (by rw [← hmore]; rfl)
      cases hinput
      rw [hp]
      exact ⟨rfl, rfl⟩
  · intro input hinput
    obtain ⟨p, -, rfl⟩ := List.mem_map.1 hinput
    exact p.tokens_exclusive
  · rw [List.pairwise_map]
    exact (Position.asked_sync _ _).sublist hinitial.sublist
  · intro i input hinput hsync
    rw [List.getElem?_map] at hinput
    obtain ⟨p, hp, rfl⟩ := Option.map_eq_some_iff.1 hinput
    obtain ⟨q, answer, hanswer, rfl, -⟩ := hsucc i p hp
    rw [answers, List.getElem?_map] at hanswer
    obtain ⟨response, hresponse, rfl⟩ := Option.map_eq_some_iff.1 hanswer
    refine ⟨response, hresponse, ?_⟩
    have hpage := Position.next_sync hsync
    by_contra hne
    rw [RowsResponse.answer, nonEmptyString_of_ne hne] at hpage
    cases hpage
  · intro i input hinput
    rw [List.getElem?_map] at hinput
    obtain ⟨p, hp, rfl⟩ := Option.map_eq_some_iff.1 hinput
    obtain ⟨q, answer, -, rfl, hdone⟩ := hsucc i p hp
    exact Position.next_token hdone
  · refine ⟨if request.limit = 0 then 500 else min request.limit 500, ?_, ?_, ?_⟩
    · by_cases hlimit : request.limit = 0
      · simp [hlimit]
      · rw [if_neg hlimit]
        omega
    · by_cases hlimit : request.limit = 0
      · simp [hlimit]
      · rw [if_neg hlimit]
        omega
    · intro input hinput
      obtain ⟨p, -, rfl⟩ := List.mem_map.1 hinput
      exact ⟨rfl, hsort, rfl⟩

omit [SerdeJson] in
theorem wellFormed_nil (request : RustExtScanRequest) (responses : List RowsResponse) :
    WellFormedRequests request responses [] := by
  refine ⟨?_, ?_, .nil, ?_, ?_, 1, le_rfl, by omega, ?_⟩ <;> simp

/-- A chain of pages and its last page. -/
def PageChain (responses : List RowsResponse) (last : RowsResponse) : Prop :=
  ∃ pages, responses = pages ++ [last] ∧ (∀ page ∈ pages, page.nextPageToken ≠ "") ∧
    last.nextPageToken = ""

/-- The page chain of a listing, and that of the changes since, if there is a sync token. -/
def ReadOut (listing changes : List RowsResponse) : Prop :=
  ∃ last, PageChain listing last ∧ (last.nextSyncToken = "" ∧ changes = [] ∨
    last.nextSyncToken ≠ "" ∧ ∃ last, PageChain changes last)

omit [SerdeJson] in
theorem answer_page_iff {response : RowsResponse} :
    response.answer.page = none ↔ response.nextPageToken = "" := by
  by_cases h : response.nextPageToken = ""
  · simp [RowsResponse.answer, h, nonEmptyString_empty]
  · simp [RowsResponse.answer, h, nonEmptyString_of_ne h]

omit [SerdeJson] in
theorem answer_sync_iff {response : RowsResponse} :
    response.answer.sync = none ↔ response.nextSyncToken = "" := by
  by_cases h : response.nextSyncToken = ""
  · simp [RowsResponse.answer, h, nonEmptyString_empty]
  · simp [RowsResponse.answer, h, nonEmptyString_of_ne h]

omit [SerdeJson] in
theorem pages_ne_none {pages : List RowsResponse} (h : ∀ page ∈ pages, page.nextPageToken ≠ "") :
    ∀ answer ∈ answers pages, answer.page ≠ none := by
  intro answer hanswer
  obtain ⟨page, hpage, rfl⟩ := List.mem_map.1 hanswer
  exact fun hnone => h page hpage (answer_page_iff.1 hnone)

omit [SerdeJson] in
/-- The chains are read to the end. -/
theorem ReadOut.ends {listing changes : List RowsResponse} (h : ReadOut listing changes) :
    Position.Ends .first (answers (listing ++ changes)) := by
  obtain ⟨last, ⟨pages, rfl, hpages, hlast⟩, hchanges⟩ := h
  rw [List.append_assoc, answers_append]
  refine Position.listing_ends (.inl rfl) (pages_ne_none hpages) (answer_page_iff.2 hlast) ?_
  rcases hchanges with ⟨hsync, rfl⟩ | ⟨hsync, last', pages', rfl, hpages', hlast'⟩
  · exact .inl ⟨answer_sync_iff.2 hsync, rfl⟩
  · exact .inr ⟨fun hnone => hsync (answer_sync_iff.1 hnone), answers pages', last'.answer,
      answers_append pages' [last'], pages_ne_none hpages', answer_page_iff.2 hlast'⟩

/-- **A handle with the rest to read can be called until it is finished.** -/
theorem finishing_run {left : List (Answer String)} (h : At opened p handle)
    (hsort : rowsSortBy opened.sortBy = .ok sortBy) (hleft : Position.Ends p left)
    {later : List RowsResponse} (hresponses : left = answers responses)
    (hreplies : Answered replies (responses ++ later)) :
    ∃ batches sent final rest, NextBatches handle replies batches sent final rest ∧
      final.finished = true := by
  induction hleft generalizing handle replies responses with
  | nil => exact ⟨[], [], handle, replies, .nil, h.finished_iff⟩
  | @cons p answer left hp _ ih =>
    cases responses with
    | nil => cases hresponses
    | cons response responses =>
      obtain ⟨rfl, hleft⟩ := List.cons.inj hresponses
      cases hreplies with
      | @cons reply _ replies _ hrow hreplies =>
        obtain ⟨batches, sent, final, rest, hrun, hfinished⟩ :=
          ih (h.receive hp response) hleft hreplies
        by_cases hreturns : response.visibleRows ≠ [] ∨
            (handle.request.2.receive response).finished = true
        · have hcall := nextBatch_returns h hp hsort hrow hreturns replies
          exact ⟨_, _, final, rest, .of_call hcall hrun, hfinished⟩
        · have hcall := nextBatch_skips h hp hsort hrow hreturns replies
          -- The next handle is not finished, so the run makes a call, which is this one.
          cases hrun with
          | nil => exact absurd (.inr hfinished) hreturns
          | call hok hrun =>
            exact ⟨_, _, final, rest, .of_skip hcall hok hrun, hfinished⟩

/-- The chains go on where the handle is. -/
theorem Walked.rest_ends {used ending later : List RowsResponse} {sent : List ListRowsInput}
    {final : ScanHandle} {rest : List Reply}
    (h : Walked opened sortBy p responses used sent final rest)
    (hends : Position.Ends p (answers ending)) (hresponses : responses = ending ++ later) :
    ∃ left, ending = used ++ left ∧ Position.Ends (finish p (answers used)) (answers left) ∧
      Answered rest (left ++ later) := by
  obtain ⟨unread, hused, hunread⟩ := h.left
  have happend : ending ++ later = used ++ unread := hresponses ▸ hused
  have hanswers : answers ending ++ answers later = answers used ++ answers unread := by
    rw [← answers_append, ← answers_append, happend]
  obtain ⟨left, hending, hleft⟩ := hends.rest h.live hanswers
  have hlength : used.length ≤ ending.length := by
    have := congrArg List.length hending
    simp only [answers, List.length_append, List.length_map] at this
    omega
  obtain ⟨left', rfl⟩ : used <+: ending :=
    List.prefix_of_prefix_length_le ⟨unread, happend.symm⟩ ⟨later, rfl⟩ hlength
  rw [answers_append, List.append_cancel_left_eq] at hending
  rw [List.append_assoc, List.append_cancel_left_eq] at happend
  exact ⟨left', rfl, hending ▸ hleft, happend ▸ hunread⟩

/-- A handle is finished when it has sent a request for each response of the chains. -/
theorem Walked.done_iff {used ending later : List RowsResponse} {sent : List ListRowsInput}
    {final : ScanHandle} {rest : List Reply}
    (h : Walked opened sortBy p responses used sent final rest)
    (hends : Position.Ends p (answers ending)) (hresponses : responses = ending ++ later) :
    final.finished = true ↔ sent.length = ending.length := by
  obtain ⟨left, rfl, hleft, -⟩ := h.rest_ends hends hresponses
  have hlength : sent.length = used.length := by
    rw [h.sent_eq, List.length_map, Position.trail_length, answers, List.length_map]
  rw [h.at_final.finished_iff, hleft.isDone_iff, answers, List.map_eq_nil_iff, hlength,
    List.length_append, ← List.length_eq_zero_iff]
  omega

theorem NextBatches.append {middle final : ScanHandle} {left rest : List Reply}
    {batches batches' : List RustExtScanBatch} {sent sent' : List ListRowsInput}
    (h : NextBatches handle replies batches sent middle left)
    (h' : NextBatches middle left batches' sent' final rest) :
    NextBatches handle replies (batches ++ batches') (sent ++ sent') final rest := by
  induction h with
  | nil => exact h'
  | call hok _ ih =>
    rw [List.append_assoc]
    exact .call hok (ih h')

/-- The chains take one request for each of their responses. -/
theorem NextBatches.read_out {ending later : List RowsResponse} {final : ScanHandle}
    {rest : List Reply} {batches : List RustExtScanBatch} {sent : List ListRowsInput}
    (hrun : NextBatches handle replies batches sent final rest) (hat : At opened .first handle)
    (hsort : rowsSortBy opened.sortBy = .ok sortBy) (hreplies : Answered replies responses)
    (hends : Position.Ends .first (answers ending)) (hresponses : responses = ending ++ later) :
    (sent ++ (final.nextBatch rest).2.sent).length ≤ ending.length ∧
    (final.finished = true ↔ sent.length = ending.length) ∧
    ∃ batches' sent' final' rest', NextBatches final rest batches' sent' final' rest' ∧
      final'.finished = true ∧ (sent ++ sent').length = ending.length := by
  obtain ⟨used, hwalked⟩ := hrun.walked hat hsort hreplies
  refine ⟨?_, hwalked.done_iff hends hresponses, ?_⟩
  · obtain ⟨positions, hinitial, hsent⟩ := hrun.sent_positions hat hsort hreplies
    have hlength := hends.asked_length (answers later)
    rw [← answers_append, ← hresponses] at hlength
    rw [hsent, List.length_map]
    exact hinitial.length_le.trans (by rw [hlength, answers, List.length_map])
  · obtain ⟨left, hending, hleft, hunread⟩ := hwalked.rest_ends hends hresponses
    obtain ⟨batches', sent', final', rest', hrun', hfinished⟩ :=
      finishing_run hwalked.at_final hsort hleft rfl hunread
    obtain ⟨used', hwalked'⟩ := (hrun.append hrun').walked hat hsort hreplies
    exact ⟨batches', sent', final', rest', hrun', hfinished,
      (hwalked'.done_iff hends hresponses).1 hfinished⟩

/-- **The requests of a scan are well formed against any responses.** -/
theorem requests_well_formed {newClient : ClientConfig → Except String Unit}
    {config : ClientConfig} {table : Table} {request : RustExtScanRequest} {final : ScanHandle}
    {rest : List Reply} {batches : List RustExtScanBatch} {sent : List ListRowsInput}
    (hnew : ScanHandle.new newClient config table request = .ok handle)
    (hreplies : Answered replies responses)
    (hrun : NextBatches handle replies batches sent final rest) :
    WellFormedRequests request responses (sent ++ (final.nextBatch rest).2.sent) ∧
    (final.finished = true → ∀ more, final.nextBatch more =
      (final, { result := .ok (ffiScanBatch [] true), sent := [], replies := more })) ∧
    (∀ listing changes later, responses = listing ++ changes ++ later → ReadOut listing changes →
      (sent ++ (final.nextBatch rest).2.sent).length ≤ listing.length + changes.length ∧
      (final.finished = true ↔ sent.length = listing.length + changes.length) ∧
      ((∃ sortBy, rowsSortBy request.order = .ok sortBy) → ∃ batches' sent' final' rest',
        NextBatches final rest batches' sent' final' rest' ∧ final'.finished = true ∧
        (sent ++ sent').length = listing.length + changes.length)) := by
  have hat := at_new hnew
  have hopened : handle.sortBy = request.order ∧ handle.finished = false := by
    obtain ⟨_, -, h⟩ := Effect.bind_eq_ok.1 hnew
    cases h
    exact ⟨rfl, rfl⟩
  obtain ⟨horder, hunfinished⟩ := hopened
  cases hsort : rowsSortBy handle.sortBy with
  | error e =>
    -- A sort order the service does not have: each call fails before it sends anything.
    obtain ⟨rfl, rfl⟩ := hrun.unsorted hunfinished hsort
    rw [nextBatch_unsorted hunfinished hsort]
    refine ⟨wellFormed_nil request responses, fun _ more => nextBatch_finished ‹_›, ?_⟩
    rintro listing changes later - ⟨last, ⟨pages, rfl, -⟩, -⟩
    refine ⟨by simp, iff_of_false (by simp [hunfinished]) (by simp; omega), fun hsorted => ?_⟩
    obtain ⟨sortBy, hsorted⟩ := hsorted
    rw [← horder, hsort] at hsorted
    cases hsorted
  | ok sortBy =>
    refine ⟨?_, fun _ more => nextBatch_finished ‹_›, ?_⟩
    · obtain ⟨positions, hinitial, hsent⟩ := hrun.sent_positions hat hsort hreplies
      rw [hsent]
      exact wellFormed_of_positions hnew hsort hinitial
    · rintro listing changes later hresponses hread
      rw [← List.length_append]
      obtain ⟨hsent, hdone, hfinish⟩ := hrun.read_out hat hsort hreplies hread.ends hresponses
      exact ⟨hsent, hdone, fun _ => hfinish⟩

end

open Json.Reference Reference

/-- Two pages of the listing and one of the changes. -/
def threeResponses : List RowsResponse :=
  [rowsResponse [("r1", false)] "p2" "", rowsResponse [("r2", false)] "" "s1",
    rowsResponse [] "" ""]

def threeReplies : List Reply :=
  [reply 200 (rowsJson [("r1", false)] "p2" ""), reply 200 (rowsJson [("r2", false)] "" "s1"),
    reply 200 (rowsJson [] "" "")]

theorem answered_three : Answered threeReplies threeResponses :=
  .cons (rows_reply ..) (.cons (rows_reply ..) (.cons (rows_reply ..) .nil))

theorem readOut_three : ReadOut (threeResponses.take 2) (threeResponses.drop 2) :=
  ⟨_, ⟨[rowsResponse [("r1", false)] "p2" ""], rfl, by simp [rowsResponse], rfl⟩,
    .inr ⟨by simp [rowsResponse], _, [], rfl, by simp, rfl⟩⟩

theorem requests_well_formed_three : ∃ batches sent final rest,
    NextBatches (scanState 0).scan threeReplies batches sent final rest ∧
      final.finished = true ∧ sent.length = 3 := by
  have hnew : ScanHandle.new (fun _ => .ok ()) config table
    { filter := "", order := "", limit := 0 } = .ok (scanState 0).scan := rfl
  obtain ⟨-, -, hends⟩ := requests_well_formed hnew answered_three .nil
  exact (hends _ _ [] rfl readOut_three).2.2 ⟨none, rfl⟩

end SuperhumanDocs
