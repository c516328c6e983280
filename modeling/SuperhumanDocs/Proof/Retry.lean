import SuperhumanDocs.Mutation.Reference
import SuperhumanDocs.Proof.Requests

/-!
# Calls that fail and are made again

`next_batch` builds its request and notes in `sync_check_done` that it asks with the sync token
before the request is sent. A failed request leaves the other fields as they were.

* `retry_repeats_iff`: the next call repeats a failed request unless that one asked with the sync
  token, and calls that fail at other requests only emit what they emit without the failures.
-/

set_option autoImplicit false

namespace SuperhumanDocs

open Json (SerdeJson)
open Paging (Answer Position)
open Paging.Position (trail finish attempts after)

/-! ## The request after a failure -/

/-- The last request of a call asked for the changes. -/
def Exchanged.AskedChanges {α : Type} (call : Exchanged α) : Prop :=
  ∃ input, call.sent.getLast? = some input ∧ input.syncToken ≠ none

/-- A request that does not ask with the sync token changes nothing. -/
theorem request_same {handle : ScanHandle} (h : handle.checksSync = false) :
    handle.request.2 = handle := by
  simp [ScanHandle.request, h]

theorem input_syncToken_iff {handle : ScanHandle} (sortBy : Option RowsSortBy) :
    (listRowsInput handle.docId handle.tableId handle.request.1 sortBy).syncToken = none ↔
      handle.checksSync = false := by
  cases hchecks : handle.checksSync with
  | false => simp [listRowsInput, ScanHandle.request, hchecks, nonEmptyString_empty]
  | true =>
    have hne : handle.nextSyncToken ≠ "" := by
      simp only [ScanHandle.checksSync, Bool.and_eq_true] at hchecks
      simpa using hchecks.1.2
    simp [listRowsInput, ScanHandle.request, hchecks, nonEmptyString_of_ne hne]

/-- A handle does not ask for the changes twice. -/
theorem request_checksSync (handle : ScanHandle) : handle.request.2.checksSync = false := by
  cases hchecks : handle.checksSync with
  | false => rw [request_same hchecks, hchecks]
  | true =>
    have hdone : handle.request.2.syncCheckDone = true := by simp [ScanHandle.request, hchecks]
    simp [ScanHandle.checksSync, hdone]

/-- The request of a position with no sync token leaves the handle as it is. -/
theorem At.request_same {opened handle : ScanHandle} {p : Position String}
    (h : At opened p handle) (hp : p.isDone = false) (hsync : p.syncToken = none) :
    handle.request.2 = handle := by
  apply SuperhumanDocs.request_same
  rw [← input_syncToken_iff none, h.input hp]
  exact hsync

section
variable [SerdeJson] {handle opened : ScanHandle} {p : Position String}
  {sortBy : Option RowsSortBy} {replies : List Reply}

theorem list_sent (hsort : rowsSortBy handle.sortBy = .ok sortBy) (replies : List Reply) :
    (handle.list replies).sent =
      [listRowsInput handle.docId handle.tableId handle.request.1 sortBy] := by
  have hsort' : rowsSortBy handle.request.1.sortBy = .ok sortBy := hsort
  cases replies <;> simp only [ScanHandle.list, listRows, hsort']

/-- A call sends its first listing first. -/
theorem nextBatch_head? (h : handle.finished = false)
    (hsort : rowsSortBy handle.sortBy = .ok sortBy) (replies : List Reply) :
    (handle.nextBatch replies).2.sent.head? =
      some (listRowsInput handle.docId handle.tableId handle.request.1 sortBy) := by
  cases hl : (handle.list replies).result with
  | error stop => rw [nextBatch_error h hl, list_sent hsort]; rfl
  | ok response =>
    rw [nextBatch_ok h hl]
    split <;> simp [list_sent hsort]

/-- **A failed call stops at a handle whose request it sent last.** -/
theorem nextBatch_failed {message : String}
    (h : (handle.nextBatch replies).2.result = .error (.failed message))
    (hsort : rowsSortBy handle.sortBy = .ok sortBy) :
    ∃ stopped : ScanHandle, stopped.finished = false ∧ stopped.sortBy = handle.sortBy ∧
      (handle.nextBatch replies).1 = stopped.request.2 ∧
      (handle.nextBatch replies).2.sent.getLast? =
        some (listRowsInput stopped.docId stopped.tableId stopped.request.1 sortBy) := by
  induction hn : replies.length using Nat.strong_induction_on generalizing handle replies with
  | _ n ih =>
    by_cases hfin : handle.finished = true
    · rw [nextBatch_finished hfin] at h
      cases h
    rw [Bool.not_eq_true] at hfin
    cases hl : (handle.list replies).result with
    | error stop =>
      rw [nextBatch_error hfin hl]
      exact ⟨handle, hfin, rfl, rfl, by rw [list_sent hsort]; rfl⟩
    | ok response =>
      have hlt : (handle.list replies).replies.length < replies.length := listRows_replies hl
      rw [nextBatch_ok hfin hl] at h ⊢
      split at h
      · cases h
      · rename_i hskip
        rw [if_neg hskip]
        obtain ⟨stopped, hunfinished, hsame, hhandle, hlast⟩ := ih _ (hn ▸ hlt) h hsort rfl
        refine ⟨stopped, hunfinished, hsame, hhandle, ?_⟩
        rw [List.getLast?_append, hlast]
        rfl

/-- **The request after a failed one is the same, unless that one asked for the changes.** -/
theorem retry_same_iff {message : String}
    (h : (handle.nextBatch replies).2.result = .error (.failed message)) (more : List Reply) :
    ((handle.nextBatch replies).1.nextBatch more).2.sent.head? =
      (handle.nextBatch replies).2.sent.getLast? ↔ ¬ (handle.nextBatch replies).2.AskedChanges := by
  have hfin : handle.finished = false := by
    by_contra hfin
    rw [nextBatch_finished (by simpa using hfin)] at h
    cases h
  cases hsort : rowsSortBy handle.sortBy with
  | error e =>
    have hfin' : handle.request.2.finished = false := hfin
    have hsort' : rowsSortBy handle.request.2.sortBy = .error e := hsort
    simp [nextBatch_unsorted hfin hsort, nextBatch_unsorted hfin' hsort', Exchanged.AskedChanges]
  | ok sortBy =>
    obtain ⟨stopped, hstopped, hsame, hhandle, hlast⟩ := nextBatch_failed h hsort
    have hfin' : stopped.request.2.finished = false := hstopped
    have hsort' : rowsSortBy stopped.request.2.sortBy = .ok sortBy := hsame ▸ hsort
    have hasked : ¬ (handle.nextBatch replies).2.AskedChanges ↔ stopped.checksSync = false := by
      rw [Exchanged.AskedChanges, hlast, ← input_syncToken_iff sortBy]
      simp
    rw [hhandle, nextBatch_head? hfin' hsort', hlast, hasked]
    constructor
    · intro hrepeats
      rw [← input_syncToken_iff sortBy, ← Option.some.inj hrepeats,
        input_syncToken_iff sortBy]
      exact request_checksSync stopped
    · intro hchecks
      rw [request_same hchecks]

/-! ## Runs with failures -/

/-- Calls that return or fail, one after the other. -/
inductive Calls : ScanHandle → List Reply → List (Exchanged RustExtScanBatch) → ScanHandle →
    List Reply → Prop
  | nil {handle : ScanHandle} {replies : List Reply} : Calls handle replies [] handle replies
  | call {handle final : ScanHandle} {replies rest : List Reply}
      {calls : List (Exchanged RustExtScanBatch)} :
      (handle.nextBatch replies).2.result ≠ .error .waiting →
      Calls (handle.nextBatch replies).1 (handle.nextBatch replies).2.replies calls final rest →
      Calls handle replies ((handle.nextBatch replies).2 :: calls) final rest

theorem Calls.of_call {next final : ScanHandle} {rest : List Reply}
    {call : Exchanged RustExtScanBatch} {calls : List (Exchanged RustExtScanBatch)}
    (hcall : handle.nextBatch replies = (next, call)) (hended : call.result ≠ .error .waiting)
    (h : Calls next call.replies calls final rest) :
    Calls handle replies (call :: calls) final rest := by
  have hrun : (handle.nextBatch replies).2.result ≠ .error .waiting →
      Calls (handle.nextBatch replies).1 (handle.nextBatch replies).2.replies calls final rest →
      Calls handle replies ((handle.nextBatch replies).2 :: calls) final rest := .call
  rw [hcall] at hrun
  exact hrun hended h

/-- The batches of the calls that return. -/
def returned (calls : List (Exchanged RustExtScanBatch)) : List RustExtScanBatch :=
  calls.filterMap fun call => call.result.toOption

/-- The answer in a reply. -/
def Reply.outcome (reply : Reply) : Option (Answer String) :=
  reply.rows.toOption.map RowsResponse.answer

def Reply.succeeds (reply : Reply) : Bool := reply.outcome.isSome

theorem Answered.outcomes {used : List Reply} {responses : List RowsResponse}
    (h : Answered used responses) : used.map Reply.outcome = (answers responses).map some := by
  induction h with
  | nil => rfl
  | @cons reply response _ _ hrow _ ih =>
    have houtcome : reply.outcome = some response.answer := by
      rw [Reply.outcome, hrow]
      rfl
    rw [List.map_cons, houtcome, ih]
    rfl

theorem Answered.filter_succeeds {used : List Reply} {responses : List RowsResponse}
    (h : Answered used responses) : used.filter Reply.succeeds = used := by
  rw [List.filter_eq_self]
  intro reply hreply
  have houtcome : reply.outcome ∈ used.map Reply.outcome := List.mem_map_of_mem hreply
  rw [h.outcomes] at houtcome
  obtain ⟨answer, -, hanswer⟩ := List.mem_map.1 houtcome
  rw [Reply.succeeds, ← hanswer]
  rfl

/-- The handle has read `used`: what it sent, where it is and what is left. -/
structure Attempted (opened : ScanHandle) (sortBy : Option RowsSortBy) (p : Position String)
    (replies used : List Reply) (sent : List ListRowsInput) (next : ScanHandle)
    (rest : List Reply) : Prop where
  split : replies = used ++ rest
  live : ∀ q ∈ attempts p (used.map Reply.outcome), q.isDone = false
  sent_eq : sent = (attempts p (used.map Reply.outcome)).map (positionInput opened sortBy)
  at_next : At opened ((used.map Reply.outcome).foldl after p) next

theorem Attempted.append {used used' rest rest' : List Reply} {sent sent' : List ListRowsInput}
    {next next' : ScanHandle} (h : Attempted opened sortBy p replies used sent next rest)
    (h' : Attempted opened sortBy ((used.map Reply.outcome).foldl after p) rest used' sent' next'
      rest') : Attempted opened sortBy p replies (used ++ used') (sent ++ sent') next' rest' := by
  refine ⟨by rw [h.split, h'.split, List.append_assoc], ?_, ?_, ?_⟩
  · intro q hq
    rw [List.map_append, Position.attempts_append] at hq
    rcases List.mem_append.1 hq with hq | hq
    · exact h.live q hq
    · exact h'.live q hq
  · rw [h.sent_eq, h'.sent_eq, List.map_append, Position.attempts_append, List.map_append]
  · rw [List.map_append, List.foldl_append]
    exact h'.at_next

/-- What a handle reads without showing it, and one more reply. -/
theorem Reads.attempted {used : List Reply} {responses : List RowsResponse}
    {middle next : ScanHandle} (h : Reads opened sortBy p handle used responses middle)
    (hnot : (finish p (answers responses)).isDone = false) {reply : Reply}
    (hnext : At opened ((finish p (answers responses)).after reply.outcome) next)
    (rest : List Reply) :
    Attempted opened sortBy p (used ++ reply :: rest) (used ++ [reply])
      ((trail p (answers responses)).map (positionInput opened sortBy) ++
        [positionInput opened sortBy (finish p (answers responses))]) next rest := by
  have hread : Attempted opened sortBy p (used ++ reply :: rest) used
      ((trail p (answers responses)).map (positionInput opened sortBy)) middle (reply :: rest) := by
    refine ⟨rfl, ?_, ?_, ?_⟩ <;> rw [h.rows.outcomes]
    · rw [Position.attempts_some]
      exact h.live
    · rw [Position.attempts_some]
    · rw [Position.foldl_after_some]
      exact h.at_middle
  refine hread.append ?_
  rw [h.rows.outcomes, Position.foldl_after_some]
  refine ⟨rfl, fun q hq => ?_, rfl, hnext⟩
  rwa [show q = _ from List.mem_singleton.1 hq]

/-- A handle that fails. -/
theorem nextBatch_fails (h : At opened p handle) (hp : p.isDone = false)
    (hsort : rowsSortBy opened.sortBy = .ok sortBy) {reply : Reply} {e : String}
    (hrow : reply.rows = .error e) (replies : List Reply) : handle.nextBatch (reply :: replies) =
      (handle.request.2,
        { result := .error (.failed e)
          sent := [positionInput opened sortBy p]
          replies }) := by
  rw [nextBatch_error (h.finished_iff.trans hp) (by rw [list_cons h hp hsort, hrow]; rfl),
    list_cons h hp hsort]

/-- The same call without the reply that fails. -/
def Unfailed (handle : ScanHandle) (succeeded : List Reply)
    (call : ScanHandle × Exchanged RustExtScanBatch) : Prop :=
  (∃ batch sent, call.2.result = .ok batch ∧ ∀ more, handle.nextBatch (succeeded ++ more) =
    (call.1, { result := .ok batch, sent, replies := more })) ∨
  (∃ e sent, call.2.result = .error (.failed e) ∧ handle.finished = false ∧
    call.1.finished = false ∧ ∀ more, handle.nextBatch (succeeded ++ more) =
      sentBefore sent (call.1.nextBatch more))

/-- **One call that returns, or fails at a request without a sync token.** -/
theorem nextBatch_attempted (h : At opened p handle) (hsort : rowsSortBy opened.sortBy = .ok sortBy)
    (hended : (handle.nextBatch replies).2.result ≠ .error .waiting)
    (hasked : ∀ e, (handle.nextBatch replies).2.result = .error (.failed e) →
      ¬ (handle.nextBatch replies).2.AskedChanges) :
    ∃ used, Attempted opened sortBy p replies used (handle.nextBatch replies).2.sent
        (handle.nextBatch replies).1 (handle.nextBatch replies).2.replies ∧
      Unfailed handle (used.filter Reply.succeeds) (handle.nextBatch replies) := by
  by_cases hp : p.isDone = true
  · have hfinished := h.finished_iff.trans hp
    rw [nextBatch_finished hfinished]
    exact ⟨[], ⟨rfl, fun _ hq => (List.not_mem_nil hq).elim, rfl, h⟩,
      .inl ⟨_, _, rfl, fun more => nextBatch_finished hfinished⟩⟩
  rw [Bool.not_eq_true] at hp
  obtain ⟨used, read, middle, rest, rfl, hreads, hnot, hstops⟩ := reads_exists h hp hsort replies
  have hmiddle := hreads.at_middle
  rw [hreads.goesOn, sentBefore] at hended hasked ⊢
  rcases hstops with rfl | ⟨reply, rest, rfl, ⟨e, hrow⟩ | ⟨response, hrow, hreturns⟩⟩
  · rw [nextBatch_waits hmiddle hnot hsort] at hended
    exact absurd rfl hended
  · -- The handle stays where it was when the request failed.
    have hfails := nextBatch_fails hmiddle hnot hsort hrow rest
    have hnone : reply.outcome = none := by rw [Reply.outcome, hrow]; rfl
    rw [hfails] at hasked ⊢
    have hsync : (finish p (answers read)).syncToken = none := by
      by_contra hsync
      exact hasked e rfl ⟨_, List.getLast?_concat, hsync⟩
    have hsame := hmiddle.request_same hnot hsync
    have hsucceeded : (used ++ [reply]).filter Reply.succeeds = used := by
      rw [List.filter_append, hreads.rows.filter_succeeds]
      simp [Reply.succeeds, hnone]
    refine ⟨used ++ [reply], hreads.attempted hnot ?_ rest, .inr ⟨e,
      (trail p (answers read)).map (positionInput opened sortBy), rfl, h.finished_iff.trans hp,
      ?_, ?_⟩⟩
    · rw [hnone, hsame]
      exact hmiddle
    · exact (congrArg ScanHandle.finished hsame).trans (hmiddle.finished_iff.trans hnot)
    · intro more
      rw [hsucceeded, hreads.goesOn, hsame]
  · have hcall := nextBatch_returns hmiddle hnot hsort hrow hreturns
    have houtcome : reply.outcome = some response.answer := by rw [Reply.outcome, hrow]; rfl
    have hsucceeded : (used ++ [reply]).filter Reply.succeeds = used ++ [reply] := by
      rw [List.filter_append, hreads.rows.filter_succeeds]
      simp [Reply.succeeds, houtcome]
    rw [hcall]
    refine ⟨used ++ [reply], hreads.attempted hnot ?_ rest, .inl ⟨_,
      (trail p (answers read)).map (positionInput opened sortBy) ++
        [positionInput opened sortBy (finish p (answers read))], rfl, ?_⟩⟩
    · rw [houtcome]
      exact hmiddle.receive hnot response
    · intro more
      rw [hsucceeded, List.append_assoc, hreads.goesOn, List.singleton_append, hcall, sentBefore]

variable {calls : List (Exchanged RustExtScanBatch)} {final : ScanHandle} {rest : List Reply}

/-- The calls of a handle, made without failures, have returned these batches; if the handle is
finished then, it is the one it is with failures. -/
def ReturnsUnfailed (handle : ScanHandle) (replies : List Reply) (batches : List RustExtScanBatch)
    (final : ScanHandle) (rest : List Reply) : Prop :=
  ∃ sent middle left, NextBatches handle replies batches sent middle left ∧
    middle.finished = final.finished ∧ (final.finished = true → middle = final ∧ left = rest)

theorem Unfailed.returns {succeeded later : List Reply}
    {call : ScanHandle × Exchanged RustExtScanBatch} (h : Unfailed handle succeeded call)
    (hlater : ReturnsUnfailed call.1 later (returned calls) final rest) :
    ReturnsUnfailed handle (succeeded ++ later) (returned (call.2 :: calls)) final rest := by
  obtain ⟨more, middle, left, hrun, hfinished, hsame⟩ := hlater
  rcases h with ⟨batch, sent, hresult, hcall⟩ | ⟨e, sent, hresult, hfirst, hnext, hcall⟩
  · have hreturned : returned (call.2 :: calls) = batch :: returned calls :=
      List.filterMap_cons_some (by rw [hresult]; rfl)
    rw [hreturned]
    exact ⟨_, middle, left, .of_call (hcall later) hrun, hfinished, hsame⟩
  · have hreturned : returned (call.2 :: calls) = returned calls :=
      List.filterMap_cons_none (by rw [hresult]; rfl)
    rw [hreturned]
    -- The call after the failure goes on where the failed one stopped.
    generalize returned calls = batches at hrun
    cases hrun with
    | nil =>
      refine ⟨[], handle, succeeded ++ later, .nil, hfirst.trans (hnext.symm.trans hfinished), ?_⟩
      intro hfinal
      rw [← hfinished, hnext] at hfinal
      cases hfinal
    | call hok hrun => exact ⟨_, middle, left, .of_skip (hcall later) hok hrun, hfinished, hsame⟩

/-- **Any number of calls that return, or fail at requests without a sync token.** -/
theorem Calls.attempted (hrun : Calls handle replies calls final rest) (h : At opened p handle)
    (hsort : rowsSortBy opened.sortBy = .ok sortBy)
    (hasked : ∀ call ∈ calls, ∀ e, call.result = .error (.failed e) → ¬ call.AskedChanges) :
    ∃ used, Attempted opened sortBy p replies used (calls.flatMap Exchanged.sent) final rest ∧
      ReturnsUnfailed handle (used.filter Reply.succeeds ++ rest) (returned calls) final rest := by
  induction hrun generalizing p with
  | nil =>
    exact ⟨[], ⟨rfl, fun _ hq => (List.not_mem_nil hq).elim, rfl, h⟩, [], _, _, .nil, rfl,
      fun _ => ⟨rfl, rfl⟩⟩
  | call hended _ ih =>
    obtain ⟨used, hattempted, hunfailed⟩ :=
      nextBatch_attempted h hsort hended (hasked _ (.head _))
    obtain ⟨used', hattempted', hreturns⟩ :=
      ih hattempted.at_next fun call hcall => hasked call (.tail _ hcall)
    refine ⟨used ++ used', hattempted.append hattempted', ?_⟩
    rw [List.filter_append, List.append_assoc]
    exact hunfailed.returns hreturns

/-- Without a sort order of the service every call fails and sends nothing. -/
theorem Calls.unsorted {e : String} (hrun : Calls handle replies calls final rest)
    (hf : handle.finished = false) (hchecks : handle.checksSync = false)
    (hsort : rowsSortBy handle.sortBy = .error e) :
    final = handle ∧ rest = replies ∧ returned calls = [] ∧ calls.flatMap Exchanged.sent = [] := by
  induction hrun with
  | nil => exact ⟨rfl, rfl, rfl, rfl⟩
  | call _ _ ih =>
    rw [nextBatch_unsorted hf hsort, request_same hchecks] at ih ⊢
    obtain ⟨hfinal, hrest, hreturned, hsent⟩ := ih hf hchecks hsort
    exact ⟨hfinal, hrest, hreturned, hsent⟩

/-- The call after a failed one repeats its request unless that asked for the changes. -/
def Repeats (call retry : Exchanged RustExtScanBatch) : Prop :=
  ∀ e, call.result = .error (.failed e) →
    (retry.sent.head? = call.sent.getLast? ↔ ¬ call.AskedChanges)

theorem Calls.repeats (hrun : Calls handle replies calls final rest) (more : List Reply) :
    (calls ++ [(final.nextBatch more).2]).IsChain Repeats := by
  induction hrun with
  | nil => exact .singleton _
  | @call handle final replies rest calls hended hrun ih =>
    refine List.isChain_cons.2 ⟨fun retry hretry => ?_, ih⟩
    obtain ⟨more', rfl⟩ : ∃ more',
        retry = ((handle.nextBatch replies).1.nextBatch more').2 := by
      cases hrun with
      | nil => exact ⟨more, (Option.some.inj hretry).symm⟩
      | call _ _ => exact ⟨_, (Option.some.inj hretry).symm⟩
    exact fun e he => retry_same_iff he more'

/-- **A failed request is repeated if and only if it did not ask for the changes.** Calls that fail
at other requests only return what they return without failures, and do not start again. -/
theorem retry_repeats_iff {newClient : ClientConfig → Except String Unit} {config : ClientConfig}
    {table : Table} {request : RustExtScanRequest}
    (hnew : ScanHandle.new newClient config table request = .ok handle)
    (hrun : Calls handle replies calls final rest) :
    (∀ more, (calls ++ [(final.nextBatch more).2]).IsChain Repeats) ∧
    ((∀ call ∈ calls, ∀ e, call.result = .error (.failed e) → ¬ call.AskedChanges) →
      ∃ used, replies = used ++ rest ∧
        ReturnsUnfailed handle (used.filter Reply.succeeds ++ rest) (returned calls) final rest ∧
        ∀ i input, (calls.flatMap Exchanged.sent)[i]? = some input → input.pageToken = none →
          input.syncToken = none → ∀ reply ∈ used.take i, reply.succeeds = false) := by
  refine ⟨hrun.repeats, fun hasked => ?_⟩
  have hat := at_new hnew
  cases hsort : rowsSortBy handle.sortBy with
  | error e =>
    obtain ⟨hf, hdone, hpage, hsync⟩ := hat.phase
    have hchecks : handle.checksSync = false := by simp [ScanHandle.checksSync, hsync]
    obtain ⟨rfl, rfl, hreturned, hsent⟩ := hrun.unsorted hf hchecks hsort
    rw [hreturned, hsent]
    exact ⟨[], rfl, ⟨[], _, _, .nil, rfl, fun _ => ⟨rfl, rfl⟩⟩, by simp⟩
  | ok sortBy =>
    obtain ⟨used, hattempted, hreturns⟩ := hrun.attempted hat hsort hasked
    refine ⟨used, hattempted.split, hreturns, ?_⟩
    intro i input hinput hpage hsync reply hreply
    rw [hattempted.sent_eq, List.getElem?_map] at hinput
    obtain ⟨q, hq, rfl⟩ := Option.map_eq_some_iff.1 hinput
    have hfirst : q = .first := by
      have hlive := hattempted.live q (List.mem_of_getElem? hq)
      cases q <;> simp [positionInput, Position.pageToken, Position.syncToken, Position.isDone]
        at hpage hsync hlive ⊢
    rw [hfirst] at hq
    have hnone := Position.attempts_first hq reply.outcome
      (by rw [← List.map_take]; exact List.mem_map_of_mem hreply)
    rw [Reply.succeeds, hnone]
    rfl

end

/-! ## A request for the changes that fails -/

open Json.Reference Reference

theorem new_scan : ScanHandle.new (fun _ => .ok ()) config table
    { filter := "", order := "", limit := 0 } = .ok (scanState 0).scan := rfl

theorem noConnection_rows : noConnection.rows = .error "connection closed" := rfl

/-- The first request of a scan fails. -/
theorem nextBatch_noConnection (replies : List Reply) :
    (scanState 0).scan.nextBatch (noConnection :: replies) =
      ((scanState 0).scan,
        { result := .error (.failed "connection closed")
          sent := [positionInput (scanState 0).scan none .first]
          replies }) :=
  nextBatch_fails (at_new new_scan) rfl rfl noConnection_rows replies

theorem retry_repeats_iff_noConnection : ∃ calls final,
    Calls (scanState 0).scan [noConnection, reply 200 (rowsJson [("r1", false)] "" "")] calls
      final [] ∧ calls.length = 2 ∧
    ReturnsUnfailed (scanState 0).scan [reply 200 (rowsJson [("r1", false)] "" "")]
      (returned calls) final [] := by
  have hlisted := nextBatch_returns (at_new new_scan) rfl rfl
    (rows_reply 200 [("r1", false)] "" "") (.inr rfl) []
  have hcalls := Calls.of_call (nextBatch_noConnection _) (by simp)
    (.of_call hlisted (by simp) .nil)
  refine ⟨_, _, hcalls, rfl, ?_⟩
  obtain ⟨-, hunfailed⟩ := retry_repeats_iff new_scan hcalls
  obtain ⟨used, hused, hreturns, -⟩ := hunfailed fun call hcall e he => by
    rcases List.mem_cons.1 hcall with rfl | hcall
    · rintro ⟨input, hinput, hsync⟩
      cases hinput
      exact hsync rfl
    · rw [List.mem_singleton.1 hcall] at he
      cases he
  rw [List.append_nil] at hused hreturns
  rw [← hused] at hreturns
  have hfailed : ¬ noConnection.succeeds = true := by
    rw [Reply.succeeds, Reply.outcome, noConnection_rows]
    exact Bool.false_ne_true
  have hsucceeds : (reply 200 (rowsJson [("r1", false)] "" "")).succeeds = true := by
    rw [Reply.succeeds, Reply.outcome, rows_reply]
    rfl
  rwa [List.filter_cons_of_neg hfailed, List.filter_cons_of_pos hsucceeds, List.filter_nil]
    at hreturns

/-- The page of the one row, and then no connection. -/
def changesFail : List Reply := [reply 200 (rowsJson [("r1", false)] "" "s1"), noConnection]

/-- **The request for the changes fails, and the listing starts again.** -/
theorem failed_changes_restart : ∃ listed failed final,
    Calls (scanState 0).scan changesFail [listed, failed] final [] ∧
    failed.result = .error (.failed "connection closed") ∧
    failed.sent = [positionInput (scanState 0).scan none (.sync "s1")] ∧
    (final.nextBatch []).2.sent = [positionInput (scanState 0).scan none .first] ∧
    ¬ (final.nextBatch []).2.sent.head? = failed.sent.getLast? := by
  have hat := (at_new new_scan).receive rfl (rowsResponse [("r1", false)] "" "s1")
  have hposition : Position.next .first (rowsResponse [("r1", false)] "" "s1").answer =
      .sync "s1" := by decide +kernel
  rw [hposition] at hat
  have hlisted := nextBatch_returns (at_new new_scan) rfl rfl
    (rows_reply 200 [("r1", false)] "" "s1")
    (.inl (by simp [RowsResponse.visibleRows, rowsResponse, namedRow])) [noConnection]
  have hfailed := nextBatch_fails hat rfl rfl noConnection_rows []
  have hagain : (((scanState 0).scan.request.2.receive
      (rowsResponse [("r1", false)] "" "s1")).request.2.nextBatch []).2.sent =
        [positionInput (scanState 0).scan none .first] := by
    have hsort : rowsSortBy "" = .ok none := rfl
    have hwaits : ((((scanState 0).scan.request.2.receive
      (rowsResponse [("r1", false)] "" "s1")).request.2).list []).result = .error .waiting := rfl
    rw [nextBatch_error (by decide +kernel) hwaits, list_sent hsort]
    decide +kernel
  have hother : ¬ [positionInput (scanState 0).scan none .first].head? =
      [positionInput (scanState 0).scan none (.sync "s1")].getLast? := by decide +kernel
  refine ⟨_, _, _, .of_call hlisted (by simp) (.of_call hfailed (by simp) .nil), rfl, rfl, hagain,
    ?_⟩
  rw [hagain]
  exact hother

end SuperhumanDocs
