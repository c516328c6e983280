import SuperhumanDocs.Bridge.Transaction
import SuperhumanDocs.Proof.Validation

/-!
# Writes and rollbacks

A sink marks the transaction after the client call has returned, so a call that fails after the
server accepted one of its mutations leaves the transaction unmarked.

* `chunkOutcome_succeeds_iff`: when a call that had a mutation accepted returns.
* `Database.sink_marks_iff`: when a sink leaves no accepted write unmarked.
* `rollback_honest`: over runs of sinks that do, no rollback claims to be clean.
-/

set_option autoImplicit false

namespace SuperhumanDocs

open Binary (Binary64 F64)
open Effect (Outcome Succeeds not_succeeds_error runFrom runFrom_adaptExcept runFrom_ofExcept_bind
  succeeds_mapError)
open Json (SerdeJson)

/-! ## Calls -/

section
variable {F : Type} [SerdeJson] {config : ClientConfig}

variable (config) in
/-- Every mutation among the requests is settled by the requests after it. -/
def AllSettled (t : List (Call F)) : Prop :=
  ∀ t₁ c t₂, t = t₁ ++ c :: t₂ → c.operation.isMutation = true → Settled config c.reply t₂

theorem Breaks.not_allSettled {operation : Operation F} {t₂ : List (Call F)}
    (h : Breaks config operation t₂) (hop : operation.isMutation = true) (t₁ : List (Call F)) :
    ¬ AllSettled config (t₁ ++ t₂) := by
  obtain ⟨reply, rest, rfl, -, hnot⟩ := h
  exact fun hall => hnot (hall t₁ ⟨operation, reply⟩ rest rfl hop)

end

section
variable {F σ : Type} [F64 F] [SerdeJson] (w : World F σ) (config : ClientConfig)

/-- Every row of an update has a payload. -/
def Dml.AllPayloads (table : Table) : Dml F → Prop
  | .update rowIds columns values =>
    ∀ rowIndex < rowIds.length, Succeeds (rowPayload table columns values rowIndex)
  | _ => True

/-- **A call that sent something returns when its rows have payloads and its mutations are
settled.** -/
theorem dml_succeeds_iff (table : Table) (call : Dml F) (s : σ)
    (hsent : mutations (runFrom (call.run w config table) s).events ≠ []) :
    Succeeds (runFrom (call.run w config table) s).result ↔
      call.AllPayloads table ∧ AllSettled config (runFrom (call.run w config table) s).events := by
  constructor
  · intro hok
    constructor
    · cases call with
      | insert columns values rowCount valueColumnCount => trivial
      | update rowIds columns values =>
        have hvalid := updateRows_valid w config table columns values rowIds s hok
        exact fun rowIndex hlt => Classical.not_not.1 fun h => hvalid (.inr ⟨rowIndex, hlt, h⟩)
      | delete rowIds => trivial
    · obtain ⟨ops, -, hserved⟩ := dml_interrupted w config table call s
      intro t₁ c t₂ hevents hc
      obtain ⟨rest, u, rfl, hsettled, -⟩ := (hevents ▸ hserved hok).settled hc
      exact hsettled.mono u
  · intro ⟨hpayloads, hsettled⟩
    cases call with
    | insert columns values rowCount valueColumnCount =>
      obtain ⟨n, hn, -⟩ | ⟨e, -, h⟩ := (insertRows_emits w config table columns values rowCount
        valueColumnCount).outcome s
      · exact ⟨n, hn⟩
      · obtain h | ⟨payload, -, h⟩ := h
        · exact absurd (congrArg mutations h) hsent
        · exact absurd hsettled (h.not_allSettled rfl [])
    | update rowIds columns values =>
      obtain ⟨n, hn, -⟩ | ⟨e, -, h⟩ :=
        (updateRows_emits w config table columns values rowIds).outcome s
      · exact ⟨n, hn⟩
      · obtain ⟨-, h⟩ | ⟨-, done, row, rest, t₁, t₂, hrows, -, hrow, h⟩ := h
        · exact absurd (congrArg mutations h) hsent
        · obtain ⟨⟨e, hbad⟩, -⟩ | ⟨payload, -, hbreaks⟩ := hrow
          · have hmem : row ∈ rowIds.zipIdx := by rw [hrows]; simp
            obtain ⟨payload, hpayload⟩ := hpayloads row.2 (by
              have := List.snd_lt_of_mem_zipIdx hmem
              omega)
            cases hbad.symm.trans hpayload
          · exact absurd (h ▸ hsettled) (hbreaks.not_allSettled rfl _)
    | delete rowIds =>
      obtain ⟨n, hn, -⟩ | ⟨e, -, h⟩ := (deleteRows_emits w config table rowIds).outcome s
      · exact ⟨n, hn⟩
      · obtain h | h := h
        · exact absurd (congrArg mutations h) hsent
        · exact absurd hsettled (h.not_allSettled rfl [])

end

/-! ## Sinks -/

section
variable {F σ : Type} [F64 F] [SerdeJson] [DuckDb F] (w : World F σ) (config : ClientConfig)

/-- The run of the client call for a chunk. -/
def chunkOutcome (sink : Sink) (chunk : DataChunk F) (s : σ) :
    Effect.Outcome String σ (Call F) Nat :=
  runFrom (clientCall w config sink.table (sink.call chunk)) s

/-- None of the mutations is accepted. -/
def NoneAccepted (t : List (Call F)) : Prop :=
  ∀ c ∈ t, c.operation.isMutation = true → c.reply.accepted = false

/-- Nothing goes wrong once a mutation is sent: the rows have payloads, and the server's replies
settle every mutation. -/
def CarriedThrough (sink : Sink) (chunk : DataChunk F) (s : σ) : Prop :=
  (∀ table call, sink.table.table.handle = some table → sink.call chunk = .ok call →
    call.AllPayloads table) ∧
  AllSettled config (chunkOutcome w config sink chunk s).events

/-- A client call fails and sends nothing, or it is one of the calls, under its context. -/
theorem chunkOutcome_cases (sink : Sink) (chunk : DataChunk F) (s : σ) :
    (chunkOutcome w config sink chunk s).events = [] ∧
        ¬ Succeeds (chunkOutcome w config sink chunk s).result ∨
      ∃ table call, sink.table.table.handle = some table ∧ sink.call chunk = .ok call ∧
        chunkOutcome w config sink chunk s =
          (runFrom (call.run w config table) s).mapError fun e => s!"{call.context}: {e}" := by
  unfold chunkOutcome clientCall
  rw [runFrom_ofExcept_bind]
  cases hcall : sink.call chunk with
  | error e => exact .inl ⟨rfl, not_succeeds_error⟩
  | ok call =>
    simp only [runFrom_adaptExcept, runFrom_ofExcept_bind]
    cases htable : sink.table.table.handle with
    | none => exact .inl ⟨rfl, not_succeeds_error⟩
    | some table =>
      simp only [refFromRaw]
      cases w.runtime with
      | error e => exact .inl ⟨rfl, not_succeeds_error⟩
      | ok u => exact .inr ⟨table, call, rfl, rfl, rfl⟩

/-- **When the client call of a chunk returns**, for a call that had a mutation accepted. -/
theorem chunkOutcome_succeeds_iff (sink : Sink) (chunk : DataChunk F) (s : σ)
    (haccepted : ¬ NoneAccepted (chunkOutcome w config sink chunk s).events) :
    Succeeds (chunkOutcome w config sink chunk s).result ↔
      CarriedThrough w config sink chunk s := by
  have hsent : mutations (chunkOutcome w config sink chunk s).events ≠ [] := by
    intro hnone
    refine haccepted fun c hc hop => absurd hop ?_
    exact List.filter_eq_nil_iff.1 hnone _ (List.mem_map_of_mem hc)
  obtain ⟨hnone, -⟩ | ⟨table, call, htable, hcall, hrun⟩ := chunkOutcome_cases w config sink chunk s
  · exact absurd (congrArg mutations hnone) hsent
  · rw [hrun, Outcome.mapError_events] at hsent
    rw [CarriedThrough, hrun, Outcome.mapError_events, Outcome.mapError_result, succeeds_mapError,
      dml_succeeds_iff w config table call s hsent]
    refine and_congr_left' ⟨fun h table' call' htable' hcall' => ?_, fun h => h _ _ htable hcall⟩
    cases htable.symm.trans htable'
    cases hcall.symm.trans hcall'
    exact h

/-- The checks before the client call. -/
def SinkReaches (context : ClientContext) (sink : Sink) (chunk : DataChunk F) : Prop :=
  chunk.rows ≠ [] ∧ Succeeds (rejectExplicitTransaction context) ∧
    sink.table.supports sink.capability = true

/-- The sink leaves no accepted write unmarked. -/
def SinkMarks (db : Database F σ) (transaction : RustBridgeTransaction) (context : ClientContext)
    (sink : Sink) (chunk : DataChunk F) : Prop :=
  SinkReaches context sink chunk → transaction.hasWrites = true ∨
    NoneAccepted (chunkOutcome w config sink chunk db.world).events ∨
    CarriedThrough w config sink chunk db.world

/-- **What a sink does**: nothing, or the client call and then, if it returned, the mark. -/
theorem Database.sink_cases (db : Database F σ) (id : Nat) (context : ClientContext) (sink : Sink)
    (chunk : DataChunk F) :
    (¬ SinkReaches context sink chunk ∧ (db.sink w config id context sink chunk).2 = db) ∨
    ∃ db', (db.sink w config id context sink chunk).2 = db' ∧
      SinkReaches context sink chunk ∧
      db'.log = db.log ++ (chunkOutcome w config sink chunk db.world).events.map (⟨id, ·⟩) ∧
      (Succeeds (chunkOutcome w config sink chunk db.world).result ∧
          db'.manager = db.manager.markWrite id ∨
        ¬ Succeeds (chunkOutcome w config sink chunk db.world).result ∧
          db'.manager = db.manager) := by
  unfold Database.sink
  by_cases hrows : chunk.rows.isEmpty = true
  · rw [if_pos hrows]
    exact .inl ⟨fun h => h.1 (List.isEmpty_iff.1 hrows), rfl⟩
  rw [if_neg hrows]
  cases hreject : rejectExplicitTransaction context with
  | error e => exact .inl ⟨fun h => not_succeeds_error (hreject ▸ h.2.1), rfl⟩
  | ok u =>
    cases hsupports : sink.table.supports sink.capability with
    | false => exact .inl ⟨fun h => Bool.false_ne_true (hsupports.symm.trans h.2.2), rfl⟩
    | true =>
      have hreaches : SinkReaches context sink chunk :=
        ⟨fun h => hrows (List.isEmpty_iff.2 h), ⟨u, hreject⟩, hsupports⟩
      refine .inr ⟨_, rfl, hreaches, ?_⟩
      show _ ∧ _
      unfold chunkOutcome
      cases hresult : (runFrom (clientCall w config sink.table (sink.call chunk))
        db.world).result with
      | error e => simp [not_succeeds_error, hresult]
      | ok count => simp [hresult, Succeeds]

/-- **When a sink leaves no accepted write unmarked**: exactly under `SinkMarks`. -/
theorem Database.sink_marks_iff {db : Database F σ} {id : Nat}
    {transaction : RustBridgeTransaction}
    (hopen : db.manager.transactions.lookup id = some transaction) (context : ClientContext)
    (sink : Sink) (chunk : DataChunk F) :
    ((SinkReaches context sink chunk →
        NoneAccepted (chunkOutcome w config sink chunk db.world).events) ∨
      ∃ transaction', (db.sink w config id context sink chunk).2.manager.transactions.lookup id =
        some transaction' ∧ transaction'.hasWrites = true) ↔
    SinkMarks w config db transaction context sink chunk := by
  obtain ⟨hnot, -⟩ | ⟨db', hdb, hreaches, -, hmanager⟩ :=
    db.sink_cases w config id context sink chunk
  · exact iff_of_true (.inl fun h => absurd h hnot) fun h => absurd h hnot
  rw [hdb, SinkMarks, imp_iff_right hreaches, imp_iff_right hreaches]
  by_cases hnone : NoneAccepted (chunkOutcome w config sink chunk db.world).events
  · exact iff_of_true (.inl hnone) (.inr (.inl hnone))
  rw [← chunkOutcome_succeeds_iff w config sink chunk db.world hnone]
  obtain ⟨hok, hmanager⟩ | ⟨hfailed, hmanager⟩ := hmanager
  · refine iff_of_true (.inr ⟨transaction.markWrite, ?_, rfl⟩) (.inr (.inr hok))
    rw [hmanager, TransactionManager.lookup_markWrite hopen, if_pos rfl]
  · rw [hmanager, hopen]
    simp [hnone, hfailed]

end

/-! ## Runs -/

section
variable {F σ : Type}

/-- The server accepted a mutation of the transaction. -/
def AcceptedIn (db : Database F σ) (id : Nat) : Prop :=
  ∃ sent ∈ db.log, sent.transaction = id ∧ sent.call.operation.isMutation = true ∧
    sent.call.reply.accepted = true

/-- What is accepted after more requests of a transaction was accepted before, unless it is one of
these. -/
theorem AcceptedIn.before {db db' : Database F σ} {id id' : Nat} {events : List (Call F)}
    (h : AcceptedIn db' id') (hlog : db'.log = db.log ++ events.map (⟨id, ·⟩))
    (hother : id' ≠ id ∨ NoneAccepted events) : AcceptedIn db id' := by
  obtain ⟨sent, hsent, rfl, hop, haccepted⟩ := h
  rw [hlog] at hsent
  obtain hsent | hsent := List.mem_append.1 hsent
  · exact ⟨sent, hsent, rfl, hop, haccepted⟩
  · obtain ⟨c, hc, rfl⟩ := List.mem_map.1 hsent
    obtain hne | hnone := hother
    · exact absurd rfl hne
    · exact absurd (haccepted.symm.trans (hnone c hc hop)) (by decide)

/-- An open transaction with an accepted write is marked; nothing was sent in a transaction that
is not started yet. -/
structure Honest (db : Database F σ) : Prop where
  marked : ∀ id transaction, db.manager.transactions.lookup id = some transaction →
    AcceptedIn db id → transaction.hasWrites = true
  started : ∀ sent ∈ db.log, sent.transaction < db.manager.started

theorem Honest.init (s : σ) :
    Honest ({ manager := .empty, world := s, log := [] } : Database F σ) where
  marked id transaction h := by simp [TransactionManager.empty] at h
  started sent h := absurd h List.not_mem_nil

/-- A transaction that is started has no write yet. -/
theorem Honest.start {db : Database F σ} (h : Honest db) {context : ClientContext}
    {manager : TransactionManager} (hstart : db.manager.startTransaction context = .ok manager) :
    Honest { db with manager } := by
  unfold TransactionManager.startTransaction at hstart
  split at hstart
  · cases hstart
  · cases hstart
    constructor
    · intro id transaction hlookup haccepted
      by_cases hid : id = db.manager.started
      · subst hid
        obtain ⟨sent, hsent, hid, -⟩ := haccepted
        exact absurd (h.started sent hsent) (by simp [hid])
      · rw [AList.lookup_insert_ne hid] at hlookup
        exact h.marked id transaction hlookup haccepted
    · exact fun sent hsent => (h.started sent hsent).trans (Nat.lt_succ_self _)

theorem Honest.erase {db : Database F σ} (h : Honest db) (id : Nat) :
    Honest { db with manager := db.manager.erase id } where
  marked id' transaction hlookup haccepted := by
    have hne : id' ≠ id := by
      rintro rfl
      simp [TransactionManager.erase] at hlookup
    exact h.marked id' transaction (by rwa [← AList.lookup_erase_ne hne]) haccepted
  started := h.started

end

section
variable {F σ : Type} [F64 F] [SerdeJson] [DuckDb F] (w : World F σ) (config : ClientConfig)

/-- The action leaves no accepted write unmarked. -/
def Action.Marks (db : Database F σ) : Action F → Prop
  | .sink id context operator chunk => ∀ transaction,
    db.manager.transactions.lookup id = some transaction →
      SinkMarks w config db transaction context operator chunk
  | _ => True

/-- The states of the runs whose actions leave no accepted write unmarked. -/
inductive Reachable (s : σ) : Database F σ → Prop
  | init : Reachable s { manager := .empty, world := s, log := [] }
  | step {db db' : Database F σ} {action : Action F} {result : Except String Unit} :
      Reachable s db → action.Marks w config db → db.step w config action = some (result, db') →
      Reachable s db'

variable {w config}

theorem Honest.sink {db : Database F σ} (h : Honest db) {id : Nat}
    {transaction : RustBridgeTransaction}
    (hopen : db.manager.transactions.lookup id = some transaction) (context : ClientContext)
    (sink : Sink) (chunk : DataChunk F)
    (hmarks : SinkMarks w config db transaction context sink chunk) :
    Honest (db.sink w config id context sink chunk).2 := by
  have hmem : id ∈ db.manager.transactions := AList.lookup_isSome.1 (by rw [hopen]; rfl)
  obtain ⟨-, hdb⟩ | ⟨db', hdb, hreaches, hlog, hmanager⟩ :=
    db.sink_cases w config id context sink chunk
  · rw [hdb]
    exact h
  rw [hdb]
  have hstarted : ∀ manager : TransactionManager, manager.started = db.manager.started →
      ∀ sent ∈ db'.log, sent.transaction < manager.started := by
    intro manager hmanager sent hsent
    rw [hmanager]
    rw [hlog] at hsent
    obtain hsent | hsent := List.mem_append.1 hsent
    · exact h.started sent hsent
    · obtain ⟨c, -, rfl⟩ := List.mem_map.1 hsent
      exact db.manager.fresh id hmem
  obtain ⟨-, hmanager⟩ | ⟨hfailed, hmanager⟩ := hmanager
  · refine ⟨?_, hstarted _ (by rw [hmanager, TransactionManager.markWrite_started])⟩
    intro id' transaction' hlookup haccepted
    rw [hmanager, TransactionManager.lookup_markWrite hopen] at hlookup
    split at hlookup
    · cases hlookup
      rfl
    · rename_i hid
      exact h.marked id' transaction' hlookup (haccepted.before hlog (.inl hid))
  · refine ⟨?_, hstarted _ (by rw [hmanager])⟩
    intro id' transaction' hlookup haccepted
    rw [hmanager] at hlookup
    by_cases hid : id' = id
    · subst hid
      cases hopen.symm.trans hlookup
      by_cases hnone : NoneAccepted (chunkOutcome w config sink chunk db.world).events
      · exact h.marked _ _ hlookup (haccepted.before hlog (.inr hnone))
      · obtain hwrites | hnone' | hcarried := hmarks hreaches
        · exact hwrites
        · exact absurd hnone' hnone
        · exact absurd ((chunkOutcome_succeeds_iff w config sink chunk db.world hnone).2 hcarried)
            hfailed
    · exact h.marked id' transaction' hlookup (haccepted.before hlog (.inl hid))

/-- **Every state of such a run is honest.** -/
theorem Reachable.honest {s : σ} {db : Database F σ} (h : Reachable w config s db) :
    Honest db := by
  induction h with
  | init => exact Honest.init s
  | @step db db' action result _ hmarks hstep ih =>
    cases action with
    | start context =>
      unfold Database.step at hstep
      dsimp only at hstep
      split at hstep
      · cases hstep
        exact ih
      · rename_i manager hstart
        cases hstep
        exact ih.start hstart
    | sink id context operator chunk =>
      obtain ⟨transaction, hopen, heq⟩ := Option.bind_eq_some_iff.1 hstep
      cases heq
      exact ih.sink hopen context operator chunk (hmarks transaction hopen)
    | commit id =>
      obtain ⟨transaction, hopen, heq⟩ := Option.bind_eq_some_iff.1 hstep
      cases heq
      exact ih.erase id
    | rollback id =>
      obtain ⟨transaction, hopen, heq⟩ := Option.bind_eq_some_iff.1 hstep
      cases heq
      rw [TransactionManager.rollbackTransaction_manager]
      exact ih.erase id

/-- **No rollback claims to be clean after an accepted write**, in runs whose sinks mark their
writes; and a transaction that was committed or rolled back is gone, alone. -/
theorem rollback_honest (w : World F σ) (config : ClientConfig) :
    (∀ s db, Reachable w config s db → ∀ id transaction,
      db.manager.transactions.lookup id = some transaction → AcceptedIn db id →
      transaction.hasWrites = true ∧
        (db.manager.rollbackTransaction id transaction).1 =
          .error transactionRollbackNotSupported) ∧
    (∀ (db db' : Database F σ) action result, db.step w config action = some (result, db') →
      ∀ id, action = .commit id ∨ action = .rollback id →
        id ∉ db'.manager.transactions ∧ ∀ id', id' ≠ id →
          db'.manager.transactions.lookup id' = db.manager.transactions.lookup id') := by
  constructor
  · intro s db hreach id transaction hopen haccepted
    have hwrites := hreach.honest.marked id transaction hopen haccepted
    exact ⟨hwrites, TransactionManager.rollbackTransaction_marked hwrites⟩
  · have hgone : ∀ (db : Database F σ) id, id ∉ (db.manager.erase id).transactions ∧
        ∀ id', id' ≠ id → (db.manager.erase id).transactions.lookup id' =
          db.manager.transactions.lookup id' := by
      intro db id
      exact ⟨fun h => (AList.mem_erase.1 h).1 rfl, fun id' hne => AList.lookup_erase_ne hne⟩
    rintro db db' action result hstep id (rfl | rfl)
    · obtain ⟨transaction, hopen, heq⟩ := Option.bind_eq_some_iff.1 hstep
      cases heq
      exact hgone db id
    · obtain ⟨transaction, hopen, heq⟩ := Option.bind_eq_some_iff.1 hstep
      cases heq
      rw [TransactionManager.rollbackTransaction_manager]
      exact hgone db id

end

/-! ## An accepted delete whose status is never seen -/

open Json.Reference Reference

def deleteContext : ClientContext where
  isAutoCommit := true
  currentQuery := "DELETE FROM docs.tasks"

def deleteSink : Sink := .delete (bindData 0).table 0

/-- One row id. -/
def deleteChunk : DataChunk Binary64 where
  columnCount := 1
  rows := [[.text "r1" ""]]
  rows_length := by simp

/-- The database before anything happened, and the replies the server will give. -/
def initialDatabase (replies : List Reply) : Database Binary64 (List Reply × Nat) where
  manager := .empty
  world := (replies, 0)
  log := []

/-- The database once a transaction is started. -/
def startedDatabase (replies : List Reply) : Database Binary64 (List Reply × Nat) where
  manager :=
    { transactions := AList.insert 0 .new ∅
      started := 1
      fresh := fun id h => by
        obtain rfl | h := (AList.mem_insert _).1 h
        · exact Nat.zero_lt_one
        · exact absurd h (AList.notMem_empty id) }
  world := (replies, 0)
  log := []

theorem step_start (replies : List Reply) :
    Database.step scripted config (initialDatabase replies) (.start deleteContext) =
      some (.ok (), startedDatabase replies) := rfl

/-- The sink makes the client call for the row. -/
theorem deleteChunk_outcome (s : List Reply × Nat) :
    chunkOutcome scripted config deleteSink deleteChunk s =
      (runFrom (deleteRows scripted config table ["r1"]) s).mapError
        fun e => s!"failed to delete Superhuman Docs rows: {e}" := by
  have hcall : deleteSink.call deleteChunk = .ok (.delete ["r1"]) := rfl
  have htable : deleteSink.table.table.handle = some table := rfl
  rw [chunkOutcome, clientCall, hcall, runFrom_ofExcept_bind]
  simp only [runFrom_adaptExcept, htable]
  rfl

theorem deleteContext_accepted : rejectExplicitTransaction deleteContext = .ok () := by
  decide +kernel

/-- The database after the status of the delete was lost. -/
def lostDatabase : Database Binary64 (List Reply × Nat) :=
  { startedDatabase [mutationReply "m1"] with
    world := ([], 0)
    log := [⟨0, deleteRowsOperation config table ["r1"], mutationReply "m1"⟩,
      ⟨0, .mutationStatus "m1", noConnection⟩] }

/-- The transaction of a delete that was completed is marked. -/
theorem rollback_honest_delete :
    ∃ db transaction, Reachable scripted config ([mutationReply "m1", statusReply true], 0) db ∧
      db.manager.transactions.lookup 0 = some transaction ∧
      (db.manager.rollbackTransaction 0 transaction).1 =
        .error transactionRollbackNotSupported := by
  have houtcome := deleteChunk_outcome ([mutationReply "m1", statusReply true], 0)
  rw [delete_scripted table "r1" (show "m1" ≠ "" by decide) [] 0] at houtcome
  have hopen : (startedDatabase [mutationReply "m1", statusReply true]).manager.transactions.lookup
      0 = some RustBridgeTransaction.new := rfl
  have hreaches : SinkReaches deleteContext deleteSink deleteChunk :=
    ⟨by simp [deleteChunk], ⟨(), deleteContext_accepted⟩, by decide⟩
  have haccepted : ¬ NoneAccepted (chunkOutcome scripted config deleteSink deleteChunk
      ([mutationReply "m1", statusReply true], 0)).events := by
    rw [houtcome]
    exact fun h => absurd (h _ (.head _) rfl) (by decide)
  have hok : Succeeds (chunkOutcome scripted config deleteSink deleteChunk
      ([mutationReply "m1", statusReply true], 0)).result := by
    rw [houtcome]
    exact ⟨1, rfl⟩
  have hcarried := (chunkOutcome_succeeds_iff scripted config deleteSink deleteChunk _
    haccepted).1 hok
  obtain ⟨hnot, -⟩ | ⟨db, hdb, -, hlog, ⟨-, hmanager⟩ | ⟨hfailed, -⟩⟩ :=
    (startedDatabase [mutationReply "m1", statusReply true]).sink_cases scripted config 0
      deleteContext deleteSink deleteChunk
  · exact absurd hreaches hnot
  · have hstart : Action.Marks scripted config
        (initialDatabase [mutationReply "m1", statusReply true]) (.start deleteContext) := trivial
    have hsink : Action.Marks scripted config
        (startedDatabase [mutationReply "m1", statusReply true])
        (.sink 0 deleteContext deleteSink deleteChunk) := fun _ _ _ => .inr (.inr hcarried)
    have hreach : Reachable scripted config ([mutationReply "m1", statusReply true], 0) db :=
      .step (.step .init hstart (step_start _)) hsink
        (hdb ▸ Database.step_sink scripted config hopen _ _ _)
    have hlookup : db.manager.transactions.lookup 0 = some { hasWrites := true } := by
      rw [hmanager, TransactionManager.lookup_markWrite hopen, if_pos rfl]
      rfl
    refine ⟨db, _, hreach, hlookup, ((rollback_honest scripted config).1 _ db hreach 0 _ hlookup
      ?_).2⟩
    refine ⟨⟨0, deleteRowsOperation config table ["r1"], mutationReply "m1"⟩, ?_, rfl, rfl, rfl⟩
    rw [hlog]
    refine List.mem_append_right _ (List.mem_map.2 ⟨_, ?_, rfl⟩)
    show _ ∈ (chunkOutcome scripted config deleteSink deleteChunk
      ([mutationReply "m1", statusReply true], 0)).events
    rw [houtcome]
    exact .head _
  · exact absurd hok hfailed

/-- **An accepted write is rolled back without an error.** -/
theorem rollback_unmarked :
    Database.step scripted config (initialDatabase [mutationReply "m1"]) (.start deleteContext) =
      some (.ok (), startedDatabase [mutationReply "m1"]) ∧
    Database.step scripted config (startedDatabase [mutationReply "m1"])
      (.sink 0 deleteContext deleteSink deleteChunk) =
        some (.error ("failed to delete Superhuman Docs rows: " ++ lostMessage "m1"), lostDatabase) ∧
    lostDatabase.manager.transactions.lookup 0 = some { hasWrites := false } ∧
    AcceptedIn lostDatabase 0 ∧
    (lostDatabase.manager.rollbackTransaction 0 { hasWrites := false }).1 = .ok () := by
  have hsink : (startedDatabase [mutationReply "m1"]).sink scripted config 0 deleteContext
      deleteSink deleteChunk =
        (.error ("failed to delete Superhuman Docs rows: " ++ lostMessage "m1"), lostDatabase) := by
    have h := deleteChunk_outcome ([mutationReply "m1"], 0)
    rw [delete_lost "r1" (show "m1" ≠ "" by decide) 0, chunkOutcome] at h
    rw [Database.sink, if_neg (by decide), deleteContext_accepted]
    show (if _ then _ else _) = _
    rw [if_neg (by decide), show (startedDatabase [mutationReply "m1"]).world =
      ([mutationReply "m1"], 0) from rfl]
    simp only [h]
    rfl
  refine ⟨step_start _, ?_, rfl, ⟨_, .head _, rfl, rfl, rfl⟩, rfl⟩
  rw [Database.step_sink scripted config
    (show _ = some RustBridgeTransaction.new from rfl), hsink]
  rfl

end SuperhumanDocs
