import Mathlib.Data.List.AList
import SuperhumanDocs.Bridge.Dml

/-!
# Transactions

A transaction knows only whether something was written in it. `Database` is the transaction
manager together with the world outside and a record of every request and the transaction it was
sent in; `Database.step` is what DuckDB can do with it: start a transaction, push a chunk into a
sink, commit, roll back.
-/

set_option autoImplicit false

namespace SuperhumanDocs

open Binary (F64)
open Effect (Traced runFrom)
open Json (SerdeJson)

/-! ## Explicit transactions -/

def rustExtSupportsExplicitTransactions : Bool := false
def rustExtSupportsTransactionRollback : Bool := false

def explicitTransactionNotSupported : String :=
  "Superhuman Docs does not support explicit DuckDB transactions; use autocommit statements"

def transactionRollbackNotSupported : String :=
  "Superhuman Docs writes cannot be rolled back after they are sent; use autocommit statements"

structure ClientContext where
  isAutoCommit : Bool
  currentQuery : String

/-- The text contains the word, up to ASCII case. -/
def mentions (query word : String) : Bool := decide (word.toList <:+: query.toLower.toList)

def rejectExplicitTransaction (context : ClientContext) : Except String Unit :=
  if rustExtSupportsExplicitTransactions then .ok ()
  else if !context.isAutoCommit || mentions context.currentQuery "begin" ||
      mentions context.currentQuery "rollback" || mentions context.currentQuery "commit" then
    .error explicitTransactionNotSupported
  else .ok ()

/-! ## Planning -/

def Sink.returningNotSupportedMessage : Sink → String
  | insert _ => "RETURNING is not supported for Superhuman Docs INSERT"
  | update _ _ => "RETURNING is not supported for Superhuman Docs UPDATE"
  | delete _ _ => "RETURNING is not supported for Superhuman Docs DELETE"

/-- The checks of a plan that writes; `returnChunk` tells whether the statement has a RETURNING. -/
def planSink (context : ClientContext) (returnChunk : Bool) (sink : Sink) : Except String Sink := do
  rejectExplicitTransaction context
  if returnChunk then throw sink.returningNotSupportedMessage
  if !sink.table.supports sink.capability then throw sink.notSupportedMessage
  return sink

def planInsert (context : ClientContext) (returnChunk : Bool) (table : RustBridgeTableInfo) :
    Except String Sink :=
  planSink context returnChunk (.insert table)

def planUpdate (context : ClientContext) (returnChunk : Bool) (table : RustBridgeTableInfo)
    (assignments : List Assignment) : Except String Sink :=
  planSink context returnChunk (.update table assignments)

def planDelete (context : ClientContext) (returnChunk : Bool) (table : RustBridgeTableInfo)
    (rowIdIndex : Nat) : Except String Sink :=
  planSink context returnChunk (.delete table rowIdIndex)

/-- The plan of a statement that writes with the sink. -/
def Sink.plan (context : ClientContext) (returnChunk : Bool) : Sink → Except String Sink
  | insert table => planInsert context returnChunk table
  | update table assignments => planUpdate context returnChunk table assignments
  | delete table rowIdIndex => planDelete context returnChunk table rowIdIndex

theorem Sink.plan_eq (context : ClientContext) (returnChunk : Bool) (sink : Sink) :
    sink.plan context returnChunk = planSink context returnChunk sink := by
  cases sink <;> rfl

/-- A planned sink passed the checks. -/
theorem Sink.plan_eq_ok {context : ClientContext} {returnChunk : Bool} {sink planned : Sink}
    (h : sink.plan context returnChunk = .ok planned) :
    Effect.Succeeds (rejectExplicitTransaction context) ∧
      sink.table.supports sink.capability = true := by
  rw [plan_eq, planSink] at h
  obtain ⟨u, haccepted, h⟩ := Effect.bind_eq_ok.1 h
  refine ⟨⟨u, haccepted⟩, ?_⟩
  cases hsupports : sink.table.supports sink.capability with
  | true => rfl
  | false =>
    cases returnChunk <;>
      simp [hsupports, bind, Except.bind, throw, throwThe, MonadExceptOf.throw] at h

/-! ## The transaction manager -/

structure RustBridgeTransaction where
  hasWrites : Bool
deriving DecidableEq, Repr

def RustBridgeTransaction.new : RustBridgeTransaction where
  hasWrites := false

def RustBridgeTransaction.rollback (transaction : RustBridgeTransaction) : Except String Unit :=
  if transaction.hasWrites && !rustExtSupportsTransactionRollback then
    .error transactionRollbackNotSupported
  else .ok ()

def RustBridgeTransaction.markWrite (transaction : RustBridgeTransaction) :
    RustBridgeTransaction :=
  { transaction with hasWrites := true }

/-- The transactions that are open; a transaction is known by the number it was started with. -/
structure TransactionManager where
  transactions : AList fun _ : Nat => RustBridgeTransaction
  started : Nat
  fresh : ∀ id ∈ transactions, id < started

namespace TransactionManager

def empty : TransactionManager where
  transactions := ∅
  started := 0
  fresh id h := absurd h (AList.notMem_empty id)

def startTransaction (manager : TransactionManager) (context : ClientContext) :
    Except String TransactionManager :=
  if !rustExtSupportsExplicitTransactions && !context.isAutoCommit then
    .error explicitTransactionNotSupported
  else
    .ok {
      transactions := manager.transactions.insert manager.started .new
      started := manager.started + 1
      fresh := fun id h => by
        obtain rfl | h := (AList.mem_insert _).1 h
        · exact Nat.lt_succ_self _
        · exact (manager.fresh id h).trans (Nat.lt_succ_self _) }

def erase (manager : TransactionManager) (id : Nat) : TransactionManager where
  transactions := manager.transactions.erase id
  started := manager.started
  fresh id' h := manager.fresh id' (AList.mem_erase.1 h).2

def commitTransaction (manager : TransactionManager) (id : Nat) : TransactionManager :=
  manager.erase id

/-- Roll back; the transaction is gone afterwards also when this throws. -/
def rollbackTransaction (manager : TransactionManager) (id : Nat)
    (transaction : RustBridgeTransaction) : Except String Unit × TransactionManager :=
  match transaction.rollback with
  | .error e => (.error e, manager.erase id)
  | .ok _ => (.ok (), manager.erase id)

@[simp] theorem rollbackTransaction_manager (manager : TransactionManager) (id : Nat)
    (transaction : RustBridgeTransaction) :
    (manager.rollbackTransaction id transaction).2 = manager.erase id := by
  unfold rollbackTransaction
  split <;> rfl

/-- A marked transaction cannot be rolled back. -/
theorem rollbackTransaction_marked {manager : TransactionManager} {id : Nat}
    {transaction : RustBridgeTransaction} (h : transaction.hasWrites = true) :
    (manager.rollbackTransaction id transaction).1 = .error transactionRollbackNotSupported := by
  simp [rollbackTransaction, RustBridgeTransaction.rollback, h, rustExtSupportsTransactionRollback]

/-- Mark the write in a transaction that is open. -/
def markWrite (manager : TransactionManager) (id : Nat) : TransactionManager :=
  match h : manager.transactions.lookup id with
  | none => manager
  | some transaction =>
    { transactions := manager.transactions.insert id transaction.markWrite
      started := manager.started
      fresh := fun id' h' => by
        obtain rfl | h' := (AList.mem_insert _).1 h'
        · exact manager.fresh id' (AList.lookup_isSome.1 (by rw [h]; rfl))
        · exact manager.fresh id' h' }

theorem markWrite_started (manager : TransactionManager) (id : Nat) :
    (manager.markWrite id).started = manager.started := by
  unfold markWrite
  split <;> rfl

theorem lookup_markWrite {manager : TransactionManager} {id : Nat}
    {transaction : RustBridgeTransaction}
    (h : manager.transactions.lookup id = some transaction) (id' : Nat) :
    (manager.markWrite id).transactions.lookup id' =
      if id' = id then some transaction.markWrite else manager.transactions.lookup id' := by
  unfold markWrite
  split
  · rename_i hnone
    cases hnone.symm.trans h
  · rename_i transaction' hsome
    cases hsome.symm.trans h
    split
    · rename_i hid
      subst hid
      exact AList.lookup_insert _
    · rename_i hid
      exact AList.lookup_insert_ne hid

end TransactionManager

/-! ## The database -/

/-- A request, with the transaction it was sent in. -/
structure SentCall (F : Type) where
  transaction : Nat
  call : Call F

structure Database (F σ : Type) where
  manager : TransactionManager
  world : σ
  log : List (SentCall F)

/-- What DuckDB does. -/
inductive Action (F : Type) where
  | start (context : ClientContext)
  | sink (id : Nat) (context : ClientContext) (sink : Sink) (chunk : DataChunk F)
  | commit (id : Nat)
  | rollback (id : Nat)

section
variable {F σ : Type} [F64 F] [SerdeJson] [DuckDb F] (w : World F σ) (config : ClientConfig)

namespace Database

/-- A chunk is pushed into a sink; the write is marked when the client call has returned. -/
def sink (db : Database F σ) (id : Nat) (context : ClientContext) (sink : Sink)
    (chunk : DataChunk F) : Except String Nat × Database F σ :=
  if chunk.rows.isEmpty then (.ok 0, db)
  else
    match rejectExplicitTransaction context with
    | .error e => (.error e, db)
    | .ok _ =>
      if !sink.table.supports sink.capability then (.error sink.notSupportedMessage, db)
      else
        let outcome := runFrom (clientCall w config sink.table (sink.call chunk)) db.world
        let db : Database F σ :=
          { db with world := outcome.state, log := db.log ++ outcome.events.map (⟨id, ·⟩) }
        match outcome.result with
        | .error e => (.error e, db)
        | .ok count => (.ok count, { db with manager := db.manager.markWrite id })

/-- The next state; `none` when the action is about a transaction that is not open. -/
def step (db : Database F σ) : Action F → Option (Except String Unit × Database F σ)
  | .start context =>
    match db.manager.startTransaction context with
    | .error e => some (.error e, db)
    | .ok manager => some (.ok (), { db with manager })
  | .sink id context sink chunk => do
    let _ ← db.manager.transactions.lookup id
    let next := db.sink w config id context sink chunk
    return (next.1.map fun _ => (), next.2)
  | .commit id => do
    let _ ← db.manager.transactions.lookup id
    return (.ok (), { db with manager := db.manager.commitTransaction id })
  | .rollback id => do
    let transaction ← db.manager.transactions.lookup id
    let next := db.manager.rollbackTransaction id transaction
    return (next.1, { db with manager := next.2 })

theorem step_sink {db : Database F σ} {id : Nat} {transaction : RustBridgeTransaction}
    (h : db.manager.transactions.lookup id = some transaction) (context : ClientContext)
    (operator : Sink) (chunk : DataChunk F) :
    db.step w config (.sink id context operator chunk) =
      some ((db.sink w config id context operator chunk).1.map fun _ => (),
        (db.sink w config id context operator chunk).2) := by
  simp [step, h]

end Database

end

end SuperhumanDocs
