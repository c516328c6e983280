import SuperhumanDocs.Bridge.Transaction
import SuperhumanDocs.Streaming.Pipe

/-!
# Statements that write what they scan

DuckDB runs `INSERT INTO ... SELECT`, `UPDATE` and `DELETE` as a pipeline. The scan is called for
one chunk after the other; the rows that pass the filter are projected to the columns the sink
expects and handed to it, cut into chunks as DuckDB likes, none of them empty; when the scan returns
an empty chunk and no row waits, the sink reports how many rows it wrote. The scan, the operators
between and the sink share nothing but these rows.
-/

set_option autoImplicit false

namespace SuperhumanDocs

open Binary (F64)
open Json (SerdeJson)
open Relation (ReflTransGen)
open Streaming (Pipe)

/-! ## The global state of a sink -/

structure RustBridgeDMLGlobalState where
  affectedCount : Nat

namespace RustBridgeDMLGlobalState

def new : RustBridgeDMLGlobalState where
  affectedCount := 0

/-- Count rows in a machine word. -/
def addAffected (state : RustBridgeDMLGlobalState) (count : Nat) : RustBridgeDMLGlobalState where
  affectedCount := (state.affectedCount + count) % 2 ^ 64

/-- The one row a statement returns. -/
def getDataInternal {F : Type} (state : RustBridgeDMLGlobalState) :
    Except String (List (DuckValue F)) :=
  if state.affectedCount < 2 ^ 63 then .ok [.int state.affectedCount]
  else
    let count := state.affectedCount
    .error (s!"Information loss on integer cast: value {count} outside of target range " ++
      "[-9223372036854775808, 9223372036854775807]")

end RustBridgeDMLGlobalState

/-! ## The pipeline -/

/-- What DuckDB planned: the sink, and the filter and the projection in front of it. -/
structure Statement (F : Type) where
  transaction : Nat
  context : ClientContext
  sink : Sink
  planned : sink.plan context false = .ok sink
  keeps : List (DuckValue F) → Bool
  project : List (DuckValue F) → List (DuckValue F)
  width : Nat
  project_length : ∀ row, (project row).length = width

/-- The database, and what the sink counted. -/
structure SinkState (F σ : Type) where
  database : Database F σ
  counted : RustBridgeDMLGlobalState

/-- The scan with the replies it is still to get, the rows that wait, and the sink. -/
abbrev StatementPipe (F σ : Type) :=
  Pipe (RustBridgeScanGlobalState × List Reply) (SinkState F σ) (List (DuckValue F))

def StatementPipe.start {F σ : Type} (scan : RustBridgeScanGlobalState) (replies : List Reply)
    (database : Database F σ) : StatementPipe F σ where
  source := (scan, replies)
  pending := []
  sink := { database, counted := .new }

section
variable {F σ : Type} [F64 F] [SerdeJson] [DuckDb F] (w : World F σ) (config : ClientConfig)
  (standardVectorSize : Nat)

namespace Statement

/-- A chunk is pushed into the sink. -/
def push (statement : Statement F) (state : SinkState F σ) (chunk : DataChunk F) :
    Except String Unit × SinkState F σ :=
  match state.database.sink w config statement.transaction statement.context statement.sink
      chunk with
  | (.error e, database) => (.error e, { state with database })
  | (.ok count, database) => (.ok (), { database, counted := state.counted.addAffected count })

/-- The rows of a scanned chunk that reach the sink. -/
def passed (statement : Statement F) (chunk : List (List (DuckValue F))) :
    List (List (DuckValue F)) :=
  (chunk.filter statement.keeps).map statement.project

/-- The scan is called and returns rows. -/
inductive Pulls (statement : Statement F) : RustBridgeScanGlobalState × List Reply →
    List (List (DuckValue F)) → RustBridgeScanGlobalState × List Reply → Prop
  | call {scan : RustBridgeScanGlobalState} {replies : List Reply}
      {chunk : List (List (DuckValue F))} :
      (rustBridgeScan standardVectorSize scan replies).result = .ok chunk → chunk ≠ [] →
      Pulls statement (scan, replies) (statement.passed chunk)
        ((rustBridgeScan (F := F) standardVectorSize scan replies).state,
          (rustBridgeScan (F := F) standardVectorSize scan replies).replies)

/-- A chunk of rows is pushed, and the sink asks for more. -/
inductive Pushes (statement : Statement F) : SinkState F σ → List (List (DuckValue F)) →
    SinkState F σ → Prop
  | chunk {state : SinkState F σ} {chunk : DataChunk F} :
      chunk.columnCount = statement.width → chunk.rows ≠ [] →
      (statement.push w config state chunk).1 = .ok () →
      Pushes statement state chunk.rows (statement.push w config state chunk).2

/-- The scan is called, or a chunk is pushed. -/
abbrev Moves (statement : Statement F) : StatementPipe F σ → StatementPipe F σ → Prop :=
  Pipe.Step (statement.Pulls standardVectorSize) (statement.Pushes w config)

/-- How a pipeline ends: with what it returns, and the database then. -/
inductive Ends (statement : Statement F) :
    StatementPipe F σ → Except String (List (DuckValue F)) → Database F σ → Prop
  | finished {scan : RustBridgeScanGlobalState} {replies : List Reply} {state : SinkState F σ} :
      (rustBridgeScan (F := F) standardVectorSize scan replies).result = .ok [] →
      Ends statement ⟨(scan, replies), [], state⟩ state.counted.getDataInternal state.database
  | scanFailed {scan : RustBridgeScanGlobalState} {replies : List Reply}
      {pending : List (List (DuckValue F))} {state : SinkState F σ} {e : String} :
      (rustBridgeScan (F := F) standardVectorSize scan replies).result = .error (.failed e) →
      Ends statement ⟨(scan, replies), pending, state⟩ (.error e) state.database
  | sinkFailed {scan : RustBridgeScanGlobalState × List Reply} {chunk : DataChunk F}
      {pending : List (List (DuckValue F))} {state : SinkState F σ} {e : String} :
      chunk.columnCount = statement.width → chunk.rows ≠ [] →
      (statement.push w config state chunk).1 = .error e →
      Ends statement ⟨scan, chunk.rows ++ pending, state⟩ (.error e)
        (statement.push w config state chunk).2.database

/-- The pipeline is carried to an end. -/
def RunsFrom (statement : Statement F) (pipe : StatementPipe F σ)
    (result : Except String (List (DuckValue F))) (database : Database F σ) : Prop :=
  ∃ pipe', ReflTransGen (statement.Moves w config standardVectorSize) pipe pipe' ∧
    statement.Ends w config standardVectorSize pipe' result database

/-- A run of the statement over a scan: what it returns, and the database after it. -/
def Runs (statement : Statement F) (scan : RustBridgeScanGlobalState) (replies : List Reply)
    (database : Database F σ) (result : Except String (List (DuckValue F)))
    (database' : Database F σ) : Prop :=
  statement.RunsFrom w config standardVectorSize (.start scan replies database) result database'

end Statement

end

end SuperhumanDocs
