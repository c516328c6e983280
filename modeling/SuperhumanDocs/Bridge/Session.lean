import SuperhumanDocs.Bridge.Dml
import SuperhumanDocs.Bridge.Schema
import SuperhumanDocs.Client.Catalog

/-!
# Sessions on an attached document

DuckDB attaches a document, then opens, pulls and closes scans of its tables in any order, several
at a time (each side of a join has its own). A scan is named by its place among the open ones.
-/

set_option autoImplicit false

namespace SuperhumanDocs

open Binary (F64)
open Json (SerdeJson)

/-- A planned scan of a table. -/
structure Query where
  pushedQuery : String
  pushedQueryDescription : String
  pushedSortBy : String
  pushedLimit : Nat
  projectionIds : List Nat
  columnIndexes : List ColumnIndex
  outputTypes : List LogicalType

def Query.bindData (query : Query) (table : RustBridgeTableInfo) : RustBridgeScanBindData where
  table
  pushedQuery := query.pushedQuery
  pushedQueryDescription := query.pushedQueryDescription
  pushedSortBy := query.pushedSortBy
  pushedLimit := query.pushedLimit

/-- Open the scan of a table. -/
def Query.openScan (query : Query) (newClient : ClientConfig → Except String Unit)
    (config : ClientConfig) (table : RustBridgeTableInfo) :
    Except String RustBridgeScanGlobalState := do
  let handle ← refFromRaw table.table.handle "table"
  RustBridgeScanGlobalState.new newClient config handle (query.bindData table)
    query.projectionIds query.columnIndexes query.outputTypes

/-- What DuckDB asks of an attached document. -/
inductive Command where
  | databasePath
  | openScan (table : String) (query : Query)
  | pull (scan : Nat)
  | close (scan : Nat)

/-- What a command gives; `ε` is how calls fail. -/
inductive SessionAnswer (ε F : Type) where
  | path (text : String)
  | opened (result : Except ε Unit)
  | chunk (result : Except ε (List (List (DuckValue F))))
  | closed
  | unknown

/-- The open scans and the replies the server is still to give. -/
structure Session where
  scans : List RustBridgeScanGlobalState
  replies : List Reply

/-- What a session gave: whether the document was attached, the answers, and whether it ended in a
call that waits for the server. -/
structure SessionOutcome (ε F : Type) where
  attached : Except ε Unit
  answers : List (SessionAnswer ε F)
  waiting : Bool

section
variable [SerdeJson] {F : Type} [F64 F] [DuckDb F]

/-- The chunk is still awaited. -/
def SessionAnswer.isWaiting : SessionAnswer Stop F → Bool
  | .chunk (.error .waiting) => true
  | _ => false

/-- The answer to a command, and the session after it. -/
def Session.step (newClient : ClientConfig → Except String Unit) (config : ClientConfig)
    (schema : RustBridgeSchemaCatalogEntry) (standardVectorSize : Nat) (session : Session) :
    Command → SessionAnswer Stop F × Session
  | .databasePath => (.path config.resource, session)
  | .openScan name query =>
    match schema.lookupEntry name with
    | none => (.unknown, session)
    | some entry =>
      match query.openScan newClient config entry.table with
      | .error e => (.opened (.error (.failed e)), session)
      | .ok scan => (.opened (.ok ()), { session with scans := session.scans ++ [scan] })
  | .pull scan =>
    match session.scans[scan]? with
    | none => (.unknown, session)
    | some state =>
      let call := rustBridgeScan standardVectorSize state session.replies
      (.chunk call.result, { scans := session.scans.set scan call.state, replies := call.replies })
  | .close scan =>
    match session.scans[scan]? with
    | none => (.unknown, session)
    | some _ => (.closed, { session with scans := session.scans.eraseIdx scan })

/-- The answers to commands, up to a call that waits; and whether one does. -/
def Session.run (newClient : ClientConfig → Except String Unit) (config : ClientConfig)
    (schema : RustBridgeSchemaCatalogEntry) (standardVectorSize : Nat) :
    List Command → Session → List (SessionAnswer Stop F) × Bool
  | [], _ => ([], false)
  | command :: commands, session =>
    let (answer, session) := session.step newClient config schema standardVectorSize command
    if answer.isWaiting then ([answer], true)
    else
      let (answers, waiting) :=
        Session.run newClient config schema standardVectorSize commands session
      (answer :: answers, waiting)

variable (F) in
/-- Attach the document of a config, run commands, and detach it. -/
def attachedSession (newClient : ClientConfig → Except String Unit) (config : ClientConfig)
    (standardVectorSize : Nat) (commands : List Command) (replies : List Reply) :
    SessionOutcome Stop F :=
  let loaded := loadCatalog newClient config replies
  match loaded.result with
  | .error .waiting => { attached := .error .waiting, answers := [], waiting := true }
  | .error (.failed e) => { attached := .error (.failed e), answers := [], waiting := false }
  | .ok tables =>
    let (answers, waiting) := Session.run newClient config (.new F tables) standardVectorSize
      commands { scans := [], replies := loaded.replies }
    { attached := .ok (), answers, waiting }

theorem attachedSession_eq {newClient : ClientConfig → Except String Unit} {config : ClientConfig}
    {standardVectorSize : Nat} {commands : List Command} {replies rest : List Reply}
    {tables : List RustExtCatalogTable} {sent : List CatalogInput}
    {answers : List (SessionAnswer Stop F)} {waiting : Bool}
    (hloaded : loadCatalog newClient config replies = { result := .ok tables, sent, replies := rest })
    (hrun : Session.run newClient config (.new F tables) standardVectorSize commands
      { scans := [], replies := rest } = (answers, waiting)) :
    attachedSession F newClient config standardVectorSize commands replies =
      { attached := .ok (), answers, waiting } := by
  simp only [attachedSession, hloaded, hrun]

/-! ## Writes -/

/-- A statement that writes to a table. -/
inductive Write where
  | insert
  | update (assignments : List Assignment)
  | delete (rowIdIndex : Nat)

def Write.sink (write : Write) (table : RustBridgeTableInfo) : Sink :=
  match write with
  | insert => .insert table
  | update assignments => .update table assignments
  | delete rowIdIndex => .delete table rowIdIndex

/-- A chunk of a statement, for the table of a name. -/
structure PendingWrite (F : Type) where
  table : String
  write : Write
  chunk : DataChunk F

/-- The call for a chunk, when there is such a table. -/
def PendingWrite.call (pending : PendingWrite F) (schema : RustBridgeSchemaCatalogEntry) :
    Option (Except String (Dml F)) :=
  (schema.lookupEntry pending.table).map fun entry =>
    (pending.write.sink entry.table).call pending.chunk

/-- The calls for the document of a config, once its catalog is loaded. -/
def attachedWrites (newClient : ClientConfig → Except String Unit) (config : ClientConfig)
    (writes : List (PendingWrite F)) (replies : List Reply) :
    Except Stop (List (Option (Except String (Dml F)))) :=
  (loadCatalog newClient config replies).result.map fun tables =>
    writes.map fun pending => pending.call (.new F tables)

theorem attachedWrites_eq {newClient : ClientConfig → Except String Unit} {config : ClientConfig}
    {replies rest : List Reply} {tables : List RustExtCatalogTable} {sent : List CatalogInput}
    (hloaded : loadCatalog newClient config replies = { result := .ok tables, sent, replies := rest })
    (writes : List (PendingWrite F)) :
    attachedWrites newClient config writes replies =
      .ok (writes.map fun pending => pending.call (.new F tables)) := by
  rw [attachedWrites, hloaded]
  rfl

theorem PendingWrite.call_eq {pending : PendingWrite F} {schema : RustBridgeSchemaCatalogEntry}
    {entry : RustBridgeTableCatalogEntry}
    (h : schema.lookupEntry pending.table = some entry) :
    pending.call schema = some ((pending.write.sink entry.table).call pending.chunk) := by
  rw [call, h, Option.map_some]

end

end SuperhumanDocs
