import SuperhumanDocs.Bridge.Session
import SuperhumanDocs.Raw.Dml
import SuperhumanDocs.Raw.Scan

/-!
# Sessions in memory

The life of an attached document: its config, its catalog and the schema over it, the scans that
DuckDB opens and closes, and the end of them all. A call that waits for the server ends a session
where it is, with everything still in memory.
-/

set_option autoImplicit false

namespace SuperhumanDocs.Raw

open Binary (F64)
open Json (SerdeJson)
open Memory

/-- The config of an attached document, with the name of the database lent from it. -/
def attachConfigRecord (handle : ℕ) (config : ClientConfig) : RustExtAttachConfig where
  handle := some handle
  databaseName := borrowString handle .configResource config.resource

def freeAttachConfig (config : RustExtAttachConfig) : Program Block Unit :=
  dropHandle ClientConfig config.handle

/-- The open scans and the replies the server is still to give. -/
structure Session where
  scans : List RustBridgeScanGlobalState
  replies : List Reply

def bindData (query : Query) (table : RustBridgeTableInfo) : RustBridgeScanBindData where
  table
  pushedQuery := query.pushedQuery
  pushedSortBy := query.pushedSortBy
  pushedLimit := query.pushedLimit

section
variable [Allocator Block]

/-- End a session: the open scans, the catalog, then the config. -/
def detach (config : RustExtAttachConfig) (catalog : RustExtCatalog)
    (scans : List RustBridgeScanGlobalState) : Program Block Unit := do
  scans.forM RustBridgeScanGlobalState.destroy
  freeCatalog catalog
  freeAttachConfig config

variable [SerdeJson] {F : Type} [F64 F] [DuckDb F]

/-- The chunk is still awaited. -/
def isWaiting : SessionAnswer (Option Exception) F → Bool
  | .chunk (.error none) => true
  | _ => false

/-- The answer to a command, and the session after it. -/
def Session.step (newClient : ClientConfig → Except String Unit) (config : RustExtAttachConfig)
    (schema : RustBridgeSchemaCatalogEntry) (standardVectorSize : ℕ) (session : Session) :
    Command → Program Block (SessionAnswer (Option Exception) F × Session)
  | .databasePath => do return (.path (← rustBridgeString config.databaseName), session)
  | .openScan name query =>
    match schema.lookupEntry name with
    | none => pure (.unknown, session)
    | some entry => do
      match ← RustBridgeScanGlobalState.new newClient config.handle (bindData query entry.table)
          query.projectionIds query.columnIndexes query.outputTypes with
      | .error e => return (.opened (.error e), session)
      | .ok scan => return (.opened (.ok ()), { session with scans := session.scans ++ [scan] })
  | .pull scan =>
    match session.scans[scan]? with
    | none => pure (.unknown, session)
    | some state => do
      let call ← rustBridgeScan standardVectorSize state session.replies
      return (.chunk call.result,
        { scans := session.scans.set scan call.state, replies := call.replies })
  | .close scan =>
    match session.scans[scan]? with
    | none => pure (.unknown, session)
    | some state => do
      state.destroy
      return (.closed, { session with scans := session.scans.eraseIdx scan })

/-- The answers to commands, up to a call that waits, and the open scans; whether a call waits. -/
def Session.run (newClient : ClientConfig → Except String Unit) (config : RustExtAttachConfig)
    (schema : RustBridgeSchemaCatalogEntry) (standardVectorSize : ℕ) :
    List Command → Session →
      Program Block (List (SessionAnswer (Option Exception) F) × Bool × Session)
  | [], session => pure ([], false, session)
  | command :: commands, session => do
    let (answer, session) ← session.step newClient config schema standardVectorSize command
    if isWaiting answer then return ([answer], true, session)
    else do
      let (answers, waiting, session) ←
        Session.run newClient config schema standardVectorSize commands session
      return (answer :: answers, waiting, session)

variable (F) in
/-- Attach the document of a config, run commands, and detach it. -/
def attachedSession (newClient : ClientConfig → Except String Unit) (config : ClientConfig)
    (standardVectorSize : ℕ) (commands : List Command) (replies : List Reply) :
    Program Block (SessionOutcome (Option Exception) F) := do
  let handle ← box Block config
  let config := attachConfigRecord handle config
  match ← rustBridgeListTables newClient config.handle replies with
  | (.error none, _) => return { attached := .error none, answers := [], waiting := true }
  | (.error (some e), _) => do
    freeAttachConfig config
    return { attached := .error (some e), answers := [], waiting := false }
  | (.ok catalog, replies) => do
    let schema ← RustBridgeSchemaCatalogEntry.new F catalog
    let (answers, waiting, session) ←
      Session.run newClient config schema standardVectorSize commands { scans := [], replies }
    if waiting then return { attached := .ok (), answers, waiting }
    else do
      detach config catalog session.scans
      return { attached := .ok (), answers, waiting }

/-! ## Writes -/

def writeSink (write : Write) (table : RustBridgeTableInfo) : Sink :=
  match write with
  | .insert => .insert table
  | .update assignments => .update table assignments
  | .delete rowIdIndex => .delete table rowIdIndex

/-- The call for a chunk, as Rust reads it. -/
def pendingCall (schema : RustBridgeSchemaCatalogEntry) (pending : PendingWrite F) :
    Program Block (Option (Except String (Dml F))) :=
  match schema.lookupEntry pending.table with
  | none => pure none
  | some entry => do return some (← (writeSink pending.write entry.table).call pending.chunk)

/-- The calls for the document of a config, once its catalog is loaded. -/
def attachedWrites (newClient : ClientConfig → Except String Unit) (config : ClientConfig)
    (writes : List (PendingWrite F)) (replies : List Reply) :
    Program Block (Except (Option Exception) (List (Option (Except String (Dml F))))) := do
  let handle ← box Block config
  let config := attachConfigRecord handle config
  match ← rustBridgeListTables newClient config.handle replies with
  | (.error none, _) => return .error none
  | (.error (some e), _) => do
    freeAttachConfig config
    return .error (some e)
  | (.ok catalog, _) => do
    let schema ← RustBridgeSchemaCatalogEntry.new F catalog
    let calls ← writes.mapM (pendingCall schema)
    detach config catalog []
    return .ok calls

end

end SuperhumanDocs.Raw
