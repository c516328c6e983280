import Mathlib.Data.Finmap
import Mathlib.Data.Fintype.EquivFin
import SuperhumanDocs.Proof.Statement
import SuperhumanDocs.Streaming.Deferred

/-!
# What a statement does to a document

The server takes a mutation and applies it some time later. A statement that waits for its
mutations leaves in the document, when it returns, exactly what it means there: the rows it selects
are deleted, updated or inserted, and all others are as they were. When it fails, this holds for the
first of the rows it selects.

* `interrupted_applied`: which operations are applied.
* `Sheet.Effect`: what a statement means for a table.
* `statement_applied`: the theorem about every run.
-/

set_option autoImplicit false

namespace SuperhumanDocs

open Binary (Binary64 F64)
open Effect (Blocks Succeeds bind_eq_ok not_succeeds_error)
open Json (SerdeJson)
open Streaming (Deferred Drains Submitted Waited)

/-! ## Documents -/

section
variable {F : Type}

/-- The cells of a row, by the id of their column. -/
abbrev RowCells (F : Type) := String → Option (Operations.Value F)

/-- The rows of a table, by their id. -/
abbrev Sheet (F : Type) := Finmap fun _ : String => RowCells F

/-- The tables, by the ids of document and table. -/
abbrev Documents (F : Type) := String × String → Sheet F

def editCells (edit : Operations.RowEdit F) (cells : RowCells F) : RowCells F :=
  edit.cells.foldl (fun cells cell => Function.update cells cell.column (some cell.value)) cells

/-- How the server chooses the id of a new row. -/
structure NewId (F : Type) where
  id : Sheet F → String
  notMem : ∀ sheet, id sheet ∉ sheet

/-- There is always an id that is not taken. -/
instance : Nonempty (NewId F) := by
  have hfree (sheet : Sheet F) : ∃ id, id ∉ sheet := by
    obtain ⟨id, hid⟩ := Infinite.exists_notMem_finset sheet.keys
    exact ⟨id, mt Finmap.mem_keys.2 hid⟩
  choose id hid using hfree
  exact ⟨⟨id, hid⟩⟩

def Sheet.change (newId : NewId F) (sheet : Sheet F) : RowChange F → Sheet F
  | .insert row => sheet.insert (newId.id sheet) (editCells row fun _ => none)
  | .update rowId row =>
    (sheet.lookup rowId).elim sheet fun cells => sheet.insert rowId (editCells row cells)
  | .delete rowId => sheet.erase rowId

def RowWrite.target (write : RowWrite F) : String × String := (write.docId, write.tableIdOrName)

def Documents.write (newId : NewId F) (documents : Documents F) (write : RowWrite F) :
    Documents F :=
  Function.update documents write.target ((documents write.target).change newId write.change)

def Documents.apply (newId : NewId F) (documents : Documents F)
    (operation : Operation F) : Documents F :=
  operation.rowWrites.foldl (Documents.write newId) documents

variable (newId : NewId F)

theorem foldl_apply (operations : List (Operation F)) (documents : Documents F) :
    operations.foldl (Documents.apply newId) documents =
      (operations.flatMap Operation.rowWrites).foldl (Documents.write newId) documents := by
  rw [List.foldl_flatMap]
  rfl

/-- Writes to one table. -/
theorem foldl_write {writes : List (RowWrite F)} {target : String × String}
    (h : ∀ write ∈ writes, write.target = target) (documents : Documents F) :
    writes.foldl (Documents.write newId) documents = Function.update documents target
      ((writes.map RowWrite.change).foldl (Sheet.change newId) (documents target)) := by
  induction writes generalizing documents with
  | nil => exact (Function.update_eq_self target documents).symm
  | cons write writes ih =>
    obtain ⟨rfl, hwrites⟩ := List.forall_mem_cons.1 h
    rw [List.foldl_cons, ih hwrites, Documents.write, Function.update_idem, Function.update_self]
    rfl

/-! ## Changes of a table -/

variable {rows : List Row} {changes : List (RowChange F)}

/-- Deleted rows are gone, and no others. -/
theorem foldl_delete (h : List.Forall₂ (fun row change => change = .delete row.id) rows changes)
    (sheet : Sheet F) (id : String) :
    (changes.foldl (Sheet.change newId) sheet).lookup id =
      if id ∈ rows.map Row.id then none else sheet.lookup id := by
  induction h generalizing sheet with
  | nil => rfl
  | @cons row change rows changes hchange _ ih =>
    subst hchange
    rw [List.foldl_cons, ih, Sheet.change]
    by_cases hid : id = row.id
    · rw [hid, Finmap.lookup_erase]
      simp
    · rw [Finmap.lookup_erase_ne hid]
      simp [hid]

/-- An update is about one row. -/
theorem lookup_update (sheet : Sheet F) (rowId : String) (edit : Operations.RowEdit F)
    (id : String) : (sheet.change newId (.update rowId edit)).lookup id =
      if rowId = id then (sheet.lookup id).map (editCells edit) else sheet.lookup id := by
  by_cases hid : rowId = id
  · subst hid
    cases hrow : sheet.lookup rowId with
    | none => simp [Sheet.change, hrow]
    | some cells => simp [Sheet.change, hrow]
  · cases hrow : sheet.lookup rowId with
    | none => simp [Sheet.change, hrow, hid]
    | some cells => simp [Sheet.change, hrow, hid, Finmap.lookup_insert_of_ne _ (Ne.symm hid)]

/-- The edits of a row, in their order. -/
def editsOf (id : String) (edited : List (Row × Operations.RowEdit F)) :
    List (Operations.RowEdit F) :=
  (edited.filter fun edited => edited.1.id = id).map Prod.snd

/-- The cells of a row after its edits. -/
def editAll (edits : List (Operations.RowEdit F)) (cells : RowCells F) : RowCells F :=
  edits.foldl (fun cells edit => editCells edit cells) cells

/-- Each row has its edits, in their order. -/
theorem foldl_update (edited : List (Row × Operations.RowEdit F)) (sheet : Sheet F) (id : String) :
    ((edited.map fun edited => RowChange.update edited.1.id edited.2).foldl (Sheet.change newId)
      sheet).lookup id = (sheet.lookup id).map (editAll (editsOf id edited)) := by
  induction edited generalizing sheet with
  | nil => exact Option.map_id'.symm
  | cons first edited ih =>
    rw [List.map_cons, List.foldl_cons, ih, lookup_update]
    by_cases hid : first.1.id = id
    · rw [if_pos hid, Option.map_map, editsOf, editsOf,
        List.filter_cons_of_pos (by simpa using hid)]
      rfl
    · rw [if_neg hid, editsOf, editsOf, List.filter_cons_of_neg (by simpa using hid)]

/-- The rows `ids` are new, and have the cells of the edits. -/
structure Sheet.Added (sheet sheet' : Sheet F) (edits : List (Operations.RowEdit F))
    (ids : List String) : Prop where
  nodup : ids.Nodup
  notMem : ∀ id ∈ ids, id ∉ sheet
  cells : List.Forall₂ (fun id edit => sheet'.lookup id = some (editCells edit fun _ => none))
    ids edits
  others : ∀ id, id ∉ ids → sheet'.lookup id = sheet.lookup id

/-- Every insert adds a row of its own. -/
theorem foldl_insert (edits : List (Operations.RowEdit F)) (sheet : Sheet F) :
    ∃ ids,
      sheet.Added ((edits.map RowChange.insert).foldl (Sheet.change newId) sheet) edits ids := by
  induction edits generalizing sheet with
  | nil => exact ⟨[], .nil, by simp, .nil, fun _ _ => rfl⟩
  | cons edit edits ih =>
    obtain ⟨ids, hids⟩ := ih (sheet.change newId (.insert edit))
    rw [Sheet.change] at hids
    have hnew (id : String) (hid : id ∈ ids) : id ≠ newId.id sheet ∧ id ∉ sheet := by
      have hnot := hids.notMem id hid
      rw [Finmap.mem_insert, not_or] at hnot
      exact hnot
    have hfirst : newId.id sheet ∉ ids := fun hid => (hnew _ hid).1 rfl
    refine ⟨newId.id sheet :: ids, List.nodup_cons.2 ⟨hfirst, hids.nodup⟩, ?_, .cons ?_ hids.cells,
      fun id hid => ?_⟩
    · exact List.forall_mem_cons.2 ⟨newId.notMem sheet, fun id hid => (hnew id hid).2⟩
    · exact (hids.others _ hfirst).trans (Finmap.lookup_insert sheet)
    · rw [List.mem_cons, not_or] at hid
      exact (hids.others id hid.2).trans (Finmap.lookup_insert_of_ne _ hid.1)

end

/-! ## The requests of a statement, as the server sees them -/

section
variable {F : Type} [SerdeJson] (config : ClientConfig)

/-- The id under which a reply says that the mutation was taken. -/
def Reply.mutationId (reply : Reply) : Option String :=
  (execute reply >>= mutationRequestId).toOption

/-- What a request and its reply say about the mutations. -/
def Call.event (c : Call F) : Deferred String (Operation F) :=
  match c.operation with
  | .mutationStatus requestId =>
    .poll requestId
      ((checkMutation requestId config.allowMutationWarnings c.reply).toOption == some true)
  | operation => .submit operation c.reply.mutationId

variable {config} {operation : Operation F} {t : List (Call F)}

theorem event_submit (hop : operation.isMutation = true) (reply : Reply) :
    Call.event config ⟨operation, reply⟩ = .submit operation reply.mutationId := by
  cases operation with
  | mutationStatus requestId => cases hop
  | _ => rfl

theorem Waits.isPoll (h : Waits config t) : ∀ event ∈ t.map (Call.event config), event.isPoll := by
  intro event hevent
  obtain ⟨c, hc, rfl⟩ := List.mem_map.1 hevent
  obtain ⟨-, requestId, hop⟩ := h c hc
  rw [Call.event, hop]
  exact trivial

theorem Settles.waited (hwait : config.waitForMutations = true) (hop : operation.isMutation = true)
    (h : Settles config operation t) : Waited operation (t.map (Call.event config)) := by
  obtain ⟨reply, rest, rfl, hwaits, body, hbody, hsettled⟩ := h
  obtain ⟨requestId, hid, c, hc, hconfirms⟩ := hsettled hwait
  have hmutation : reply.mutationId = some requestId := by
    rw [Reply.mutationId, bind_eq_ok.2 ⟨body, hbody, hid⟩]
    rfl
  refine ⟨requestId, rest.map (Call.event config), ?_, hwaits.isPoll, ?_⟩
  · rw [List.map_cons, event_submit hop, hmutation]
  · refine List.mem_map.2 ⟨c, hc, ?_⟩
    simp only [Call.event, hconfirms.1, hconfirms.2]
    rfl

theorem Breaks.submitted (hop : operation.isMutation = true) (h : Breaks config operation t) :
    Submitted operation (t.map (Call.event config)) := by
  obtain ⟨reply, rest, rfl, hwaits, -⟩ := h
  exact ⟨reply.mutationId, rest.map (Call.event config), by rw [List.map_cons, event_submit hop],
    hwaits.isPoll⟩

variable {D : Type} {apply : D → Operation F → D} {data : D} {ops : List (Operation F)}
  {backlog : Streaming.Backlog D String (Operation F)}

theorem served_applied (hwait : config.waitForMutations = true) (h : Served config ops t)
    (hdrains : Drains apply ⟨data, []⟩ (t.map (Call.event config)) backlog) :
    backlog = ⟨ops.foldl apply data, []⟩ := by
  obtain ⟨hops, blocks, hblocks, rfl⟩ := h
  refine hdrains.blocks ⟨blocks.map (List.map (Call.event config)), ?_, List.map_flatten⟩
  rw [List.forall₂_map_right_iff]
  exact ((List.forall₂_and_left ops blocks).2 ⟨hops, hblocks⟩).imp
    fun op block h => h.2.waited hwait h.1

/-- **Which mutations are applied**: the first ones, all but the last or all. -/
theorem interrupted_applied (hwait : config.waitForMutations = true)
    (h : Interrupted config ops t)
    (hdrains : Drains apply ⟨data, []⟩ (t.map (Call.event config)) backlog) :
    ∃ applied left, ops = applied ++ left ∧ backlog.data = applied.foldl apply data := by
  obtain ⟨settled, last, t₁, t₂, rfl, rfl, hserved, hlast⟩ := h
  rw [List.map_append] at hdrains
  obtain ⟨between, hfirst, hrest⟩ := hdrains.split
  rw [served_applied hwait hserved hfirst] at hrest
  obtain ⟨rfl, rfl⟩ | ⟨op, rfl, hop, hbreaks⟩ := hlast
  · rw [hrest.idle (by simp)]
    exact ⟨settled, [], rfl, rfl⟩
  · obtain hdata | hdata := hrest.submitted (hbreaks.submitted hop)
    · exact ⟨settled, [op], rfl, hdata⟩
    · exact ⟨settled ++ [op], [], by simp, by rw [hdata, List.foldl_append]; rfl⟩

end

/-! ## What a statement means -/

section
variable {F : Type} [F64 F] [SerdeJson] [DuckDb F]

variable (statement : Statement F) (scan : RustBridgeScanGlobalState)

/-- The cells of a row that is inserted for a row of the scan. -/
def Statement.Inserts (info : RustBridgeTableInfo) (row : Row) (edit : Operations.RowEdit F) :
    Prop :=
  ∃ values, scan.outputRow (ffiScanRow row) = .ok values ∧
    InsertsRow info (statement.project values) edit

/-- The cells of an update of a row of the scan. -/
def Statement.Updates (info : RustBridgeTableInfo) (assignments : List Assignment) (row : Row)
    (edit : Operations.RowEdit F) : Prop :=
  ∃ values, scan.outputRow (ffiScanRow row) = .ok values ∧
    UpdatesRow info assignments (statement.project values) edit

/-- What a statement does to the table of its sink for the rows `done`. -/
inductive Sheet.Effect (done : List Row) (sheet sheet' : Sheet F) : Sink → Prop
  | insert {info : RustBridgeTableInfo} {edits : List (Operations.RowEdit F)} {ids : List String} :
      List.Forall₂ (statement.Inserts scan info) done edits → sheet.Added sheet' edits ids →
      Effect done sheet sheet' (.insert info)
  | update {info : RustBridgeTableInfo} {assignments : List Assignment}
      {edits : List (Operations.RowEdit F)} :
      List.Forall₂ (statement.Updates scan info assignments) done edits →
      (∀ id, sheet'.lookup id = (sheet.lookup id).map (editAll (editsOf id (done.zip edits)))) →
      Effect done sheet sheet' (.update info assignments)
  | delete {info : RustBridgeTableInfo} {rowIdIndex : Nat} :
      (∀ id, sheet'.lookup id = if id ∈ done.map Row.id then none else sheet.lookup id) →
      Effect done sheet sheet' (.delete info rowIdIndex)

/-- The change that a sink makes for a row of the scan. -/
def Statement.ChangesRow (sink : Sink) (row : Row) (change : RowChange F) : Prop :=
  ∃ values, scan.outputRow (ffiScanRow row) = .ok values ∧
    sink.Changes statement.width (statement.project values) change ∧
    ∀ rowId, change.rowId = some rowId → rowId = row.id

section
variable {statement scan} {info : RustBridgeTableInfo} {row : Row} {change : RowChange F}

theorem Statement.ChangesRow.insert (h : statement.ChangesRow scan (.insert info) row change) :
    ∃ edit, statement.Inserts scan info row edit ∧ change = .insert edit := by
  obtain ⟨values, hvalues, hchanges, -⟩ := h
  cases hchanges with
  | insert hcells => exact ⟨_, ⟨values, hvalues, hcells⟩, rfl⟩

theorem Statement.ChangesRow.update {assignments : List Assignment}
    (h : statement.ChangesRow scan (.update info assignments) row change) :
    ∃ edit, statement.Updates scan info assignments row edit ∧ change = .update row.id edit := by
  obtain ⟨values, hvalues, hchanges, hid⟩ := h
  cases hchanges with
  | update hread hcells => exact ⟨_, ⟨values, hvalues, hcells⟩, by rw [hid _ rfl]⟩

theorem Statement.ChangesRow.delete {rowIdIndex : Nat}
    (h : statement.ChangesRow scan (.delete info rowIdIndex) row change) :
    change = .delete row.id := by
  obtain ⟨values, -, hchanges, hid⟩ := h
  cases hchanges with
  | delete hread => rw [hid _ rfl]

end

variable {statement scan} {config : ClientConfig} (newId : NewId F) {done : List Row}

/-- **The changes of a sink do to the table what the statement means.** -/
theorem effect_of_changes {sink : Sink} {changes : List (RowChange F)}
    (h : List.Forall₂ (statement.ChangesRow scan sink) done changes) (sheet : Sheet F) :
    Sheet.Effect statement scan done sheet (changes.foldl (Sheet.change newId) sheet) sink := by
  cases sink with
  | insert info =>
    obtain ⟨edits, hedits, hmap⟩ := Layout.forall₂_chosen (h.imp fun _ _ h => h.insert)
    have hinserts := calc
      changes = (done.zip edits).map (RowChange.insert ∘ Prod.snd) := hmap
      _ = ((done.zip edits).map Prod.snd).map RowChange.insert := List.map_map.symm
      _ = edits.map RowChange.insert := by rw [List.map_snd_zip hedits.length_eq.ge]
    obtain ⟨ids, hadded⟩ := foldl_insert newId edits sheet
    rw [hinserts]
    exact .insert hedits hadded
  | update info assignments =>
    obtain ⟨edits, hedits, rfl⟩ := Layout.forall₂_chosen (h.imp fun _ _ h => h.update)
    exact .update hedits (foldl_update newId (done.zip edits) sheet)
  | delete info rowIdIndex => exact .delete (foldl_delete newId (h.imp fun _ _ h => h.delete) sheet)

/-- The changes of what a statement writes are those of its sink. -/
theorem changes_of_writes {writes : List (RowWrite F)}
    (h : List.Forall₂ (statement.Writes scan config) done writes) :
    List.Forall₂ (statement.ChangesRow scan statement.sink) done (writes.map RowWrite.change) := by
  rw [List.forall₂_map_right_iff]
  refine h.imp fun row write hwrite => ?_
  obtain ⟨hid, values, hvalues, table, -, -, -, hchanges⟩ := hwrite
  exact ⟨values, hvalues, hchanges, hid⟩

/-- What a statement does to the documents for the rows `done`. -/
structure Documents.Effect (statement : Statement F) (scan : RustBridgeScanGlobalState)
    (config : ClientConfig) (done : List Row) (documents documents' : Documents F) : Prop where
  /-- Other tables are as they were. -/
  others : ∀ target, (∀ table, statement.sink.table.table.handle = some table →
    target ≠ (config.resource, table.id)) → documents' target = documents target
  table : ∀ table, statement.sink.table.table.handle = some table →
    Sheet.Effect statement scan done (documents (config.resource, table.id))
      (documents' (config.resource, table.id)) statement.sink

theorem documents_effect {writes : List (RowWrite F)}
    (h : List.Forall₂ (statement.Writes scan config) done writes)
    (documents : Documents F) : Documents.Effect statement scan config done documents
      (writes.foldl (Documents.write newId) documents) := by
  have htarget : ∀ write ∈ writes, ∃ table, statement.sink.table.table.handle = some table ∧
      write.target = (config.resource, table.id) := by
    intro write hwrite
    obtain ⟨index, hindex, rfl⟩ := List.getElem_of_mem hwrite
    obtain ⟨-, values, -, table, htable, hdoc, hid, -⟩ := h.get (h.length_eq ▸ hindex) hindex
    exact ⟨table, htable, by rw [RowWrite.target, ← hdoc, ← hid]; rfl⟩
  cases hhandle : statement.sink.table.table.handle with
  | none =>
    -- without a handle nothing was written
    refine ⟨fun target _ => ?_, fun table htable => by cases hhandle.symm.trans htable⟩
    cases writes with
    | nil => rfl
    | cons write writes =>
      obtain ⟨table, htable, -⟩ := htarget write (.head _)
      cases hhandle.symm.trans htable
  | some table =>
    have hdocuments := foldl_write newId (fun write hwrite => by
      obtain ⟨table', htable', htarget⟩ := htarget write hwrite
      cases hhandle.symm.trans htable'
      exact htarget) documents
    rw [hdocuments]
    refine ⟨fun target hother => Function.update_of_ne (hother table hhandle) _ _, ?_⟩
    intro table' htable'
    cases hhandle.symm.trans htable'
    rw [Function.update_self]
    exact effect_of_changes newId (changes_of_writes h) _

end

/-! ## Runs -/

section
variable {F σ : Type} [F64 F] [SerdeJson] [DuckDb F] {standardVectorSize : Nat}
  {statement : Statement F} {config : ClientConfig}
  {newClient : ClientConfig → Except String Unit} {table : Table}
  {bindData : RustBridgeScanBindData} {projectionIds : List Nat}
  {columnIndexes : List ColumnIndex} {outputTypes : List LogicalType}
  {scan : RustBridgeScanGlobalState} {replies : List Reply} {responses : List RowsResponse}

/-- **What a statement leaves in the documents**: for a server that applies what it takes at some
time, the effect of the first rows it selects, and of all of them when it returns. -/
theorem statement_applied (w : World F σ) (hwait : config.waitForMutations = true)
    (hV : 0 < standardVectorSize) (hlimit : bindData.pushedLimit = 0)
    (hnew : RustBridgeScanGlobalState.new newClient config table bindData projectionIds
      columnIndexes outputTypes = .ok scan)
    (hrange : scan.InRange) (hreplies : Consumes scan.scan replies responses)
    (hids : statement.PassesRowId scan) (db : Database F σ)
    {result : Except String (List (DuckValue F))} {db' : Database F σ}
    (hruns : statement.Runs w config standardVectorSize scan replies db result db') :
    ∃ sent : List (Call F), db'.log = db.log ++ sent.map (⟨statement.transaction, ·⟩) ∧
      ∀ newId documents,
        (∃ backlog, Drains (Documents.apply newId) ⟨documents, []⟩
          (sent.map (Call.event config)) backlog) ∧
        ∀ backlog, Drains (Documents.apply newId) ⟨documents, []⟩
            (sent.map (Call.event config)) backlog →
          ∃ done rest,
            (visibleRows responses).filter (statement.selects scan) = done ++ rest ∧
            (Succeeds result → rest = [] ∧ backlog.queue = []) ∧
            Documents.Effect statement scan config done documents backlog.data := by
  obtain ⟨done, rest, sent, ops, hsent⟩ :=
    statement_sent hV hlimit hnew hrange hreplies hids hruns
  refine ⟨sent, hsent.log, fun newId documents => ⟨Drains.total .., fun backlog hdrains => ?_⟩⟩
  have hwrites := hsent.writes
  rw [rowWrites_eq, hsent.interrupted.mutations] at hwrites
  cases result with
  | ok row =>
    obtain ⟨rfl, -, hserved⟩ := hsent.returns row rfl
    refine ⟨done, [], hsent.rows, fun _ => ⟨rfl, ?_⟩, ?_⟩
    · rw [served_applied hwait hserved hdrains]
    · rw [served_applied hwait hserved hdrains, foldl_apply]
      exact documents_effect newId hwrites documents
  | error e =>
    obtain ⟨applied, left, rfl, hdata⟩ := interrupted_applied hwait hsent.interrupted hdrains
    -- the operations applied are those of the first rows
    rw [List.flatMap_append] at hwrites
    have hfirst := List.forall₂_take_append _ _ _ hwrites
    have heffect : Documents.Effect statement scan config _ documents _ :=
      documents_effect newId hfirst documents
    rw [← foldl_apply, ← hdata] at heffect
    refine ⟨_, done.drop (applied.flatMap Operation.rowWrites).length ++ rest, ?_,
      fun hok => absurd hok not_succeeds_error, heffect⟩
    rw [hsent.rows, ← List.append_assoc, List.take_append_drop]

end

open Json.Reference Reference

/-- The row that is listed is deleted, and nothing else changes. -/
theorem statement_applied_delete : ∃ result db', ∃ sent : List (Call Binary64),
    deleteStatement.Runs scripted config 2048 (scanState 0)
      [reply 200 (rowsJson [("r1", false), ("r2", true)] "" "")]
      (startedDatabase [mutationReply "m1", statusReply true]) result db' ∧
    ∀ newId documents backlog, Drains (Documents.apply newId) ⟨documents, []⟩
        (sent.map (Call.event config)) backlog →
      ∃ done rest, (visibleRows [rowsResponse [("r1", false), ("r2", true)] "" ""]).filter
          (deleteStatement.selects (scanState 0)) = done ++ rest ∧
        (Succeeds result → rest = [] ∧ backlog.queue = []) ∧
        Documents.Effect deleteStatement (scanState 0) config done documents backlog.data := by
  obtain ⟨result, db', hruns⟩ := (statement_terminates scripted deleteStatement rfl
    (new_scanState 0) (scanState_inRange 0) consumes_deletedRow
    (startedDatabase [mutationReply "m1", statusReply true])).finishes _ .refl
  obtain ⟨sent, -, hall⟩ := statement_applied scripted rfl (show 0 < 2048 by decide) rfl
    (new_scanState 0) (scanState_inRange 0) consumes_deletedRow deleteStatement_passesRowId
    (startedDatabase [mutationReply "m1", statusReply true]) hruns
  exact ⟨result, db', sent, hruns, fun newId documents => (hall newId documents).2⟩

end SuperhumanDocs
