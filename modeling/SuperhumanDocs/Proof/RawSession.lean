import SuperhumanDocs.Proof.Catalog
import SuperhumanDocs.Proof.RawCatalog
import SuperhumanDocs.Proof.RawDml
import SuperhumanDocs.Proof.ScanRun
import SuperhumanDocs.Raw.Session

/-!
# Sessions in memory do what the model does, and clean up

* `attachedSession_matches`: whatever DuckDB asks of an attached document, in whichever order, the
  answers are those of the model, no command is undefined, and at the end the heap is as it was.
* `attachedWrites_matches`: Rust reads the calls of the model, whatever is written.
-/

set_option autoImplicit false

namespace SuperhumanDocs.Raw

open Binary (F64)
open Json (SerdeJson)
open Memory

section
variable {F : Type}

/-- The same answer, or failures that match. -/
inductive AnswerMatches : SessionAnswer (Option Exception) F → SessionAnswer Stop F → Prop
  | path (text : String) : AnswerMatches (.path text) (.path text)
  | opened {x : Except (Option Exception) Unit} {y : Except Stop Unit} :
    SameResult (Surfaces openContext) x y → AnswerMatches (.opened x) (.opened y)
  | chunk {x : Except (Option Exception) (List (List (DuckValue F)))}
    {y : Except Stop (List (List (DuckValue F)))} :
    SameResult (Surfaces nextContext) x y → AnswerMatches (.chunk x) (.chunk y)
  | closed : AnswerMatches .closed .closed
  | unknown : AnswerMatches .unknown .unknown

theorem AnswerMatches.isWaiting {raw : SessionAnswer (Option Exception) F}
    {answer : SessionAnswer Stop F} (h : AnswerMatches raw answer) : Raw.isWaiting raw = answer.isWaiting := by
  cases h with
  | chunk h =>
    cases h with
    | ok a => rfl
    | error h => cases h <;> rfl
  | _ => rfl

/-- The open scans stand for those of the model, and own `held`. -/
structure SessionMatches (own : Owned Block) (raw : Session) (session : SuperhumanDocs.Session)
    (held : Owned Block) : Prop where
  scans : Each (Refines own) raw.scans session.scans held
  replies : raw.replies = session.replies

end

section
variable [Allocator Block] [SerdeJson] {F : Type} [F64 F] [DuckDb F] {own : Owned Block}
  {raw : Session} {session : SuperhumanDocs.Session} {held : Owned Block} {config : ClientConfig}
  {rawConfig : RustExtAttachConfig} {schema : RustBridgeSchemaCatalogEntry}
  {info : SuperhumanDocs.RustBridgeSchemaCatalogEntry}
  (newClient : ClientConfig → Except String Unit) (standardVectorSize : ℕ)

/-- What a session reads: its config and the entries of its schema. -/
structure ReadsDocument (own : Owned Block) (rawConfig : RustExtAttachConfig)
    (config : ClientConfig) (schema : RustBridgeSchemaCatalogEntry)
    (info : SuperhumanDocs.RustBridgeSchemaCatalogEntry) : Prop where
  handle : Triple own (refFromRaw ClientConfig rawConfig.handle "client config")
    (Leaves (.ok config) own)
  databaseName : Triple own (rustBridgeString rawConfig.databaseName) (Leaves config.resource own)
  entries : ∀ name, Option.Rel (IsEntry own) (schema.lookupEntry name) (info.lookupEntry name)

/-- **One command**: the answer of the model, and scans that stand for the same again. -/
theorem step_matches (hdocument : ReadsDocument own rawConfig config schema info)
    (h : SessionMatches own raw session held) (command : Command) :
    Triple (own + held) (raw.step (F := F) newClient rawConfig schema standardVectorSize command)
      fun call own' => ∃ held', own' = own + held' ∧
        AnswerMatches call.1 (session.step newClient config info standardVectorSize command).1 ∧
        SessionMatches own call.2
          (session.step (F := F) newClient config info standardVectorSize command).2 held' := by
  cases command with
  | databasePath =>
    refine (hdocument.databaseName.leaves_frame held).leaves_bind (Triple.pure ?_)
    exact ⟨held, rfl, .path _, h⟩
  | openScan name query =>
    unfold Session.step SuperhumanDocs.Session.step
    dsimp only
    have hentry := hdocument.entries name
    generalize schema.lookupEntry name = rawEntry at hentry ⊢
    generalize info.lookupEntry name = entry at hentry ⊢
    cases hentry with
    | none => exact Triple.pure ⟨held, rfl, .unknown, h⟩
    | @some rawEntry entry hentry =>
      obtain ⟨-, table, htable, -⟩ := hentry.table.table
      have hbind : ReadsBindData own (bindData query rawEntry.table)
          (query.bindData entry.table) := ⟨hentry.table, rfl, rfl, rfl⟩
      have hopen := new_matches newClient hdocument.handle hbind htable query.projectionIds
        query.columnIndexes query.outputTypes
      have hmodel : query.openScan newClient config entry.table =
          SuperhumanDocs.RustBridgeScanGlobalState.new newClient config table
            (query.bindData entry.table) query.projectionIds query.columnIndexes
            query.outputTypes := by
        rw [Query.openScan, htable]
        rfl
      dsimp only
      rw [hmodel]
      refine hopen.frame_bind fun result own' hresult => ?_
      cases hnew : SuperhumanDocs.RustBridgeScanGlobalState.new newClient config table
        (query.bindData entry.table) query.projectionIds query.columnIndexes query.outputTypes with
      | error e =>
        rw [hnew] at hresult
        obtain ⟨⟨thrown, rfl, hsurfaces⟩, rfl⟩ := hresult
        exact Triple.pure ⟨held, rfl, .opened (.error hsurfaces), h⟩
      | ok state =>
        rw [hnew] at hresult
        obtain ⟨scan, new, rfl, rfl, hrefines⟩ := hresult
        refine Triple.pure ⟨held + new, by abel, .opened (.ok ()), ?_, h.replies⟩
        exact h.scans.concat hrefines
  | pull scan =>
    unfold Session.step SuperhumanDocs.Session.step
    dsimp only
    cases hscan : raw.scans[scan]? with
    | none =>
      have hmodel : session.scans[scan]? = none := by
        rw [List.getElem?_eq_none_iff] at hscan ⊢
        rwa [← h.scans.length_eq]
      rw [hmodel]
      exact Triple.pure ⟨held, rfl, .unknown, h⟩
    | some state =>
      obtain ⟨modelState, own₁, own₂, hmodel, hrefines, rfl, hset, -⟩ := h.scans.focus hscan
      rw [hmodel, ← add_assoc, h.replies]
      refine (rustBridgeScan_matches standardVectorSize hrefines session.replies).frame_bind ?_
      rintro call _ ⟨held', rfl, hcall⟩
      refine Triple.pure ⟨held' + own₂, add_assoc _ _ _, .chunk hcall.result, ?_, hcall.replies⟩
      exact hset _ _ _ hcall.state
  | close scan =>
    unfold Session.step SuperhumanDocs.Session.step
    dsimp only
    cases hscan : raw.scans[scan]? with
    | none =>
      have hmodel : session.scans[scan]? = none := by
        rw [List.getElem?_eq_none_iff] at hscan ⊢
        rwa [← h.scans.length_eq]
      rw [hmodel]
      exact Triple.pure ⟨held, rfl, .unknown, h⟩
    | some state =>
      obtain ⟨modelState, own₁, own₂, hmodel, hrefines, rfl, -, herase⟩ := h.scans.focus hscan
      rw [hmodel, show own + (own₁ + own₂) = own₁ + (own + own₂) by abel]
      refine hrefines.destroy.leaves_frame_bind (Triple.pure ?_)
      exact ⟨own₂, zero_add _, .closed, herase, h.replies⟩

/-- **Any commands, in any order**: by induction on them, the scans that are open stand for those
of the model throughout. -/
theorem run_matches (hdocument : ReadsDocument own rawConfig config schema info)
    (h : SessionMatches own raw session held) (commands : List Command) :
    Triple (own + held) (raw.run (F := F) newClient rawConfig schema standardVectorSize commands)
      fun call own' => ∃ held' scans, own' = own + held' ∧
        List.Forall₂ AnswerMatches call.1
          (session.run newClient config info standardVectorSize commands).1 ∧
        call.2.1 = (session.run (F := F) newClient config info standardVectorSize commands).2 ∧
        Each (Refines own) call.2.2.scans scans held' := by
  induction commands generalizing raw session held with
  | nil => exact Triple.pure ⟨held, session.scans, rfl, .nil, rfl, h.scans⟩
  | cons command commands ih =>
    unfold Session.run SuperhumanDocs.Session.run
    refine (step_matches newClient standardVectorSize hdocument h command).bind ?_
    rintro ⟨answer, raw'⟩ _ ⟨held', rfl, hanswer, hsession⟩
    generalize session.step (F := F) newClient config info standardVectorSize command = call
      at hanswer hsession ⊢
    obtain ⟨modelAnswer, session'⟩ := call
    dsimp only
    rw [hanswer.isWaiting]
    cases modelAnswer.isWaiting with
    | true =>
      exact Triple.pure ⟨held', session'.scans, rfl, .cons hanswer .nil, rfl, hsession.scans⟩
    | false =>
      refine (ih hsession).bind ?_
      rintro ⟨answers, waiting, final⟩ _ ⟨held'', scans, rfl, hanswers, hwaiting, hscans⟩
      exact Triple.pure ⟨held'', scans, rfl, .cons hanswer hanswers, hwaiting, hscans⟩

omit [Allocator Block] [SerdeJson] in
/-- **A detached document leaves nothing.** -/
theorem detach_spec {catalog : RustExtCatalog} {tables : List (Table × List Column)}
    {catalogOwn : Owned Block} {handle : ℕ} {scans : List RustBridgeScanGlobalState}
    {infos : List SuperhumanDocs.RustBridgeScanGlobalState}
    (hcatalog : IsCatalog catalog tables catalogOwn)
    (hscans : Each (Refines own) scans infos held) :
    Triple (held + (catalogOwn + cell handle (.config config)))
      (detach (attachConfigRecord handle config) catalog scans) (Leaves () 0) := by
  refine (hscans.forM fun _ _ _ hscan => hscan.destroy).leaves_frame_bind ?_
  rw [zero_add]
  refine hcatalog.free.leaves_frame_bind ?_
  rw [zero_add]
  exact dropHandle_spec handle config

variable (F) in
/-- **The life of an attached document**: on any heap, the answers of the model; unless a call still
waits for the server, everything is freed. -/
theorem attachedSession_matches (config : ClientConfig) (commands : List Command)
    (replies : List Reply) (heap : Heap Block) :
    ∃ outcome left,
      attachedSession F newClient config standardVectorSize commands replies heap =
        some (outcome, left) ∧
      SameResult (Surfaces loadContext) outcome.attached
        (SuperhumanDocs.attachedSession F newClient config standardVectorSize commands
          replies).attached ∧
      List.Forall₂ AnswerMatches outcome.answers
        (SuperhumanDocs.attachedSession F newClient config standardVectorSize commands
          replies).answers ∧
      outcome.waiting = (SuperhumanDocs.attachedSession F newClient config standardVectorSize
        commands replies).waiting ∧
      (outcome.waiting = false → left = heap) := by
  have hsession : Triple 0 (attachedSession F newClient config standardVectorSize commands replies)
      fun outcome own =>
        SameResult (Surfaces loadContext) outcome.attached (SuperhumanDocs.attachedSession F
          newClient config standardVectorSize commands replies).attached ∧
        List.Forall₂ AnswerMatches outcome.answers (SuperhumanDocs.attachedSession F
          newClient config standardVectorSize commands replies).answers ∧
        outcome.waiting = (SuperhumanDocs.attachedSession F newClient config standardVectorSize
          commands replies).waiting ∧ (outcome.waiting = false → own = 0) := by
    unfold attachedSession SuperhumanDocs.attachedSession
    rw [loadCatalog_eq_listTables]
    refine (Triple.alloc (Block.config config)).bind ?_
    rintro handle _ rfl
    have hconfig := refFromRaw_spec (α := ClientConfig) handle config "client config"
    refine (rustBridgeListTables_matches newClient hconfig replies).bind ?_
    rintro ⟨response, left⟩ own ⟨rfl, hresponse⟩
    unfold CatalogCall.map
    dsimp only
    cases hresult : (listTables newClient config replies).result with
    | error stop =>
      rw [hresult] at hresponse
      obtain ⟨rfl, rfl⟩ := hresponse
      cases stop with
      | waiting => exact Triple.pure ⟨.error .waiting, .nil, rfl, by simp⟩
      | failed message =>
        refine (dropHandle_spec handle config).leaves_bind (Triple.pure ?_)
        exact ⟨.error (.rust message), .nil, rfl, fun _ => rfl⟩
    | ok tables =>
      rw [hresult] at hresponse
      obtain ⟨catalog, new, rfl, rfl, hcatalog⟩ := hresponse
      dsimp only [Except.map]
      rw [add_comm]
      refine (schema_matches hcatalog (cell handle (.config config))).bind ?_
      rintro schema _ ⟨rfl, hentries⟩
      have hdocument : ReadsDocument (new + cell handle (.config config))
          (attachConfigRecord handle config) config schema (schemaInfo F tables) := by
        refine ⟨?_, ?_, hentries⟩
        · rw [add_comm]
          exact hconfig.leaves_frame new
        · rw [add_comm]
          exact (borrowString_asStr rfl).leaves_frame new
      have hstart : SessionMatches (new + cell handle (.config config))
          { scans := [], replies := (listTables newClient config replies).replies }
          { scans := [], replies := (listTables newClient config replies).replies } 0 :=
        ⟨.nil, rfl⟩
      have hrun := run_matches (F := F) newClient standardVectorSize hdocument hstart commands
      rw [add_zero] at hrun
      refine hrun.bind ?_
      rintro ⟨answers, waiting, final⟩ _ ⟨held, scans, rfl, hanswers, rfl, hscans⟩
      dsimp only
      by_cases hwaiting : ((SuperhumanDocs.Session.run (F := F) newClient config
          (schemaInfo F tables) standardVectorSize commands
          { scans := [], replies := (listTables newClient config replies).replies }).2) = true
      · rw [if_pos hwaiting]
        exact Triple.pure ⟨.ok (), hanswers, rfl, by simp [hwaiting]⟩
      · rw [if_neg hwaiting, add_comm]
        refine (detach_spec hcatalog hscans).leaves_bind (Triple.pure ?_)
        exact ⟨.ok (), hanswers, rfl, fun _ => rfl⟩
  obtain ⟨outcome, own, left, hrun, ⟨hattached, hanswers, hwaiting, hown⟩, hheap⟩ :=
    hsession.run heap
  exact ⟨outcome, left, hrun, hattached, hanswers, hwaiting, fun h => hheap (hown h)⟩

/-! ## Writes -/

theorem pendingCall_spec (hentries : ∀ name, Option.Rel (IsEntry own) (schema.lookupEntry name)
    (info.lookupEntry name)) (pending : PendingWrite F) :
    Triple own (pendingCall schema pending) (Leaves (pending.call info) own) := by
  unfold pendingCall PendingWrite.call
  have hentry := hentries pending.table
  generalize schema.lookupEntry pending.table = rawEntry at hentry ⊢
  generalize info.lookupEntry pending.table = entry at hentry ⊢
  cases hentry with
  | none => exact Triple.pure ⟨rfl, rfl⟩
  | @some rawEntry entry hentry =>
    have hsink : IsSink own (writeSink pending.write rawEntry.table)
        (pending.write.sink entry.table) := by
      cases pending.write with
      | insert => exact .insert hentry.table
      | update assignments => exact .update assignments hentry.table
      | delete rowIdIndex => exact .delete rowIdIndex hentry.table
    exact (Sink.call_matches hsink pending.chunk).leaves_bind (Triple.pure ⟨rfl, rfl⟩)

/-- **The calls of an attached document**: on any heap, Rust reads the calls of the model; unless
the catalog is still awaited, everything is freed. -/
theorem attachedWrites_matches (config : ClientConfig) (writes : List (PendingWrite F))
    (replies : List Reply) (heap : Heap Block) :
    ∃ calls left,
      attachedWrites newClient config writes replies heap = some (calls, left) ∧
      SameResult (Surfaces loadContext) calls
        (SuperhumanDocs.attachedWrites newClient config writes replies) ∧
      (calls ≠ .error none → left = heap) := by
  have hwrites : Triple 0 (attachedWrites newClient config writes replies) fun calls own =>
      SameResult (Surfaces loadContext) calls
        (SuperhumanDocs.attachedWrites newClient config writes replies) ∧
      (calls ≠ .error none → own = 0) := by
    unfold attachedWrites SuperhumanDocs.attachedWrites
    rw [loadCatalog_eq_listTables]
    refine (Triple.alloc (Block.config config)).bind ?_
    rintro handle _ rfl
    have hconfig := refFromRaw_spec (α := ClientConfig) handle config "client config"
    refine (rustBridgeListTables_matches newClient hconfig replies).bind ?_
    rintro ⟨response, left⟩ own ⟨rfl, hresponse⟩
    unfold CatalogCall.map
    dsimp only
    cases hresult : (listTables newClient config replies).result with
    | error stop =>
      rw [hresult] at hresponse
      obtain ⟨rfl, rfl⟩ := hresponse
      cases stop with
      | waiting => exact Triple.pure ⟨.error .waiting, fun h => absurd rfl h⟩
      | failed message =>
        refine (dropHandle_spec handle config).leaves_bind (Triple.pure ?_)
        exact ⟨.error (.rust message), fun _ => rfl⟩
    | ok tables =>
      rw [hresult] at hresponse
      obtain ⟨catalog, new, rfl, rfl, hcatalog⟩ := hresponse
      dsimp only [Except.map]
      rw [add_comm]
      refine (schema_matches hcatalog (cell handle (.config config))).bind ?_
      rintro schema own ⟨rfl, hentries⟩
      have hwrites : List.Forall₂ Eq writes writes := List.forall₂_same.2 fun _ _ => rfl
      refine (Triple.mapM_leaves (g := fun pending => PendingWrite.call pending (schemaInfo F tables))
        hwrites ?_).leaves_bind ?_
      · rintro pending _ rfl
        exact pendingCall_spec hentries pending
      · have hnone : Each (Refines 0) [] [] (0 : Owned Block) := .nil
        rw [← zero_add (new + _)]
        exact (detach_spec hcatalog hnone).leaves_bind (Triple.pure ⟨.ok _, fun _ => rfl⟩)
  obtain ⟨calls, own, left, hrun, ⟨hcalls, hown⟩, hheap⟩ := hwrites.run heap
  exact ⟨calls, left, hrun, hcalls, fun h => hheap (hown h)⟩

end

/-! ## A document with one table -/

open Json.Reference Memory.Bump Reference
open Binary (Binary64)

/-- A scan of the row ids and the texts. -/
def textQuery : Query where
  pushedQuery := ""
  pushedQueryDescription := ""
  pushedSortBy := ""
  pushedLimit := 0
  projectionIds := []
  columnIndexes := [⟨columnIdentifierRowId⟩, ⟨0⟩]
  outputTypes := [.varchar, .varchar]

/-- Two scans are opened; one is pulled and closed, the other is left to the detach. -/
def textCommands : List Command :=
  [.databasePath, .openScan "Tasks" textQuery, .openScan "Tasks" textQuery, .pull 0, .close 0,
    .pull 7]

def textSchema : SuperhumanDocs.RustBridgeSchemaCatalogEntry :=
  .new Binary64 [SuperhumanDocs.ffiCatalogTable table [textColumn "c1"]]

theorem step_openText (scans : List SuperhumanDocs.RustBridgeScanGlobalState)
    (replies : List Reply) :
    SuperhumanDocs.Session.step (F := Binary64) (fun _ => .ok ()) config textSchema 2048
        ⟨scans, replies⟩ (.openScan "Tasks" textQuery) =
      (.opened (.ok ()), ⟨scans ++ [scanState 0], replies⟩) := by
  have hopen : textQuery.openScan (fun _ => .ok ()) config (Reference.bindData 0).table =
      .ok (scanState 0) := rfl
  simp only [SuperhumanDocs.Session.step, textSchema, lookupEntry_document, hopen]

theorem step_pullText (scans : List SuperhumanDocs.RustBridgeScanGlobalState) :
    ∃ state left, SuperhumanDocs.Session.step (F := Binary64) (fun _ => .ok ()) config textSchema
        2048 ⟨scanState 0 :: scans, [reply 200 (rowsJson [("r1", false)] "" "")]⟩ (.pull 0) =
      (.chunk (.ok [[.text "r1" "", .text "Task r1" ""]]), ⟨state :: scans, left⟩) := by
  simp only [SuperhumanDocs.Session.step, List.getElem?_cons_zero, rustBridgeScan_page]
  exact ⟨_, _, rfl⟩

/-- A command that does not wait, and the rest. -/
theorem run_textCons {session session' : SuperhumanDocs.Session} {command : Command}
    {commands : List Command} {answer : SessionAnswer Stop Binary64}
    (hstep : session.step (fun _ => .ok ()) config textSchema 2048 command = (answer, session'))
    (hwaits : answer.isWaiting = false) :
    session.run (fun _ => .ok ()) config textSchema 2048 (command :: commands) =
      (answer :: (session'.run (fun _ => .ok ()) config textSchema 2048 commands).1,
        (session'.run (F := Binary64) (fun _ => .ok ()) config textSchema 2048 commands).2) := by
  simp only [SuperhumanDocs.Session.run, hstep, hwaits, Bool.false_eq_true, if_false]

theorem attachedSession_document :
    SuperhumanDocs.attachedSession Binary64 (fun _ => .ok ()) config 2048 textCommands
        (catalogReplies [textColumn "c1"] [("t1", "Tasks")] ++
          [reply 200 (rowsJson [("r1", false)] "" "")]) =
      { attached := .ok ()
        answers := [.path "doc", .opened (.ok ()), .opened (.ok ()),
          .chunk (.ok [[.text "r1" "", .text "Task r1" ""]]), .closed, .unknown]
        waiting := false } := by
  generalize hreplies : [reply 200 (rowsJson [("r1", false)] "" "")] = replies
  have hpath : SuperhumanDocs.Session.step (F := Binary64) (fun _ => .ok ()) config textSchema 2048
      ⟨[], replies⟩ .databasePath = (.path "doc", ⟨[], replies⟩) := rfl
  have hfirst := step_openText [] replies
  have hsecond := step_openText [scanState 0] replies
  rw [List.nil_append] at hfirst
  rw [List.singleton_append] at hsecond
  obtain ⟨state, left, hpull⟩ := step_pullText [scanState 0]
  have hclose : SuperhumanDocs.Session.step (F := Binary64) (fun _ => .ok ()) config textSchema 2048
      ⟨[state, scanState 0], left⟩ (.close 0) = (.closed, ⟨[scanState 0], left⟩) := rfl
  have hnone : SuperhumanDocs.Session.step (F := Binary64) (fun _ => .ok ()) config textSchema 2048
      ⟨[scanState 0], left⟩ (.pull 7) = (.unknown, ⟨[scanState 0], left⟩) := rfl
  rw [hreplies] at hpull
  have hrun : SuperhumanDocs.Session.run (F := Binary64) (fun _ => .ok ()) config textSchema 2048
      textCommands ⟨[], replies⟩ =
      ([.path "doc", .opened (.ok ()), .opened (.ok ()),
        .chunk (.ok [[.text "r1" "", .text "Task r1" ""]]), .closed, .unknown], false) := by
    rw [textCommands, run_textCons hpath rfl, run_textCons hfirst rfl, run_textCons hsecond rfl,
      run_textCons hpull rfl, run_textCons hclose rfl, run_textCons hnone rfl]
    rfl
  exact attachedSession_eq (loadCatalog_document replies) hrun

theorem attachedSession_matches_scan : ∃ outcome,
    attachedSession Binary64 (fun _ => .ok ()) config 2048 textCommands
        (catalogReplies [textColumn "c1"] [("t1", "Tasks")] ++
          [reply 200 (rowsJson [("r1", false)] "" "")]) ∅ = some (outcome, (∅ : Heap Block)) ∧
    outcome.attached = .ok () ∧
    List.Forall₂ AnswerMatches outcome.answers [.path "doc", .opened (.ok ()), .opened (.ok ()),
      .chunk (.ok [[.text "r1" "", .text "Task r1" ""]]), .closed, .unknown] := by
  obtain ⟨outcome, left, hrun, hattached, hanswers, hwaiting, hheap⟩ :=
    attachedSession_matches Binary64 (fun _ => .ok ()) 2048 config textCommands
      (catalogReplies [textColumn "c1"] [("t1", "Tasks")] ++
        [reply 200 (rowsJson [("r1", false)] "" "")]) ∅
  rw [attachedSession_document] at hattached hanswers hwaiting
  cases hheap hwaiting
  refine ⟨outcome, hrun, ?_, hanswers⟩
  generalize outcome.attached = attached at hattached
  cases hattached
  rfl

/-- A row is inserted, the text of a row is set, and a row is deleted. -/
def textWrites : List (PendingWrite Binary64) :=
  [{ table := "Tasks"
     write := .insert
     chunk := { columnCount := 1, rows := [[.text "Ada" ""]], rows_length := by simp } },
    { table := "Tasks"
      write := .update [⟨0, .boundRef 0⟩]
      chunk :=
        { columnCount := 2, rows := [[.text "Bob" "", .text "r1" ""]], rows_length := by simp } },
    { table := "Tasks"
      write := .delete 0
      chunk := { columnCount := 1, rows := [[.text "r2" ""]], rows_length := by simp } }]

def textInput (text : String) : SuperhumanDocs.RustExtInputValue Binary64 :=
  { SuperhumanDocs.RustExtInputValue.zero with
    valueType := rustExtInputString
    stringValue := text }

def textWriteColumn : SuperhumanDocs.RustExtWriteColumn where
  handle := some (textColumn "c1")
  capabilities := (textColumn "c1").capabilities

theorem attachedWrites_matches_chunks :
    attachedWrites (fun _ => .ok ()) config textWrites
        (catalogReplies [textColumn "c1"] [("t1", "Tasks")]) ∅ =
      some (.ok [some (.ok (.insert [textWriteColumn] [textInput "Ada"] 1 1)),
        some (.ok (.update ["r1"] [textWriteColumn] [textInput "Bob"])),
        some (.ok (.delete ["r2"]))], (∅ : Heap Block)) := by
  obtain ⟨calls, left, hrun, hcalls, hheap⟩ := attachedWrites_matches (fun _ => .ok ()) config
    textWrites (catalogReplies [textColumn "c1"] [("t1", "Tasks")]) ∅
  have hloaded := loadCatalog_document []
  rw [List.append_nil] at hloaded
  have hmodel : SuperhumanDocs.attachedWrites (fun _ => .ok ()) config textWrites
      (catalogReplies [textColumn "c1"] [("t1", "Tasks")]) =
      .ok [some (.ok (.insert [textWriteColumn] [textInput "Ada"] 1 1)),
        some (.ok (.update ["r1"] [textWriteColumn] [textInput "Bob"])),
        some (.ok (.delete ["r2"]))] := by
    rw [attachedWrites_eq hloaded, textWrites, List.map_cons, List.map_cons, List.map_singleton,
      PendingWrite.call_eq lookupEntry_document, PendingWrite.call_eq lookupEntry_document,
      PendingWrite.call_eq lookupEntry_document]
    rfl
  rw [hmodel] at hcalls
  cases hcalls
  rw [hrun, hheap (by simp)]

end SuperhumanDocs.Raw
