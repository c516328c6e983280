import SuperhumanDocs.Layout.RowMajor
import SuperhumanDocs.Mutation.Reference
import SuperhumanDocs.Proof.Transaction

/-!
# Payloads and the chunks they come from

The values of a chunk are passed to Rust row by row and read back there by index. Every cell that
is sent is one of an editable column, with the value that the chunk has for it in that row.

* `insertRow_cells`, `updateRow_cells`: the cells of one row.
* `dml_aligned`: the payloads and the requests of a chunk.
-/

set_option autoImplicit false

namespace SuperhumanDocs

open Binary (Binary64 F64)
open Effect (Outcome Succeeds bind_eq_ok mapM_eq_ok pure_eq_ok runFrom succeeds_mapError)
open Json (SerdeJson)
open Layout (Addressable)

section
variable {F : Type} [F64 F] [SerdeJson]

/-! ## Cells -/

/-- A cell is written for an editable column, unless it is left out as a NULL. -/
theorem writeCell_isSome {omitNulls : Bool} {column : RustExtWriteColumn}
    {value : RustExtInputValue F} {cell : Option (Operations.CellEdit F)}
    (h : writeCell omitNulls column value = .ok cell) :
    cell.isSome = (supports column.capabilities rustExtColumnEditable &&
      decide (value.valueType ≠ rustExtInputNull)) ∧
    (supports column.capabilities rustExtColumnEditable = true → omitNulls = false →
      value.valueType ≠ rustExtInputNull) := by
  unfold writeCell at h
  by_cases heditable : supports column.capabilities rustExtColumnEditable = true
  · rw [if_neg (by simp [heditable])] at h
    by_cases hnull : value.valueType = rustExtInputNull
    · rw [if_pos hnull] at h
      cases omitNulls with
      | true =>
        cases h
        simp [hnull]
      | false => cases h
    · rw [if_neg hnull] at h
      obtain ⟨column', -, h⟩ := bind_eq_ok.1 h
      obtain ⟨value', -, h⟩ := bind_eq_ok.1 h
      cases h
      simp [heditable, hnull]
  · rw [if_pos (by simpa using heditable)] at h
    cases h
    simp [heditable]

theorem writeCell_some {omitNulls : Bool} {column : RustExtWriteColumn}
    {value : RustExtInputValue F} {cell : Operations.CellEdit F}
    (h : writeCell omitNulls column value = .ok (some cell)) :
    ∃ column', column.handle = some column' ∧ cell.column = column'.id ∧
      cellValue column' value = .ok cell.value := by
  unfold writeCell at h
  split at h
  · cases h
  split at h
  · split at h
    · cases h
    · cases h
  obtain ⟨column', hcolumn, h⟩ := bind_eq_ok.1 h
  obtain ⟨value', hvalue, h⟩ := bind_eq_ok.1 h
  cases h
  refine ⟨column', ?_, rfl, hvalue⟩
  cases hhandle : column.handle with
  | none =>
    rw [hhandle] at hcolumn
    cases hcolumn
  | some column =>
    rw [hhandle] at hcolumn
    cases hcolumn
    rfl

/-- **The cells of a row**, from the columns and values that are not left out. -/
theorem writeCells_forall₂ {columns : List RustExtWriteColumn}
    {values : List (RustExtInputValue F)} {omitNulls : Bool} {row : Operations.RowEdit F}
    (h : writeCells columns values omitNulls = .ok row) : ∃ cells, row.cells = cells.reduceOption ∧
      List.Forall₂ (fun pair cell => writeCell omitNulls pair.1 pair.2 = .ok cell)
        (columns.zip values) cells := by
  obtain ⟨cells, hcells, h⟩ := bind_eq_ok.1 h
  cases h
  exact ⟨cells, rfl, mapM_eq_ok.1 hcells⟩

end

/-! ## Rows -/

section
variable {F : Type}

theorem chunkValue_eq_ok {row : List (DuckValue F)} {index : Nat} {value : DuckValue F} :
    chunkValue row index = .ok value ↔ row[index]? = some value := by
  unfold chunkValue
  cases row[index]? <;> simp

def RustBridgeColumnInfo.editable (info : RustBridgeColumnInfo) : Bool :=
  supports info.column.capabilities rustExtColumnEditable

def Assignment.editable (table : RustBridgeTableInfo) (assignment : Assignment) : Bool :=
  (table.columns[assignment.column]?).any RustBridgeColumnInfo.editable

theorem supports_updateColumn (table : RustBridgeTableInfo) (assignment : Assignment) :
    supports (updateColumn table assignment).capabilities rustExtColumnEditable =
      assignment.editable table := by
  unfold updateColumn Assignment.editable
  cases table.columns[assignment.column]? with
  | none => rfl
  | some info => rfl

variable [F64 F] [SerdeJson] [DuckDb F]

/-- The cell has the id of the column and the value, as a value of that column. -/
def Carries (info : RustBridgeColumnInfo) (value : DuckValue F) (cell : Operations.CellEdit F) :
    Prop :=
  ∃ column input, info.column.handle = some column ∧ convert value = .ok input ∧
    cell.column = column.id ∧ cellValue column input = .ok cell.value

/-- The cells of an inserted row: one for each editable column that is not NULL, in their order. -/
structure InsertsRow (table : RustBridgeTableInfo) (row : List (DuckValue F))
    (edit : Operations.RowEdit F) : Prop where
  width : table.columns.length ≤ row.length
  cells : List.Forall₂ (fun pair cell => Carries pair.1 pair.2 cell)
    ((table.columns.zip row).filter fun pair => pair.1.editable && !pair.2.isNull) edit.cells

/-- The cells of an updated row: one for each assignment to an editable column, in their order. -/
def UpdatesRow (table : RustBridgeTableInfo) (assignments : List Assignment)
    (row : List (DuckValue F)) (edit : Operations.RowEdit F) : Prop :=
  List.Forall₂ (fun assignment cell => ∃ info index value,
    table.columns[assignment.column]? = some info ∧ assignment.expression = .boundRef index ∧
      row[index]? = some value ∧ Carries info value cell)
    (assignments.filter (Assignment.editable table)) edit.cells

/-- NULL is passed as NULL, and nothing else is. -/
theorem convert_ne_null {value : DuckValue F} {input : RustExtInputValue F}
    (h : convert value = .ok input) :
    decide (input.valueType ≠ rustExtInputNull) = !value.isNull := by
  rw [convert_valueType h]
  cases hnull : value.isNull with
  | true =>
    cases value with
    | null type => rfl
    | _ => cases hnull
  | false => simpa using inputType_ne_null hnull

theorem inputs_take {row : List (DuckValue F)} {width : Nat} {inputs : List (RustExtInputValue F)}
    (h : List.Forall₂ (fun index input => (do convert (← chunkValue row index)) = .ok input)
      (List.range width) inputs) :
    width ≤ row.length ∧
      List.Forall₂ (fun value input => convert value = .ok input) (row.take width) inputs := by
  have hinput : ∀ index (hindex : index < inputs.length), ∃ value, row[index]? = some value ∧
      convert value = .ok inputs[index] := by
    intro index hindex
    have hget := h.get (h.length_eq ▸ hindex) hindex
    rw [List.get_eq_getElem, List.get_eq_getElem, List.getElem_range] at hget
    obtain ⟨value, hvalue, hconvert⟩ := bind_eq_ok.1 hget
    exact ⟨value, chunkValue_eq_ok.1 hvalue, hconvert⟩
  have hlength : inputs.length = width := by simpa using h.length_eq.symm
  have hwidth : width ≤ row.length := by
    by_contra hlt
    obtain ⟨value, hvalue, -⟩ := hinput row.length (by omega)
    rw [List.getElem?_eq_none (Nat.le_refl _)] at hvalue
    cases hvalue
  refine ⟨hwidth, List.forall₂_of_length_eq_of_get (by simp; omega) ?_⟩
  intro index hindex hindex'
  obtain ⟨value, hvalue, hconvert⟩ := hinput index hindex'
  obtain ⟨hrow, rfl⟩ := List.getElem?_eq_some_iff.1 hvalue
  simpa using hconvert

theorem insertRow_cells {table : RustBridgeTableInfo} {row : List (DuckValue F)}
    {inputs : List (RustExtInputValue F)} {edit : Operations.RowEdit F}
    (hinputs : List.Forall₂ (fun index input => (do convert (← chunkValue row index)) = .ok input)
      (List.range table.columns.length) inputs)
    (h : writeCells (editableColumns table) inputs true = .ok edit) : InsertsRow table row edit := by
  obtain ⟨hwidth, htaken⟩ := inputs_take hinputs
  obtain ⟨cells, hcells, hwritten⟩ := writeCells_forall₂ h
  rw [editableColumns, List.zip_map_left, List.forall₂_map_left_iff] at hwritten
  have hpairs := Layout.forall₂_through (Layout.forall₂_zip htaken) hwritten
  refine ⟨hwidth, ?_⟩
  rw [hcells]
  refine (Layout.forall₂_reduceOption hpairs ?_).imp ?_
  · rintro ⟨info, value⟩ cell ⟨⟨info', input⟩, ⟨hinfo, hconvert⟩, hcell⟩
    obtain rfl : info' = info := hinfo
    have hsome := (writeCell_isSome hcell).1
    rw [hsome]
    exact congrArg (info'.editable && ·) (convert_ne_null hconvert)
  · rintro ⟨info, value⟩ cell ⟨⟨info', input⟩, ⟨hinfo, hconvert⟩, hcell⟩
    obtain rfl : info' = info := hinfo
    obtain ⟨column, hcolumn, hid, hvalue⟩ := writeCell_some hcell
    exact ⟨column, input, hcolumn, hconvert, hid, hvalue⟩

theorem assignment_cell {table : RustBridgeTableInfo} {row : List (DuckValue F)}
    {assignment : Assignment} {input : RustExtInputValue F} {cell : Operations.CellEdit F}
    (hinput : updateValue table row assignment = .ok input)
    (hcell : writeCell false (updateColumn table assignment) input = .ok (some cell)) :
    ∃ info index value, table.columns[assignment.column]? = some info ∧
      assignment.expression = .boundRef index ∧ row[index]? = some value ∧
      Carries info value cell := by
  obtain ⟨column, hcolumn, hid, hvalue⟩ := writeCell_some hcell
  unfold updateColumn at hcolumn
  unfold updateValue at hinput
  cases hinfo : table.columns[assignment.column]? with
  | none =>
    rw [hinfo] at hcolumn
    cases hcolumn
  | some info =>
    simp only [hinfo] at hcolumn hinput
    cases hexpression : assignment.expression with
    | boundRef index =>
      simp only [hexpression] at hinput
      obtain ⟨value, hrow, hconvert⟩ := bind_eq_ok.1 hinput
      exact ⟨info, index, value, rfl, rfl, chunkValue_eq_ok.1 hrow, column, input, hcolumn,
        hconvert, hid, hvalue⟩
    | valueDefault =>
      -- The default is NULL, which is never written.
      simp only [hexpression] at hinput
      have hnull := (writeCell_isSome hcell).1
      rw [convert_ne_null hinput] at hnull
      simp [DuckValue.isNull] at hnull
    | other =>
      simp only [hexpression] at hinput
      cases hinput

theorem updateRow_cells {table : RustBridgeTableInfo} {assignments : List Assignment}
    {row : List (DuckValue F)} {inputs : List (RustExtInputValue F)} {edit : Operations.RowEdit F}
    (hinputs : List.Forall₂ (fun assignment input => updateValue table row assignment = .ok input)
      assignments inputs)
    (h : writeCells (assignments.map (updateColumn table)) inputs false = .ok edit) :
    UpdatesRow table assignments row edit := by
  obtain ⟨cells, hcells, hwritten⟩ := writeCells_forall₂ h
  rw [List.zip_map_left, List.forall₂_map_left_iff] at hwritten
  have hpairs := Layout.forall₂_through (Layout.forall₂_zip_self hinputs) hwritten
  rw [UpdatesRow, hcells]
  refine (Layout.forall₂_reduceOption hpairs ?_).imp ?_
  · rintro assignment cell ⟨⟨assignment', input⟩, ⟨hsame, hinput⟩, hcell⟩
    obtain rfl : assignment' = assignment := hsame
    obtain ⟨hsome, hnull⟩ := writeCell_isSome hcell
    rw [hsome]
    dsimp only [Prod.map]
    rw [supports_updateColumn]
    cases heditable : assignment'.editable table with
    | false => rfl
    | true =>
      have hne := hnull ((supports_updateColumn table assignment').trans heditable) rfl
      simpa using hne
  · rintro assignment cell ⟨⟨assignment', input⟩, ⟨hsame, hinput⟩, hcell⟩
    obtain rfl : assignment' = assignment := hsame
    exact assignment_cell hinput hcell

/-! ## Chunks -/

variable {info : RustBridgeTableInfo} {assignments : List Assignment} {chunk : DataChunk F}

/-- The values of an insert are those of its rows, one row after the other. -/
theorem insertCall_eq_ok {call : Dml F} (h : insertCall info chunk = .ok call) :
    ∃ rows, List.Forall₂ (fun row inputs => List.Forall₂ (fun index input =>
        (do convert (← chunkValue row index)) = .ok input) (List.range info.columns.length) inputs)
        chunk.rows rows ∧
      call = .insert (editableColumns info) rows.flatten chunk.rows.length info.columns.length := by
  obtain ⟨rows, hrows, h⟩ := bind_eq_ok.1 h
  cases h
  exact ⟨rows, (mapM_eq_ok.1 hrows).imp fun _ _ hrow => mapM_eq_ok.1 hrow, rfl⟩

/-- The row ids and the values of an update are those of its rows. -/
theorem updateCall_eq_ok {call : Dml F} (h : updateCall info assignments chunk = .ok call) :
    ∃ rows : List (String × List (RustExtInputValue F)),
      List.Forall₂ (fun row passed => chunkRowId (chunk.columnCount - 1) row = .ok passed.1 ∧
        List.Forall₂ (fun assignment input => updateValue info row assignment = .ok input)
          assignments passed.2) chunk.rows rows ∧
      call = .update (rows.map Prod.fst) (assignments.map (updateColumn info))
        (rows.map Prod.snd).flatten := by
  obtain ⟨rows, hrows, h⟩ := bind_eq_ok.1 h
  cases h
  refine ⟨rows, (mapM_eq_ok.1 hrows).imp ?_, rfl⟩
  intro row passed hrow
  obtain ⟨rowId, hid, hrow⟩ := bind_eq_ok.1 hrow
  obtain ⟨values, hvalues, hrow⟩ := bind_eq_ok.1 hrow
  cases hrow
  exact ⟨hid, mapM_eq_ok.1 hvalues⟩

theorem insertPayload_aligned {columns : List RustExtWriteColumn}
    {values : List (RustExtInputValue F)} {rowCount width capabilities : Nat}
    {payload : Operations.RowsUpsert F}
    (hcall : insertCall info chunk = .ok (.insert columns values rowCount width))
    (h : insertPayload columns values rowCount width capabilities = .ok payload) :
    List.Forall₂ (InsertsRow info) chunk.rows payload.rows := by
  obtain ⟨rows, hrows, heq⟩ := insertCall_eq_ok hcall
  cases heq
  have hwidth : ∀ row ∈ rows, row.length = info.columns.length := by
    intro row hrow
    obtain ⟨index, hindex, rfl⟩ := List.getElem_of_mem hrow
    simpa using (hrows.get (hrows.length_eq ▸ hindex) hindex).length_eq.symm
  have hpayload := insertPayload_forall₂ h
  have hcount : payload.rows.length = chunk.rows.length := by simpa using hpayload.length_eq.symm
  refine List.forall₂_of_length_eq_of_get hcount.symm fun index hindex hindex' => ?_
  have hpassed : index < rows.length := hrows.length_eq ▸ hindex
  have hwritten := hpayload.get (by simpa using hindex) hindex'
  simp only [List.get_eq_getElem, List.getElem_range] at hwritten ⊢
  have hslice : rowValues rows.flatten index info.columns.length = rows[index] :=
    Layout.rowAt_flatten hwidth (List.getElem?_eq_getElem hpassed)
  rw [hslice] at hwritten
  exact insertRow_cells (hrows.get hindex hpassed) hwritten

def UpdatesChunkRow (config : ClientConfig) (info : RustBridgeTableInfo)
    (assignments : List Assignment) (rowIdIndex : Nat) (row : List (DuckValue F))
    (operation : Operation F) : Prop :=
  ∃ table rowId payload, info.table.handle = some table ∧ chunkRowId rowIdIndex row = .ok rowId ∧
    operation = updateRowOperation config table rowId payload ∧
    UpdatesRow info assignments row payload.row

/-- **The updates of a chunk are those of its first rows.** -/
theorem updates_aligned {config : ClientConfig} {table : Table} {rowIds : List String}
    {columns : List RustExtWriteColumn} {values : List (RustExtInputValue F)}
    {done rest : List (String × Nat)} {ops : List (Operation F)}
    (htable : info.table.handle = some table)
    (hcall : updateCall info assignments chunk = .ok (.update rowIds columns values))
    (hrows : rowIds.zipIdx = done ++ rest)
    (hops : List.Forall₂ (Updates config table columns values) done ops) :
    List.Forall₂ (UpdatesChunkRow config info assignments (chunk.columnCount - 1))
      (chunk.rows.take done.length) ops := by
  obtain ⟨passed, hpassed, heq⟩ := updateCall_eq_ok hcall
  cases heq
  have hwidth : ∀ inputs ∈ passed.map Prod.snd, inputs.length = assignments.length := by
    intro inputs hinputs
    obtain ⟨row, hrow, rfl⟩ := List.mem_map.1 hinputs
    obtain ⟨index, hindex, rfl⟩ := List.getElem_of_mem hrow
    exact (hpassed.get (hpassed.length_eq ▸ hindex) hindex).2.length_eq.symm
  have hdone : done.length ≤ chunk.rows.length := by
    have := congrArg List.length hrows
    simp only [List.length_zipIdx, List.length_map, List.length_append] at this
    rw [hpassed.length_eq]
    omega
  refine List.forall₂_of_length_eq_of_get
    (by rw [List.length_take, ← hops.length_eq]; omega) fun index hindex hindex' => ?_
  have hlt : index < done.length := hops.length_eq ▸ hindex'
  have hrow : index < chunk.rows.length := by omega
  have hpass : index < passed.length := hpassed.length_eq ▸ hrow
  obtain ⟨payload, hpayload, hop⟩ := hops.get hlt hindex'
  have hentry : done[index] = (passed[index].1, index) := by
    have : (done ++ rest)[index]? = ((passed.map Prod.fst).zipIdx)[index]? := by rw [hrows]
    rw [List.getElem?_append_left hlt, List.getElem?_eq_getElem hlt] at this
    simpa [List.getElem?_eq_getElem hpass] using this
  simp only [List.get_eq_getElem, List.getElem_take] at hpayload hop ⊢
  rw [hentry] at hpayload hop
  have hslice : rowValues (passed.map Prod.snd).flatten index assignments.length =
      passed[index].2 :=
    Layout.rowAt_flatten hwidth (by simp [List.getElem?_eq_getElem hpass])
  have hwritten := updatePayload_row hpayload
  rw [List.length_map, hslice] at hwritten
  obtain ⟨hid, hinputs⟩ := hpassed.get hrow hpass
  exact ⟨table, _, payload, htable, hid, hop, updateRow_cells hinputs hwritten⟩

end

/-! ## The requests of a chunk -/

section
variable {F σ : Type} [F64 F] [SerdeJson] [DuckDb F] (w : World F σ) (config : ClientConfig)
  (info : RustBridgeTableInfo) (assignments : List Assignment) (chunk : DataChunk F) (s : σ)

omit [F64 F] [DuckDb F] in
/-- A settled or broken request is the only mutation of its call. -/
theorem mutations_of_settles {operation : Operation F} {t : List (Call F)}
    (hop : operation.isMutation = true)
    (h : Settles config operation t ∨ Breaks config operation t) : mutations t = [operation] := by
  rcases h with ⟨reply, rest, rfl, hwaits, -⟩ | ⟨reply, rest, rfl, hwaits, -⟩
  · exact mutations_cons reply hop hwaits
  · exact mutations_cons reply hop hwaits

theorem insertChunk_aligned :
    (mutations (chunkOutcome w config (.insert info) chunk s).events = [] ∧
      ¬ Succeeds (chunkOutcome w config (.insert info) chunk s).result) ∨
    ∃ table payload, info.table.handle = some table ∧
      mutations (chunkOutcome w config (.insert info) chunk s).events =
        [upsertRowsOperation config table payload] ∧
      List.Forall₂ (InsertsRow info) chunk.rows payload.rows := by
  rcases chunkOutcome_cases w config (.insert info) chunk s with
    ⟨hnone, hfails⟩ | ⟨table, call, htable, hcall, hrun⟩
  · exact .inl ⟨congrArg mutations hnone, hfails⟩
  · obtain ⟨rows, -, rfl⟩ := insertCall_eq_ok hcall
    have hemits := (insertRows_emits w config table (editableColumns info) rows.flatten
      chunk.rows.length info.columns.length).outcome s
    rw [hrun, Outcome.mapError_events, Outcome.mapError_result, succeeds_mapError]
    rcases hemits with ⟨n, hn, payload, hpayload, h⟩ | ⟨e, he, h | ⟨payload, hpayload, h⟩⟩
    · exact .inr ⟨table, payload, htable, mutations_of_settles config rfl (.inl h),
        insertPayload_aligned hcall hpayload⟩
    · refine .inl ⟨congrArg mutations h, ?_⟩
      rintro ⟨n, hn⟩
      cases he.symm.trans hn
    · exact .inr ⟨table, payload, htable, mutations_of_settles config rfl (.inr h),
        insertPayload_aligned hcall hpayload⟩

theorem updateChunk_aligned : ∃ count,
    List.Forall₂ (UpdatesChunkRow config info assignments (chunk.columnCount - 1))
      (chunk.rows.take count)
      (mutations (chunkOutcome w config (.update info assignments) chunk s).events) ∧
    (Succeeds (chunkOutcome w config (.update info assignments) chunk s).result →
      count = chunk.rows.length) := by
  rcases chunkOutcome_cases w config (.update info assignments) chunk s with
    ⟨hnone, hfails⟩ | ⟨table, call, htable, hcall, hrun⟩
  · rw [hnone]
    exact ⟨0, .nil, fun hok => absurd hok hfails⟩
  · obtain ⟨passed, hpassed, rfl⟩ := updateCall_eq_ok hcall
    obtain ⟨done, rest, ops, hrows, hops, hinterrupted, hserved⟩ :=
      updateRows_interrupted w config table (passed.map Prod.fst)
        (assignments.map (updateColumn info)) (passed.map Prod.snd).flatten s
    rw [hrun, Outcome.mapError_events, Outcome.mapError_result, succeeds_mapError]
    refine ⟨done.length, ?_, fun hok => ?_⟩
    · have hmutations := hinterrupted.mutations
      rw [Dml.run, hmutations]
      exact updates_aligned htable hcall hrows hops
    · obtain ⟨rfl, -⟩ := hserved hok
      have := congrArg List.length hrows
      simp only [List.length_zipIdx, List.length_map, List.length_append, List.length_nil] at this
      rw [hpassed.length_eq]
      omega

/-- **Payloads are aligned with the chunk they come from**: those that Rust builds from the values
of a chunk, and those that are sent; and every slice of the values is in range. -/
theorem dml_aligned :
    (∀ columns values rowCount width capabilities payload,
      insertCall info chunk = .ok (.insert columns values rowCount width) →
      insertPayload columns values rowCount width capabilities = .ok payload →
      List.Forall₂ (InsertsRow info) chunk.rows payload.rows) ∧
    (mutations (chunkOutcome w config (.insert info) chunk s).events = [] ∧
        ¬ Succeeds (chunkOutcome w config (.insert info) chunk s).result ∨
      ∃ table payload, info.table.handle = some table ∧
        mutations (chunkOutcome w config (.insert info) chunk s).events =
          [upsertRowsOperation config table payload] ∧
        List.Forall₂ (InsertsRow info) chunk.rows payload.rows) ∧
    (∃ count, List.Forall₂ (UpdatesChunkRow config info assignments (chunk.columnCount - 1))
        (chunk.rows.take count)
        (mutations (chunkOutcome w config (.update info assignments) chunk s).events) ∧
      (Succeeds (chunkOutcome w config (.update info assignments) chunk s).result →
        count = chunk.rows.length)) ∧
    (∀ (columns : List RustExtWriteColumn) (values : List (RustExtInputValue F)) rowCount width,
      ¬ (width < columns.length ∨ values.length < Layout.word (rowCount * width)) →
      rowCount * width < 2 ^ 64 → ∀ index < rowCount, Addressable index width values.length) ∧
    (∀ (columns : List RustExtWriteColumn) (values : List (RustExtInputValue F)) rowIds,
      ¬ ShapeMismatch columns values rowIds → rowIds.length * columns.length < 2 ^ 64 →
      ∀ index < rowIds.length, Addressable index columns.length values.length) := by
  refine ⟨fun columns values rowCount width capabilities payload hcall hpayload =>
    insertPayload_aligned hcall hpayload, insertChunk_aligned w config info chunk s,
    updateChunk_aligned w config info assignments chunk s, ?_, ?_⟩
  · intro columns values rowCount width hshape hfits index hindex
    exact Layout.addressable hfits (by omega) hindex
  · intro columns values rowIds hshape hfits index hindex
    refine Layout.addressable hfits (Nat.le_of_eq ?_) hindex
    by_contra hne
    rw [Layout.word, Nat.mod_eq_of_lt hfits] at hne
    exact hshape (.inr fun hlength => hne hlength.symm)

end

open Json.Reference Reference

/-- A table whose second column is not editable. -/
def draftTable : RustBridgeTableInfo :=
  borrowRustBridgeTableInfo Binary64 (ffiCatalogTable table [formatColumn "c1" "Name" "text" false,
    { formatColumn "c2" "Size" "number" false with capabilities := rustExtColumnGenerated },
    formatColumn "c3" "Done" "checkbox" false])

def draftChunk : DataChunk Binary64 where
  columnCount := 3
  rows := [[.text "Ada" "", .int 1, .null .boolean], [.null .varchar, .int 2, .boolean true]]
  rows_length := by simp

/-- Neither the cells of that column are sent nor NULLs. -/
theorem dml_aligned_null : ∃ columns values payload,
    insertCall draftTable draftChunk = .ok (.insert columns values 2 3) ∧
    insertPayload columns values 2 3 table.capabilities = .ok payload ∧
    payload.rows = [⟨[⟨"c1", .scalar (.text "Ada")⟩]⟩, ⟨[⟨"c3", .scalar (.boolean true)⟩]⟩] ∧
    List.Forall₂ (InsertsRow draftTable) draftChunk.rows payload.rows := by
  have hcall : ∃ columns values,
      insertCall draftTable draftChunk = .ok (.insert columns values 2 3) ∧
      insertPayload columns values 2 3 table.capabilities = .ok
        { rows := [⟨[⟨"c1", .scalar (.text "Ada")⟩]⟩, ⟨[⟨"c3", .scalar (.boolean true)⟩]⟩]
          keyColumns := none } := ⟨_, _, rfl, by decide +kernel⟩
  obtain ⟨columns, values, hcall, hpayload⟩ := hcall
  exact ⟨columns, values, _, hcall, hpayload, rfl,
    (dml_aligned scripted config draftTable [] draftChunk ([], 0)).1 _ _ _ _ _ _ hcall hpayload⟩

end SuperhumanDocs
