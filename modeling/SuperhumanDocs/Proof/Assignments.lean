import SuperhumanDocs.Catalog
import SuperhumanDocs.Proof.Alignment

/-!
# Assignments that are dropped

An update writes no cell for a column that is not editable, and counts its row as affected all the
same.

* `rowKept_iff`: the assignments of one row that are written.
* `assignments_kept_iff`: when an update that returns has written all its assignments.
-/

set_option autoImplicit false

namespace SuperhumanDocs

open Binary (Binary64 F64)
open Effect (Succeeds runFrom)
open Json (SerdeJson)

section
variable {F : Type} [F64 F] [SerdeJson]

/-- A column with the value it is assigned in some row. -/
abbrev Assigned (F : Type) := RustExtWriteColumn × RustExtInputValue F

def Assigned.editable (assigned : Assigned F) : Bool :=
  supports assigned.1.capabilities rustExtColumnEditable

/-- The cell is one of the column, with the value as a value of the column. -/
def Assigned.Cell (assigned : Assigned F) (cell : Operations.CellEdit F) : Prop :=
  ∃ column, assigned.1.handle = some column ∧ cell.column = column.id ∧
    cellValue column assigned.2 = .ok cell.value

theorem Assigned.Cell.unique {assigned : Assigned F} {cell cell' : Operations.CellEdit F}
    (h : assigned.Cell cell) (h' : assigned.Cell cell') : cell = cell' := by
  obtain ⟨column, hcolumn, hid, hvalue⟩ := h
  obtain ⟨column', hcolumn', hid', hvalue'⟩ := h'
  obtain rfl : column = column' := Option.some.inj (hcolumn.symm.trans hcolumn')
  cases cell
  cases cell'
  simp_all

/-- The columns with their values in a row. -/
def assignedRow (columns : List RustExtWriteColumn) (values : List (RustExtInputValue F))
    (rowIndex : Nat) : List (Assigned F) :=
  columns.zip (rowValues values rowIndex columns.length)

/-- The cell the assignment asks for is one of an editable column of the row. -/
def EditableTwin (row : List (Assigned F)) (assigned : Assigned F) : Prop :=
  ∃ twin ∈ row, twin.editable = true ∧ ∃ cell, assigned.Cell cell ∧ twin.Cell cell

def RowKept (row : List (Assigned F)) (cells : List (Operations.CellEdit F)) : Prop :=
  ∀ assigned ∈ row, ∃ cell ∈ cells, assigned.Cell cell

theorem written_of_editable {columns : List RustExtWriteColumn}
    {values : List (RustExtInputValue F)} {row : Operations.RowEdit F}
    (h : writeCells columns values false = .ok row) {assigned : Assigned F}
    (hmem : assigned ∈ columns.zip values) (heditable : assigned.editable = true) :
    ∃ cell ∈ row.cells, assigned.Cell cell := by
  obtain ⟨written, hwritten, hcells⟩ := writeCells_cells h assigned hmem
  obtain ⟨hsome, hnull⟩ := writeCell_isSome hwritten
  have hne := hnull heditable rfl
  rw [show supports assigned.1.capabilities rustExtColumnEditable = true from heditable,
    decide_eq_true hne, Bool.and_self, Option.isSome_iff_exists] at hsome
  obtain ⟨cell, rfl⟩ := hsome
  exact ⟨cell, hcells cell rfl, writeCell_some hwritten⟩

/-- A cell that is written is one of an editable assignment. -/
theorem editable_of_written {columns : List RustExtWriteColumn}
    {values : List (RustExtInputValue F)} {row : Operations.RowEdit F}
    (h : writeCells columns values false = .ok row) {cell : Operations.CellEdit F}
    (hmem : cell ∈ row.cells) :
    ∃ assigned ∈ columns.zip values, Assigned.editable assigned = true ∧
      Assigned.Cell assigned cell := by
  obtain ⟨cells, hcells, hwritten⟩ := writeCells_forall₂ h
  rw [hcells, List.reduceOption_mem_iff] at hmem
  obtain ⟨n, hn, hget⟩ := List.getElem_of_mem hmem
  have hlt : n < (columns.zip values).length := hwritten.length_eq ▸ hn
  have hcell := hwritten.get hlt hn
  simp only [List.get_eq_getElem, hget] at hcell
  have hsome := (writeCell_isSome hcell).1
  rw [Option.isSome_some, eq_comm, Bool.and_eq_true] at hsome
  exact ⟨_, List.getElem_mem hlt, hsome.1, writeCell_some hcell⟩

/-- **The assignments of a row are all written when they are editable**, or an editable one asks
for the same cell. -/
theorem rowKept_iff {columns : List RustExtWriteColumn} {values : List (RustExtInputValue F)}
    {row : Operations.RowEdit F} (h : writeCells columns values false = .ok row) :
    RowKept (columns.zip values) row.cells ↔
      ∀ assigned ∈ columns.zip values, Assigned.editable assigned = true ∨
        EditableTwin (columns.zip values) assigned := by
  constructor
  · intro hkept assigned hmem
    obtain ⟨cell, hcell, hassigned⟩ := hkept assigned hmem
    obtain ⟨twin, htwin, heditable, hwritten⟩ := editable_of_written h hcell
    exact .inr ⟨twin, htwin, heditable, cell, hassigned, hwritten⟩
  · intro hall assigned hmem
    rcases hall assigned hmem with heditable | ⟨twin, htwin, heditable, cell, hcell, hsame⟩
    · exact written_of_editable h hmem heditable
    · obtain ⟨cell', hcell', hwritten⟩ := written_of_editable h htwin heditable
      exact ⟨cell', hcell', hwritten.unique hsame ▸ hcell⟩

end

section
variable {F σ : Type} [F64 F] [SerdeJson] (w : World F σ) (config : ClientConfig) (table : Table)
  (rowIds : List String) (columns : List RustExtWriteColumn) (values : List (RustExtInputValue F))

/-- For every row a request is sent that has a cell for every assigned column. -/
def AssignmentsKept (operations : List (Operation F)) : Prop :=
  List.Forall₂ (fun row operation => ∃ payload,
      operation = updateRowOperation config table row.1 payload ∧
      RowKept (assignedRow columns values row.2) payload.row.cells)
    rowIds.zipIdx operations

omit [F64 F] [SerdeJson] in
theorem updateRowOperation_inj {rowId : String} {payload payload' : Operations.RowUpdate F}
    (h : updateRowOperation config table rowId payload =
      updateRowOperation config table rowId payload') : payload = payload' := by
  unfold updateRowOperation at h
  injection h with h
  injection h

/-- **When an update that returns has written all its assignments**: every assigned column is
editable, in every row, or an editable one asks for the same cell. -/
theorem assignments_kept_iff (s : σ) (n : Nat)
    (h : (runFrom (updateRows w config table rowIds columns values) s).result = .ok n) :
    AssignmentsKept config table rowIds columns values
        (mutations (runFrom (updateRows w config table rowIds columns values) s).events) ↔
      ∀ rowIndex < rowIds.length, ∀ assigned ∈ assignedRow columns values rowIndex,
        assigned.editable = true ∨ EditableTwin (assignedRow columns values rowIndex) assigned := by
  obtain ⟨done, rest, ops, hrows, hops, -, hreturns⟩ :=
    updateRows_interrupted w config table rowIds columns values s
  obtain ⟨rfl, hserved⟩ := hreturns ⟨n, h⟩
  rw [List.append_nil] at hrows
  subst hrows
  rw [hserved.mutations]
  have hkept : ∀ index (hindex : index < rowIds.length) (hindex' : index < ops.length),
      (∃ payload, ops[index] = updateRowOperation config table rowIds[index] payload ∧
        RowKept (assignedRow columns values index) payload.row.cells) ↔
      ∀ assigned ∈ assignedRow columns values index, assigned.editable = true ∨
        EditableTwin (assignedRow columns values index) assigned := by
    intro index hindex hindex'
    obtain ⟨payload, hpayload, hop⟩ := hops.get (by simpa using hindex) hindex'
    simp only [List.get_eq_getElem, List.getElem_zipIdx, Nat.zero_add] at hpayload hop
    have hiff := rowKept_iff (updatePayload_row hpayload)
    rw [assignedRow, ← hiff]
    constructor
    · rintro ⟨payload', hop', hkept⟩
      rwa [updateRowOperation_inj config table (hop.symm.trans hop')]
    · exact fun hkept => ⟨payload, hop, hkept⟩
  have hlength : ops.length = rowIds.length := by
    simpa using hops.length_eq.symm
  constructor
  · intro hall index hindex
    refine (hkept index hindex (by omega)).1 ?_
    have hrow := hall.get (by simpa using hindex) (by omega : index < ops.length)
    simpa using hrow
  · intro hall
    refine List.forall₂_of_length_eq_of_get hops.length_eq fun index hindex hindex' => ?_
    have hrow := (hkept index (by omega) hindex').2 (hall index (by omega))
    simpa using hrow

/-- **An assignment to a column that the table does not know is dropped** from every row. -/
theorem unknown_dropped (s : σ) (n : Nat)
    (h : (runFrom (updateRows w config table rowIds columns values) s).result = .ok n)
    (hrows : rowIds ≠ []) {column : RustExtWriteColumn} (hcolumn : column ∈ columns)
    (hunknown : column.handle = none)
    (hgenerated : supports column.capabilities rustExtColumnEditable = false) :
    ¬ AssignmentsKept config table rowIds columns values
      (mutations (runFrom (updateRows w config table rowIds columns values) s).events) := by
  have hwidth : values.length = rowIds.length * columns.length := by
    obtain ⟨_, -, ⟨hshape, -⟩, -⟩ | ⟨e, he, -⟩ :=
      (updateRows_emits w config table columns values rowIds).outcome s
    · by_contra hne
      exact hshape (.inr hne)
    · cases he.symm.trans h
  have hfirst : 0 < rowIds.length := List.length_pos_iff.2 hrows
  have hvalues : (rowValues values 0 columns.length).length = columns.length := by
    have : columns.length ≤ rowIds.length * columns.length := Nat.le_mul_of_pos_left _ hfirst
    simp only [rowValues, Nat.zero_mul, List.drop_zero, List.length_take]
    omega
  obtain ⟨index, hindex, rfl⟩ := List.getElem_of_mem hcolumn
  have hmem : (columns[index], (rowValues values 0 columns.length)[index]) ∈
      assignedRow columns values 0 := by
    refine List.mem_iff_getElem.2 ⟨index, ?_, List.getElem_zip⟩
    rw [assignedRow, List.length_zip]
    omega
  rw [assignments_kept_iff w config table rowIds columns values s n h]
  intro hall
  rcases hall 0 hfirst _ hmem with heditable | ⟨twin, -, -, cell, ⟨column, hhandle, -⟩, -⟩
  · cases hgenerated.symm.trans heditable
  · cases hunknown.symm.trans hhandle

end

/-! ## The time a row was created -/

open Json.Reference Reference

/-- The column of a row's time of creation, to be written. -/
def writeCreatedAt : RustExtWriteColumn where
  handle := some (rowMetadataColumn "createdAt")
  capabilities := (rowMetadataColumn "createdAt").capabilities

/-- A row whose text is set has a payload. -/
theorem rowPayload_kept : rowPayload table [writeTextColumn "c1"] [textInput "a"] 0 =
    .ok { row := { cells := [{ column := "c1", value := .scalar (.text "a") }] } } := by
  decide +kernel

theorem assignments_kept_iff_text :
    AssignmentsKept config table ["r1"] [writeTextColumn "c1"] [textInput "a"]
        (mutations (runFrom (updateRows scripted config table ["r1"] [writeTextColumn "c1"]
          [textInput "a"]) ([mutationReply "m1", statusReply true], 0)).events) ↔
      ∀ rowIndex < ["r1"].length,
        ∀ assigned ∈ assignedRow [writeTextColumn "c1"] [textInput "a"] rowIndex,
          assigned.editable = true ∨
            EditableTwin (assignedRow [writeTextColumn "c1"] [textInput "a"] rowIndex) assigned :=
  assignments_kept_iff scripted config table ["r1"] [writeTextColumn "c1"] [textInput "a"]
    ([mutationReply "m1", statusReply true], 0) 1
    (congrArg Effect.Outcome.result (update_scripted table "r1" rowPayload_kept (by decide) [] 0))

/-- A row whose time of creation is set has an empty payload. -/
theorem rowPayload_dropped : rowPayload table [writeCreatedAt] [textInput "2024-01-01"] 0 =
    .ok { row := { cells := [] } } := by
  decide +kernel

/-- **Setting the time of creation of a row counts as one affected row**, and no cell is sent. -/
theorem assignment_dropped :
    (runFrom (updateRows scripted config table ["r1"] [writeCreatedAt] [textInput "2024-01-01"])
      ([mutationReply "m1", statusReply true], 0)).result = .ok 1 ∧
    ¬ AssignmentsKept config table ["r1"] [writeCreatedAt] [textInput "2024-01-01"]
      (mutations (runFrom (updateRows scripted config table ["r1"] [writeCreatedAt]
        [textInput "2024-01-01"]) ([mutationReply "m1", statusReply true], 0)).events) := by
  have hrun := update_scripted table "r1" rowPayload_dropped (show "m1" ≠ "" by decide) [] 0
  rw [hrun]
  refine ⟨rfl, fun hkept => ?_⟩
  have hsent : mutations (completedCalls (updateRowOperation config table "r1"
      { row := { cells := [] } }) "m1") =
        [updateRowOperation (F := Binary64) config table "r1" { row := { cells := [] } }] := rfl
  rw [AssignmentsKept, hsent] at hkept
  obtain ⟨payload, hop, hrow⟩ := hkept.get (i := 0) (by decide) (by decide)
  obtain rfl := updateRowOperation_inj config table hop
  obtain ⟨cell, hcell, -⟩ := hrow (writeCreatedAt, textInput "2024-01-01") (.head _)
  cases hcell

end SuperhumanDocs
