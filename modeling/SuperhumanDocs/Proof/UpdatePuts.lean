import SuperhumanDocs.Bridge.Dml
import SuperhumanDocs.Proof.Mutation

/-!
# The rows an UPDATE writes

An update sends one request for each row id it is passed, in their order and up to the first that
fails; so an UPDATE statement writes no row more often than its sink is passed it.

* `updateRows_putIds`: the requests of one call.
* `updateEvents_putIds`: the requests of all chunks of a statement.
-/

set_option autoImplicit false

namespace SuperhumanDocs

open Binary (F64)
open Effect (Emits bind_eq_ok mapM_eq_ok runFrom)
open Json (SerdeJson)

/-! ## One call -/

section
variable {F : Type}

def Operation.putId : Operation F → Option String
  | updateRow input => some input.rowIdOrName
  | _ => none

/-- The rows the requests update, in order. -/
def putIds (t : List (Call F)) : List String := t.filterMap fun c => c.operation.putId

theorem Waits.putIds {config : ClientConfig} {t : List (Call F)} (h : Waits config t) :
    SuperhumanDocs.putIds t = [] := by
  apply List.filterMap_eq_nil_iff.2
  intro c hc
  obtain ⟨-, requestId, hop⟩ := h c hc
  rw [hop]
  rfl

theorem putIds_update {config : ClientConfig} {table : Table} {rowId : String}
    {payload : Operations.RowUpdate F} {reply : Reply} {t : List (Call F)} (h : Waits config t) :
    putIds (⟨updateRowOperation config table rowId payload, reply⟩ :: t) = [rowId] := by
  have hcons : putIds (⟨updateRowOperation config table rowId payload, reply⟩ :: t) =
      rowId :: putIds t := rfl
  rw [hcons, h.putIds]

end

section
variable {F σ : Type} [F64 F] [SerdeJson] (w : World F σ) (config : ClientConfig)

/-- **An update writes a prefix of the rows it is passed.** -/
theorem updateRows_putIds (table : Table) (columns : List RustExtWriteColumn)
    (values : List (RustExtInputValue F)) (rowIds : List String) :
    Emits (updateRows w config table rowIds columns values) (fun _ t => putIds t <+: rowIds)
      (fun _ t => putIds t <+: rowIds) := by
  have hupdated (row : String × Nat) (t : List (Call F))
      (h : RowUpdated config table columns values row t) : putIds t = [row.1] := by
    obtain ⟨payload, -, reply, rest, rfl, hwaits, -⟩ := h
    exact putIds_update hwaits
  have hfailed (row : String × Nat) (t : List (Call F))
      (h : RowFailed config table columns values row t) : putIds t <+: [row.1] := by
    obtain ⟨-, rfl⟩ | ⟨payload, -, reply, rest, rfl, hwaits, -⟩ := h
    · exact List.nil_prefix
    · rw [putIds_update hwaits]
  have hids : rowIds.zipIdx.map Prod.fst = rowIds := List.zipIdx_map_fst 0 rowIds
  refine (updateRows_emits w config table columns values rowIds).mono ?_ ?_
  · intro _ t ⟨_, hblocks⟩
    have := hblocks.filterMap hupdated
    rw [hids] at this
    exact this ▸ List.prefix_rfl
  · intro _ t h
    obtain ⟨-, rfl⟩ | ⟨-, hblocks⟩ := h
    · exact List.nil_prefix
    · have := hblocks.filterMap hupdated hfailed
      rwa [hids] at this

/-! ## A statement -/

variable [DuckDb F]

/-- The row ids of a chunk: its last column. -/
def chunkRowIds (chunk : DataChunk F) : List String :=
  chunk.rows.filterMap fun row => (chunkRowId (chunk.columnCount - 1) row).toOption

theorem updateCall_rowIds {info : RustBridgeTableInfo} {assignments : List Assignment}
    {chunk : DataChunk F} {call : Dml F} (h : updateCall info assignments chunk = .ok call) :
    ∃ columns values, call = .update (chunkRowIds chunk) columns values := by
  obtain ⟨rows, hrows, h⟩ := bind_eq_ok.1 h
  cases h
  have hids : rows.map (·.1) = chunkRowIds chunk := by
    unfold chunkRowIds
    have hall := mapM_eq_ok.1 hrows
    clear hrows h
    generalize chunk.rows = chunkRows at hall
    induction hall with
    | nil => rfl
    | cons hrow hall ih =>
      obtain ⟨rowId, hid, hrow⟩ := bind_eq_ok.1 hrow
      obtain ⟨values, -, hrow⟩ := bind_eq_ok.1 hrow
      cases hrow
      rw [List.map_cons, ih, List.filterMap_cons, hid]
      rfl
  exact ⟨_, _, by rw [hids]⟩

/-- **The sink of an UPDATE writes a prefix of the rows of its chunk.** -/
theorem updateSink_putIds (info : RustBridgeTableInfo) (assignments : List Assignment)
    (chunk : DataChunk F) :
    Emits (clientCall w config info ((Sink.update info assignments).call chunk))
      (fun _ t => putIds t <+: chunkRowIds chunk) (fun _ t => putIds t <+: chunkRowIds chunk) := by
  unfold clientCall
  refine Emits.ofExcept_bind (fun call hcall => Emits.adaptExcept _ (Emits.ofExcept_bind
    (fun table _ => Emits.ofExcept_bind (fun _ _ => ?_) ?_) ?_)) ?_
  · obtain ⟨columns, values, rfl⟩ := updateCall_rowIds hcall
    exact updateRows_putIds w config table columns values _
  · exact fun _ _ => List.nil_prefix
  · exact fun _ _ => List.nil_prefix
  · exact fun _ _ => List.nil_prefix

/-- The requests of an UPDATE statement: of each chunk, from the state the sink finds. -/
def updateEvents (info : RustBridgeTableInfo) (assignments : List Assignment)
    (chunks : List (DataChunk F × σ)) : List (Call F) :=
  chunks.flatMap fun (chunk, s) =>
    (runFrom (clientCall w config info ((Sink.update info assignments).call chunk)) s).events

/-- **A statement writes no row more often than its sink is passed it.** -/
theorem updateEvents_putIds (info : RustBridgeTableInfo) (assignments : List Assignment)
    (chunks : List (DataChunk F × σ)) :
    (putIds (updateEvents w config info assignments chunks)).Sublist
      (chunks.flatMap fun chunk => chunkRowIds chunk.1) := by
  induction chunks with
  | nil => exact .slnil
  | cons chunk chunks ih =>
    obtain ⟨chunk, s⟩ := chunk
    have hchunk : putIds (runFrom (clientCall w config info
        ((Sink.update info assignments).call chunk)) s).events <+: chunkRowIds chunk := by
      obtain ⟨_, -, h⟩ | ⟨_, -, h⟩ := (updateSink_putIds w config info assignments chunk).outcome s
      · exact h
      · exact h
    rw [updateEvents, List.flatMap_cons, List.flatMap_cons, putIds, List.filterMap_append]
    exact hchunk.sublist.append ih

end

end SuperhumanDocs
