import SuperhumanDocs.Catalog
import SuperhumanDocs.Proof.Validation

/-!
# Capabilities of tables

An insert and an update look at the capabilities of their table before they send anything. A
delete does not: it is sent for any table.

* `capability_enforced_iff`: when a call on a table without the capability is turned down.
-/

set_option autoImplicit false

namespace SuperhumanDocs

open Binary (Binary64 F64)
open Effect (Emits Succeeds bind_apply not_succeeds_error ofExcept_apply runFrom)
open Json (SerdeJson)

namespace Dml

variable {F : Type}

/-- The capability of the table a call needs. -/
def capability : Dml F → Nat
  | insert _ _ _ _ => rustExtTableInsert
  | update _ _ _ => rustExtTableUpdate
  | delete _ => rustExtTableDelete

/-- The number of rows a call is about. -/
def rowCount : Dml F → Nat
  | insert _ _ rowCount _ => rowCount
  | update rowIds _ _ => rowIds.length
  | delete rowIds => rowIds.length

def isDelete : Dml F → Bool
  | delete _ => true
  | _ => false

end Dml

section
variable {F σ : Type} [F64 F] [SerdeJson] (w : World F σ) (config : ClientConfig) (table : Table)
  (s : σ)

/-- The call fails before it sends anything. -/
def TurnedDown (call : Dml F) : Prop :=
  ¬ Succeeds (call.outcome w config table s).result ∧ (call.outcome w config table s).events = []

theorem insert_turnedDown {columns : List RustExtWriteColumn} {values : List (RustExtInputValue F)}
    {rowCount valueColumnCount : Nat}
    (h : supports table.capabilities rustExtTableInsert = false) :
    TurnedDown w config table s (.insert columns values rowCount valueColumnCount) := by
  have hpayload : ∀ payload, insertPayload columns values rowCount valueColumnCount
      table.capabilities ≠ .ok payload := by
    intro payload hpayload
    rw [insertPayload, h] at hpayload
    cases hpayload
  obtain ⟨n, -, payload, hok, -⟩ | ⟨e, he, hevents | ⟨payload, hok, -⟩⟩ :=
    (insertRows_emits w config table columns values rowCount valueColumnCount).outcome s
  · exact absurd hok (hpayload payload)
  · exact ⟨fun hok => not_succeeds_error (he ▸ hok), hevents⟩
  · exact absurd hok (hpayload payload)

theorem update_turnedDown {rowIds : List String} {columns : List RustExtWriteColumn}
    {values : List (RustExtInputValue F)} (hrows : rowIds ≠ [])
    (h : supports table.capabilities rustExtTableUpdate = false) :
    TurnedDown w config table s (.update rowIds columns values) := by
  obtain ⟨rowId, rowIds, rfl⟩ := List.exists_cons_of_ne_nil hrows
  have hpayload := rowPayload_unsupported table columns values h 0
  have hupdated : ∀ {t}, ¬ ∃ t₁ t₂, t = t₁ ++ t₂ ∧
      RowUpdated config table columns values (rowId, 0) t₁ := by
    rintro t ⟨t₁, t₂, -, payload, hok, -⟩
    exact hpayload ⟨payload, hok⟩
  obtain ⟨n, -, -, hblocks⟩ | ⟨e, he, ⟨-, hevents⟩ | ⟨-, hblocks⟩⟩ :=
    (updateRows_emits w config table columns values (rowId :: rowIds)).outcome s
  · exact absurd hblocks.head hupdated
  · exact ⟨fun hok => not_succeeds_error (he ▸ hok), hevents⟩
  · obtain hblock | ⟨-, hevents⟩ | ⟨payload, hok, -⟩ := hblocks.head
    · exact absurd hblock hupdated
    · exact ⟨fun hok => not_succeeds_error (he ▸ hok), hevents⟩
    · exact absurd ⟨payload, hok⟩ hpayload

/-- A delete is turned down for want of a client only. -/
theorem delete_turnedDown_iff {rowIds : List String} (hrows : rowIds ≠ []) :
    TurnedDown w config table s (.delete rowIds) ↔ ¬ Succeeds (w.newClient config) := by
  have hsome : ¬ rowIds.isEmpty = true := by simpa using hrows
  cases hclient : w.newClient config with
  | error e =>
    have hrun : deleteRows w config table rowIds ⟨s, []⟩ = .error e ⟨s, []⟩ := by
      rw [deleteRows, if_neg hsome, hclient]
      rfl
    have houtcome : (Dml.delete rowIds : Dml F).outcome w config table s =
        { result := .error e, state := s, events := [] } := by
      rw [Dml.outcome, Dml.run, runFrom, hrun]
    rw [TurnedDown, houtcome]
    exact iff_of_true ⟨not_succeeds_error, rfl⟩ not_succeeds_error
  | ok _ =>
    have hemits : Emits (deleteRows w config table rowIds)
        (fun _ => Settles config (deleteRowsOperation config table rowIds))
        (fun _ => Breaks config (deleteRowsOperation config table rowIds)) := by
      rw [deleteRows, if_neg hsome, hclient]
      exact Emits.bind_pure (mutate_emits w config _)
    refine iff_of_false (fun hdown => ?_) (not_not.2 ⟨_, rfl⟩)
    obtain ⟨n, -, reply, rest, hsent, -⟩ | ⟨e, -, reply, rest, hsent, -⟩ := hemits.outcome s
    all_goals
      have hevents := hdown.2
      rw [Dml.outcome, Dml.run, hsent] at hevents
      cases hevents

/-- **When a call on a table without the capability is turned down**: unless it is a delete for
which there is a client. -/
theorem capability_enforced_iff (call : Dml F) (hrows : call.rowCount ≠ 0)
    (hlacks : supports table.capabilities call.capability = false) :
    TurnedDown w config table s call ↔
      call.isDelete = false ∨ ¬ Succeeds (w.newClient config) := by
  cases call with
  | insert columns values rowCount valueColumnCount =>
    exact iff_of_true (insert_turnedDown w config table s hlacks) (.inl rfl)
  | update rowIds columns values =>
    have hsome : rowIds ≠ [] := by simpa [Dml.rowCount] using hrows
    exact iff_of_true (update_turnedDown w config table s hsome hlacks) (.inl rfl)
  | delete rowIds =>
    have hsome : rowIds ≠ [] := by simpa [Dml.rowCount] using hrows
    rw [delete_turnedDown_iff w config table s hsome]
    simp [Dml.isDelete]

end

/-! ## Views -/

open Json.Reference Reference

/-- A view in a table listing. -/
def viewJson : Json.Value :=
  .object [("id", .string "v1"), ("name", .string "Open tasks"), ("tableType", .string "view")]

def view : Table where
  id := "v1"
  name := "Open tasks"
  capabilities := rustExtTableView ||| rustExtTableRowId

/-- An update of a view is turned down. -/
theorem capability_enforced_iff_view :
    TurnedDown scripted config view ([], 0) (.update ["r1"] [writeTextColumn "c1"]
      [textInput "a"]) ↔ false = false ∨ ¬ Succeeds (scripted.newClient config) :=
  capability_enforced_iff scripted config view ([], 0)
    (.update ["r1"] [writeTextColumn "c1"] [textInput "a"]) (by decide) (by decide)

/-- **A row of a view is deleted.** -/
theorem view_row_deleted :
    tableFromJson viewJson = .ok view ∧ supports view.capabilities rustExtTableDelete = false ∧
      (Dml.outcome scripted config view (.delete ["r1"])
        ([mutationReply "m1", statusReply true], 0)).result = .ok 1 ∧
      (Dml.outcome scripted config view (.delete ["r1"])
        ([mutationReply "m1", statusReply true], 0)).events.head?.map Call.operation =
          some (deleteRowsOperation config view ["r1"]) := by
  have hdeleted := delete_scripted view "r1" (show "m1" ≠ "" by decide) [] 0
  have htype : "view".toLower = "view" := by decide +kernel
  have hview : tableFromJson viewJson = .ok view := by
    simp [tableFromJson, viewJson, Json.Value.get, Json.Value.asObject, Json.lookup_cons_ite, okOr,
      Json.Value.asStr, view, htype, bind, Except.bind, pure, Except.pure]
  refine ⟨hview, by decide, ?_, ?_⟩
  · rw [Dml.outcome, Dml.run, hdeleted]
  · rw [Dml.outcome, Dml.run, hdeleted]
    rfl

end SuperhumanDocs
