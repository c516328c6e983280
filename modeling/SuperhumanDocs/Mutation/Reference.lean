import SuperhumanDocs.Bridge.Reference
import SuperhumanDocs.Mutation.Rows

/-!
# A reference server for mutations

A world that gives a list of replies in order, and the replies to a mutation and to a status
request.
-/

set_option autoImplicit false

namespace SuperhumanDocs.Reference

open Binary (Binary64)
open Effect (bind_apply bind_apply_error perform_apply observe_apply ofExcept_apply)
open Json.Reference

/-- The reply when there is no connection. -/
def noConnection : Reply where
  result := .error (.other "connection closed")
  exchange := none
  accepted := false

/-- The replies in order, and no connection after them. -/
def scripted : World Binary64 (List Reply × Nat) where
  runtime := .ok ()
  newClient _ := .ok ()
  send s _ := (s.1.headD noConnection, (s.1.tail, s.2))
  now s := s.2
  sleep s duration := (s.1, s.2 + duration)
  now_send _ _ := Nat.le_refl _
  now_sleep _ _ := Nat.le_refl _

/-- The reply to a mutation. -/
def mutationReply (requestId : String) : Reply :=
  reply 202 (.object [("requestId", .string requestId)])

/-- The reply to a status request. -/
def statusReply (completed : Bool) : Reply := reply 200 (.object [("completed", .bool completed)])

theorem mutationRequestId_reply {requestId : String} (h : requestId ≠ "") :
    mutationRequestId (Json.Value.object [("requestId", .string requestId)]).print =
      .ok requestId := by
  have hread := Json.SerdeJson.fromStr_print (.object [("requestId", .string requestId)]) rfl
  unfold mutationRequestId
  rw [hread]
  simp [Json.Value.canonicalize, Json.canonicalizeFields, Json.insert, Json.Value.get,
    Json.Value.asObject, Json.Value.asStr, Except.mapError, bind,
    Except.bind, Option.filter, h]

theorem checkMutation_statusReply (requestId : String) (allowWarnings completed : Bool) :
    checkMutation requestId allowWarnings (statusReply completed) = .ok completed := by
  have hread := Json.SerdeJson.fromStr_print (.object [("completed", .bool completed)]) rfl
  have hstatus : mutationStatus (Json.Value.object [("completed", .bool completed)]).print =
      .ok (completed, none) := by
    unfold mutationStatus
    rw [hread]
    simp [Json.Value.canonicalize, Json.canonicalizeFields, Json.insert, Json.Value.get,
      Json.Value.asObject, Json.lookup_cons_ite, Json.Value.asBool, Except.mapError, bind,
      Except.bind]
  have hfetch : fetchStatus (statusReply completed) = .ok (completed, none) := by
    rw [fetchStatus, executeAcceptingStatus, statusReply, executeInner_reply]
    exact hstatus
  rw [checkMutation, hfetch]
  cases completed <;> rfl

/-- The error of a status request without a connection. -/
def lostMessage (requestId : String) : String :=
  let error := "connection closed"
  s!"failed to check Superhuman Docs mutation {requestId}: {error}"

theorem checkMutation_noConnection (requestId : String) (allowWarnings : Bool) :
    checkMutation requestId allowWarnings noConnection =
      .error (lostMessage requestId) := rfl

/-- A mutation that is accepted goes on to its first check. -/
theorem mutate_scripted (operation : Operation Binary64) {requestId : String} (h : requestId ≠ "")
    (replies : List Reply) (now : Nat) (t : List (Call Binary64)) :
    mutate scripted config operation ⟨(mutationReply requestId :: replies, now), t⟩ =
      pollMutationStatus scripted requestId (config.mutationTimeoutSeconds * nanosPerSecond)
        config.allowMutationWarnings now true
        ⟨(replies, now), t ++ [⟨operation, mutationReply requestId⟩]⟩ := by
  have hsend : scripted.execute operation ⟨(mutationReply requestId :: replies, now), t⟩ =
      .ok (Json.Value.object [("requestId", .string requestId)]).print
        ⟨(replies, now), t ++ [⟨operation, mutationReply requestId⟩]⟩ :=
    (bind_apply (perform_apply _ _ _)).trans (ofExcept_apply (execute_reply _ _) _)
  rw [mutate, bind_apply hsend, waitForMutation, if_neg (by decide),
    bind_apply (ofExcept_apply (mutationRequestId_reply h) _), bind_apply (observe_apply _ _)]
  rfl

/-- The two requests of a mutation that is accepted and completed at the first check. -/
def completedCalls (operation : Operation Binary64) (requestId : String) : List (Call Binary64) :=
  [⟨operation, mutationReply requestId⟩, ⟨.mutationStatus requestId, statusReply true⟩]

theorem mutate_completed (operation : Operation Binary64) {requestId : String}
    (h : requestId ≠ "") (replies : List Reply) (now : Nat) (t : List (Call Binary64)) :
    mutate scripted config operation
        ⟨(mutationReply requestId :: statusReply true :: replies, now), t⟩ =
      .ok () ⟨(replies, now), t ++ completedCalls operation requestId⟩ := by
  have hmutate := mutate_scripted operation h (statusReply true :: replies) now t
  rw [pollMutationStatus] at hmutate
  simp only [scripted, List.headD_cons, List.tail_cons, checkMutation_statusReply] at hmutate
  rw [List.append_assoc] at hmutate
  exact hmutate

/-- A delete that is accepted and completed at the first check. -/
theorem delete_scripted (table : Table) (rowId : String) {requestId : String} (h : requestId ≠ "")
    (replies : List Reply) (now : Nat) :
    Effect.runFrom (deleteRows scripted config table [rowId])
        (mutationReply requestId :: statusReply true :: replies, now) =
      { result := .ok 1
        state := (replies, now)
        events := completedCalls (deleteRowsOperation config table [rowId]) requestId } := by
  have hmutate := mutate_completed (deleteRowsOperation config table [rowId]) h replies now []
  have hrun : deleteRows scripted config table [rowId]
      ⟨(mutationReply requestId :: statusReply true :: replies, now), []⟩ =
        .ok 1 ⟨(replies, now), completedCalls (deleteRowsOperation config table [rowId])
          requestId⟩ :=
    (bind_apply (ofExcept_apply rfl _)).trans (bind_apply hmutate)
  rw [Effect.runFrom, hrun]

/-- An update of one row that is accepted and completed at the first check. -/
theorem update_scripted (table : Table) (rowId : String) {column : RustExtWriteColumn}
    {value : RustExtInputValue Binary64} {payload : Operations.RowUpdate Binary64}
    (hpayload : rowPayload table [column] [value] 0 = .ok payload) {requestId : String}
    (h : requestId ≠ "") (replies : List Reply) (now : Nat) :
    Effect.runFrom (updateRows scripted config table [rowId] [column] [value])
        (mutationReply requestId :: statusReply true :: replies, now) =
      { result := .ok 1
        state := (replies, now)
        events := completedCalls (updateRowOperation config table rowId payload) requestId } := by
  have hmutate := mutate_completed (updateRowOperation config table rowId payload) h replies now []
  have hrow : updateRow scripted config table [column] [value] (rowId, 0)
      ⟨(mutationReply requestId :: statusReply true :: replies, now), []⟩ =
        .ok () ⟨(replies, now), completedCalls (updateRowOperation config table rowId payload)
          requestId⟩ :=
    (bind_apply (ofExcept_apply hpayload _)).trans hmutate
  have hrows : forM [(rowId, 0)] (updateRow scripted config table [column] [value])
      ⟨(mutationReply requestId :: statusReply true :: replies, now), []⟩ =
        .ok () ⟨(replies, now), completedCalls (updateRowOperation config table rowId payload)
          requestId⟩ := bind_apply hrow
  have hrun : updateRows scripted config table [rowId] [column] [value]
      ⟨(mutationReply requestId :: statusReply true :: replies, now), []⟩ =
        .ok 1 ⟨(replies, now), completedCalls (updateRowOperation config table rowId payload)
          requestId⟩ :=
    (bind_apply (ofExcept_apply rfl _)).trans (bind_apply hrows)
  rw [Effect.runFrom, hrun]

/-- A delete that is accepted, before the connection is lost. -/
theorem delete_lost (rowId : String) {requestId : String} (h : requestId ≠ "") (now : Nat) :
    Effect.runFrom (deleteRows scripted config table [rowId]) ([mutationReply requestId], now) =
      { result := .error (lostMessage requestId)
        state := ([], now)
        events := [⟨deleteRowsOperation config table [rowId], mutationReply requestId⟩,
          ⟨.mutationStatus requestId, noConnection⟩] } := by
  have hmutate := mutate_scripted (deleteRowsOperation config table [rowId]) h [] now []
  rw [pollMutationStatus] at hmutate
  simp only [scripted, List.headD_nil, List.tail_nil, checkMutation_noConnection] at hmutate
  have hrun : deleteRows scripted config table [rowId] ⟨([mutationReply requestId], now), []⟩ =
      .error (lostMessage requestId) ⟨([], now),
        [⟨deleteRowsOperation config table [rowId], mutationReply requestId⟩,
          ⟨.mutationStatus requestId, noConnection⟩]⟩ :=
    (bind_apply (ofExcept_apply rfl _)).trans (bind_apply_error hmutate)
  rw [Effect.runFrom, hrun]

end SuperhumanDocs.Reference
