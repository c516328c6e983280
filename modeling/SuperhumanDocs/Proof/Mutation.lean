import SuperhumanDocs.Mutation.Rows

/-!
# The requests of a mutation

What each of the functions sends. A mutation request is followed by status requests only
(`Waits`), and it is `Settled` when its response could be read and, if the config asks to wait,
some status reply confirmed it. A call that returns has settled all its mutations; one that fails
has left the last one unsettled.

* `pollMutationStatus_emits`, `mutate_emits`: one mutation.
* `insertRows_emits`, `updateRows_emits`, `deleteRows_emits`: a call.
-/

set_option autoImplicit false

namespace SuperhumanDocs

open Binary (F64)
open Effect (Emits Emitted Blocks BlocksThen Succeeds not_succeeds_error)
open Json (SerdeJson)

section
variable {F σ : Type} [SerdeJson] (w : World F σ)

/-! ## One mutation -/

/-- The call confirms the mutation with this request id. -/
def Call.Confirms (config : ClientConfig) (requestId : String) (c : Call F) : Prop :=
  c.operation = .mutationStatus requestId ∧
    checkMutation requestId config.allowMutationWarnings c.reply = .ok true

/-- Only status requests, and none unless the config asks to wait. -/
def Waits (config : ClientConfig) (t : List (Call F)) : Prop :=
  ∀ c ∈ t, config.waitForMutations = true ∧ ∃ requestId, c.operation = .mutationStatus requestId

/-- The mutation with this reply and these later calls has gone through, as far as the config asks
to know. -/
def Settled (config : ClientConfig) (reply : Reply) (t : List (Call F)) : Prop :=
  ∃ body, execute reply = .ok body ∧ (config.waitForMutations = true →
    ∃ requestId, mutationRequestId body = .ok requestId ∧ ∃ c ∈ t, c.Confirms config requestId)

/-- The requests of a mutation that was settled. -/
def Settles (config : ClientConfig) (operation : Operation F) (t : List (Call F)) : Prop :=
  ∃ reply rest, t = ⟨operation, reply⟩ :: rest ∧ Waits config rest ∧ Settled config reply rest

/-- The requests of a mutation that was sent but not settled. -/
def Breaks (config : ClientConfig) (operation : Operation F) (t : List (Call F)) : Prop :=
  ∃ reply rest, t = ⟨operation, reply⟩ :: rest ∧ Waits config rest ∧ ¬ Settled config reply rest

theorem pollMutationStatus_emits (requestId : String) (timeout : Nat) (allowWarnings : Bool)
    (started : Nat) (firstCheck : Bool) :
    Emits (pollMutationStatus w requestId timeout allowWarnings started firstCheck)
      (fun _ t => (∀ c ∈ t, c.operation = .mutationStatus requestId) ∧
        ∃ c ∈ t, checkMutation requestId allowWarnings c.reply = .ok true)
      (fun _ t => (∀ c ∈ t, c.operation = .mutationStatus requestId) ∧
        ∀ c ∈ t, checkMutation requestId allowWarnings c.reply ≠ .ok true) := by
  intro run
  fun_induction pollMutationStatus w requestId timeout allowWarnings started firstCheck run with
  | case1 firstCheck run => exact ⟨[], by simp, by simp, by simp⟩
  | case2 firstCheck run _ operation reply s run' e hcheck =>
    exact ⟨[⟨operation, reply⟩], rfl, by simp [operation], by simp [hcheck]⟩
  | case3 firstCheck run _ operation reply s run' hcheck =>
    exact ⟨[⟨operation, reply⟩], rfl, by simp [operation], _, .head _, hcheck⟩
  | case4 firstCheck run _ operation reply s run' hcheck _ =>
    exact ⟨[⟨operation, reply⟩], rfl, by simp [operation], by simp [hcheck]⟩
  | case5 firstCheck run _ operation reply s run' hcheck _ pause ih =>
    refine Emitted.cons (ih.mono ?_ ?_)
    · intro _ t ⟨hall, c, hc, h⟩
      exact ⟨List.forall_mem_cons.2 ⟨rfl, hall⟩, c, .tail _ hc, h⟩
    · intro _ t ⟨hall, h⟩
      exact ⟨List.forall_mem_cons.2 ⟨rfl, hall⟩, List.forall_mem_cons.2 ⟨by simp [hcheck], h⟩⟩

/-- Waiting for the mutation with this response. -/
theorem waitForMutation_emits (config : ClientConfig) (reply : Reply) (body : String)
    (hbody : execute reply = .ok body) :
    Emits (waitForMutation w config body) (fun _ t => Waits config t ∧ Settled config reply t)
      (fun _ t => Waits config t ∧ ¬ Settled config reply t) := by
  unfold waitForMutation
  cases hwait : config.waitForMutations with
  | false =>
    refine Emits.pure _ ⟨?_, body, hbody, ?_⟩
    · simp [Waits]
    · simp [hwait]
  | true =>
    refine Emits.ofExcept_bind (fun requestId hid => Emits.observe_bind fun started =>
      (pollMutationStatus_emits w _ _ _ _ _).mono ?_ ?_) ?_
    · intro _ t ⟨hall, c, hc, h⟩
      exact ⟨fun c hc => ⟨hwait, _, hall c hc⟩, body, hbody,
        fun _ => ⟨requestId, hid, c, hc, hall c hc, h⟩⟩
    · intro _ t ⟨hall, hnone⟩
      refine ⟨fun c hc => ⟨hwait, _, hall c hc⟩, ?_⟩
      intro ⟨body', hbody', h⟩
      cases hbody.symm.trans hbody'
      obtain ⟨requestId', hid', c, hc, -, h⟩ := h hwait
      cases hid.symm.trans hid'
      exact hnone c hc h
    · intro e he
      refine ⟨by simp [Waits], ?_⟩
      intro ⟨body', hbody', h⟩
      cases hbody.symm.trans hbody'
      obtain ⟨requestId', hid', -⟩ := h hwait
      cases he.symm.trans hid'

/-- **One mutation: its request, then status requests that settle it, or else it fails.** -/
theorem mutate_emits (config : ClientConfig) (operation : Operation F) :
    Emits (mutate w config operation) (fun _ => Settles config operation)
      (fun _ => Breaks config operation) := by
  unfold mutate World.execute World.call
  rw [bind_assoc]
  refine Emits.perform_bind fun reply => Emits.ofExcept_bind (fun body hbody =>
    (waitForMutation_emits w config reply body hbody).mono ?_ ?_) ?_
  · intro _ t ⟨hwaits, hsettled⟩
    exact ⟨reply, t, rfl, hwaits, hsettled⟩
  · intro _ t ⟨hwaits, hsettled⟩
    exact ⟨reply, t, rfl, hwaits, hsettled⟩
  · intro e he
    refine ⟨reply, [], rfl, by simp [Waits], ?_⟩
    rintro ⟨body, hbody, -⟩
    cases he.symm.trans hbody

end

/-! ## Calls -/

section
variable {F σ : Type} [SerdeJson] (w : World F σ) (config : ClientConfig) (table : Table)

theorem deleteRows_emits (rowIds : List String) :
    Emits (deleteRows w config table rowIds)
      (fun _ t => (rowIds = [] ∧ t = []) ∨
        Settles config (deleteRowsOperation config table rowIds) t)
      (fun _ t => t = [] ∨ Breaks config (deleteRowsOperation config table rowIds) t) := by
  unfold deleteRows
  cases hempty : rowIds.isEmpty with
  | true => exact Emits.pure _ (.inl ⟨List.isEmpty_iff.1 hempty, rfl⟩)
  | false =>
    refine Emits.ofExcept_bind (fun _ _ =>
      Emits.bind_pure ((mutate_emits w config _).mono ?_ ?_)) ?_
    · exact fun _ t h => .inr h
    · exact fun _ t h => .inr h
    · exact fun _ _ => .inl rfl

variable [F64 F]

theorem insertRows_emits (columns : List RustExtWriteColumn) (values : List (RustExtInputValue F))
    (rowCount valueColumnCount : Nat) :
    Emits (insertRows w config table columns values rowCount valueColumnCount)
      (fun _ t => ∃ payload, insertPayload columns values rowCount valueColumnCount
        table.capabilities = .ok payload ∧
        Settles config (upsertRowsOperation config table payload) t)
      (fun _ t => t = [] ∨ ∃ payload, insertPayload columns values rowCount valueColumnCount
        table.capabilities = .ok payload ∧
        Breaks config (upsertRowsOperation config table payload) t) := by
  unfold insertRows
  refine Emits.ofExcept_bind (fun _ _ => Emits.ofExcept_bind (fun payload hpayload =>
    Emits.bind_pure ((mutate_emits w config _).mono ?_ ?_)) ?_) ?_
  · exact fun _ t h => ⟨payload, hpayload, h⟩
  · exact fun _ t h => .inr ⟨payload, hpayload, h⟩
  · exact fun _ _ => .inl rfl
  · exact fun _ _ => .inl rfl

variable (columns : List RustExtWriteColumn) (values : List (RustExtInputValue F))

/-- The requests of a row that was updated. -/
def RowUpdated (row : String × Nat) (t : List (Call F)) : Prop :=
  ∃ payload, rowPayload table columns values row.2 = .ok payload ∧
    Settles config (updateRowOperation config table row.1 payload) t

/-- The requests of a row that was not updated: none when it has no payload. -/
def RowFailed (row : String × Nat) (t : List (Call F)) : Prop :=
  (∃ e, rowPayload table columns values row.2 = .error e) ∧ t = [] ∨
  ∃ payload, rowPayload table columns values row.2 = .ok payload ∧
    Breaks config (updateRowOperation config table row.1 payload) t

theorem updateRow_emits (row : String × Nat) :
    Emits (updateRow w config table columns values row)
      (fun _ => RowUpdated config table columns values row)
      (fun _ => RowFailed config table columns values row) := by
  unfold updateRow
  refine Emits.ofExcept_bind (fun payload hpayload => (mutate_emits w config _).mono ?_ ?_) ?_
  · exact fun _ t h => ⟨payload, hpayload, h⟩
  · exact fun _ t h => .inr ⟨payload, hpayload, h⟩
  · exact fun e he => .inl ⟨⟨e, he⟩, rfl⟩

/-- The numbers of row ids, columns and values do not fit. -/
def ShapeMismatch (rowIds : List String) : Prop :=
  (columns = [] ∧ rowIds ≠ []) ∨ values.length ≠ rowIds.length * columns.length

/-- **An update: the blocks of its rows, in order, up to the first that fails.** -/
theorem updateRows_emits (rowIds : List String) :
    Emits (updateRows w config table rowIds columns values)
      (fun _ t => (¬ ShapeMismatch columns values rowIds ∧ Succeeds (w.newClient config)) ∧
        Blocks (RowUpdated config table columns values) rowIds.zipIdx t)
      (fun _ t => ¬ (¬ ShapeMismatch columns values rowIds ∧ Succeeds (w.newClient config)) ∧
          t = [] ∨
        (¬ ShapeMismatch columns values rowIds ∧ Succeeds (w.newClient config)) ∧
          BlocksThen (RowUpdated config table columns values)
            (RowFailed config table columns values) rowIds.zipIdx t) := by
  unfold updateRows
  by_cases hcolumns : (columns.isEmpty && !rowIds.isEmpty) = true
  · rw [if_pos hcolumns]
    exact Emits.throw (.inl ⟨fun h => h.1 (.inl (by simpa using hcolumns)), rfl⟩)
  by_cases hvalues : values.length ≠ rowIds.length * columns.length
  · rw [if_neg hcolumns, if_pos hvalues]
    exact Emits.throw (.inl ⟨fun h => h.1 (.inr hvalues), rfl⟩)
  rw [if_neg hcolumns, if_neg hvalues]
  have hshape : ¬ ShapeMismatch columns values rowIds := by
    rintro (h | h)
    · exact hcolumns (by simpa using h)
    · exact hvalues h
  refine Emits.ofExcept_bind (fun u hclient => Emits.bind_pure (Emits.mono
    (Emits.forM (fun row => updateRow_emits w config table columns values row) rowIds.zipIdx)
    ?_ ?_)) ?_
  · exact fun _ t h => ⟨⟨hshape, u, hclient⟩, h⟩
  · exact fun _ t h => .inr ⟨⟨hshape, u, hclient⟩, h⟩
  · exact fun e he => .inl ⟨fun h => not_succeeds_error (he ▸ h.2), rfl⟩

end

end SuperhumanDocs
