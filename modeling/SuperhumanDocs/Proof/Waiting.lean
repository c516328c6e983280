import SuperhumanDocs.Mutation.Reference
import SuperhumanDocs.Proof.Mutation

/-!
# Waiting for mutations

With `waitForMutations` every mutation of a call that returns was confirmed by a status response
for its own request id, and an update sends no request before the one of the row before it was
confirmed; without it no status is asked for.

* `checkMutation_true`: what a confirming reply reports; a 404 never confirms.
* `Served`, `Interrupted`: the requests of a call, block by block.
* `dml_waits`: the theorem about every call.
-/

set_option autoImplicit false

namespace SuperhumanDocs

open Binary (Binary64 F64)
open Effect (Emits Blocks BlocksThen Succeeds mapError_eq_ok not_succeeds_error runFrom split_after)
open Json (SerdeJson)

section
variable {F : Type}

/-! ## Mutations -/

/-- The mutations among the requests. -/
def mutations (t : List (Call F)) : List (Operation F) :=
  (t.map Call.operation).filter Operation.isMutation

variable {config : ClientConfig} {operation : Operation F} {t : List (Call F)}

@[simp] theorem mutations_append (t₁ t₂ : List (Call F)) :
    mutations (t₁ ++ t₂) = mutations t₁ ++ mutations t₂ := by
  simp [mutations]

theorem Waits.not_mutation (h : Waits config t) : ∀ c ∈ t, ¬ c.operation.isMutation = true := by
  intro c hc
  obtain ⟨-, requestId, hop⟩ := h c hc
  rw [hop]
  exact Bool.false_ne_true

theorem Waits.mutations (h : Waits config t) : SuperhumanDocs.mutations t = [] := by
  apply List.filter_eq_nil_iff.2
  intro op hop
  obtain ⟨c, hc, rfl⟩ := List.mem_map.1 hop
  exact h.not_mutation c hc

theorem mutations_cons (reply : Reply) (hop : operation.isMutation = true) (h : Waits config t) :
    mutations (⟨operation, reply⟩ :: t) = [operation] := by
  have := h.mutations
  simp only [mutations, List.map_cons, List.filter_cons, hop, if_true] at this ⊢
  rw [this]

end

section
variable [SerdeJson]

/-! ## Replies -/

/-- The response carries the request id. -/
def Reply.Carries (reply : Reply) (requestId : String) : Prop :=
  requestId ≠ "" ∧ ∃ body root, execute reply = .ok body ∧ SerdeJson.fromStr body = .ok root ∧
    root.get "requestId" = some (.string requestId)

/-- The response reports that the mutation is completed, with a warning only where warnings are
allowed. -/
def Reply.Completes (reply : Reply) (allowWarnings : Bool) : Prop :=
  ∃ body root, executeAcceptingStatus 404 reply = .ok (some body) ∧
    SerdeJson.fromStr body = .ok root ∧ root.get "completed" = some (.bool true) ∧
    (allowWarnings = true ∨
      ∀ warning, root.get "warning" = some (.string warning) → isBlank warning = true)

theorem mutationRequestId_ok {body requestId : String}
    (h : mutationRequestId body = .ok requestId) :
    requestId ≠ "" ∧ ∃ root, SerdeJson.fromStr body = .ok root ∧
      root.get "requestId" = some (.string requestId) := by
  unfold mutationRequestId at h
  obtain ⟨root, hroot, h⟩ := Effect.bind_eq_ok.1 h
  split at h
  · rename_i value hvalue
    cases h
    obtain ⟨hsome, hne⟩ := Option.filter_eq_some_iff.1 hvalue
    obtain ⟨v, hv, hstr⟩ := Option.bind_eq_some_iff.1 hsome
    refine ⟨by simpa using hne, root, mapError_eq_ok.1 hroot, ?_⟩
    cases v <;> cases hstr
    exact hv
  · cases h

/-- **What a confirming reply reports.** -/
theorem checkMutation_true {requestId : String} {allowWarnings : Bool} {reply : Reply}
    (h : checkMutation requestId allowWarnings reply = .ok true) :
    reply.Completes allowWarnings := by
  unfold checkMutation at h
  obtain ⟨⟨completed, warning⟩, hstatus, h⟩ := Effect.bind_eq_ok.1 h
  cases completed with
  | false => cases h
  | true =>
    obtain ⟨-, hfalse, -⟩ | ⟨body, root, hreply, hroot, hcompleted, hwarns⟩ :=
      fetchStatus_eq_ok.1 (mapError_eq_ok.1 hstatus)
    · cases hfalse
    · refine ⟨body, root, hreply, hroot, hcompleted, ?_⟩
      cases allowWarnings with
      | true => exact .inl rfl
      | false =>
        cases warning with
        | none =>
          refine .inr fun text htext => ?_
          obtain hnone | hnull | ⟨other, hother, hblank⟩ := hwarns
          · cases hnone.symm.trans htext
          · cases hnull.symm.trans htext
          · cases hother.symm.trans htext
            exact hblank
        | some warning => cases h

/-! ## The requests of a call -/

variable {F : Type}

/-- The mutation of the call is confirmed by a later status response for its request id. -/
def Confirmed (config : ClientConfig) (c : Call F) (later : List (Call F)) : Prop :=
  ∃ requestId, c.reply.Carries requestId ∧ ∃ c' ∈ later,
    c'.operation = .mutationStatus requestId ∧ c'.reply.Completes config.allowMutationWarnings

variable {config : ClientConfig} {operation : Operation F} {t : List (Call F)}

/-- More requests do not unsettle a mutation. -/
theorem Settled.mono {reply : Reply} (h : Settled config reply t) (u : List (Call F)) :
    Settled config reply (t ++ u) := by
  obtain ⟨body, hbody, h⟩ := h
  refine ⟨body, hbody, fun hwait => ?_⟩
  obtain ⟨requestId, hid, c, hc, hconfirms⟩ := h hwait
  exact ⟨requestId, hid, c, List.mem_append_left _ hc, hconfirms⟩

theorem Settled.confirmed {c : Call F} (hwait : config.waitForMutations = true)
    (h : Settled config c.reply t) : Confirmed config c t := by
  obtain ⟨body, hbody, h⟩ := h
  obtain ⟨requestId, hid, c', hc', hop, hcheck⟩ := h hwait
  obtain ⟨hne, root, hroot, hget⟩ := mutationRequestId_ok hid
  exact ⟨requestId, ⟨hne, body, root, hbody, hroot, hget⟩, c', hc', hop, checkMutation_true hcheck⟩

/-- A settled mutation is one request, then status requests. -/
theorem Settles.first (h : Settles config operation t) :
    ∃ c rest, t = c :: rest ∧ ∀ d ∈ rest, ¬ d.operation.isMutation = true := by
  obtain ⟨reply, rest, rfl, hwaits, -⟩ := h
  exact ⟨_, rest, rfl, hwaits.not_mutation⟩

theorem Settles.settled {c : Call F} (h : Settles config operation (c :: t)) :
    Settled config c.reply t ∧ ∀ d ∈ t, ¬ d.operation.isMutation = true := by
  obtain ⟨reply, rest, heq, hwaits, hsettled⟩ := h
  cases heq
  exact ⟨hsettled, hwaits.not_mutation⟩

/-- The requests of a call that returned: blocks that settle its mutations. -/
def Served (config : ClientConfig) (ops : List (Operation F)) (t : List (Call F)) : Prop :=
  (∀ op ∈ ops, op.isMutation = true) ∧ Blocks (Settles config) ops t

/-- The requests of a call that failed: at most the last mutation is not settled. -/
def Interrupted (config : ClientConfig) (ops : List (Operation F)) (t : List (Call F)) : Prop :=
  ∃ settled last t₁ t₂, ops = settled ++ last ∧ t = t₁ ++ t₂ ∧ Served config settled t₁ ∧
    (last = [] ∧ t₂ = [] ∨ ∃ op, last = [op] ∧ op.isMutation = true ∧ Breaks config op t₂)

theorem Served.mutations {ops : List (Operation F)} (h : Served config ops t) :
    SuperhumanDocs.mutations t = ops := by
  obtain ⟨hops, blocks, hb, rfl⟩ := h
  induction hb with
  | nil => rfl
  | cons hblock hb ih =>
    obtain ⟨reply, rest, rfl, hwaits, -⟩ := hblock
    rw [List.flatten_cons, mutations_append, mutations_cons reply (hops _ (.head _)) hwaits,
      ih fun op hop => hops op (.tail _ hop)]
    rfl

/-- Every mutation of a call that returned is settled before the next one. -/
theorem Served.settled {ops : List (Operation F)} {t₁ t₂ : List (Call F)} {c : Call F}
    (h : Served config ops (t₁ ++ c :: t₂)) (hc : c.operation.isMutation = true) :
    ∃ rest u, t₂ = rest ++ u ∧ Settled config c.reply rest ∧
      ∀ d ∈ rest, ¬ d.operation.isMutation = true := by
  obtain ⟨op, rest, u, hblock, rfl⟩ := Blocks.split (·.operation.isMutation = true)
    (fun _ _ h => h.first) h.2 hc
  obtain ⟨hsettled, hrest⟩ := hblock.settled
  exact ⟨rest, u, rfl, hsettled, hrest⟩

theorem Served.interrupted {ops : List (Operation F)} (h : Served config ops t) :
    Interrupted config ops t :=
  ⟨ops, [], t, [], by simp, by simp, h, .inl ⟨rfl, rfl⟩⟩

theorem Interrupted.mutations {ops : List (Operation F)} (h : Interrupted config ops t) :
    SuperhumanDocs.mutations t = ops := by
  obtain ⟨settled, last, t₁, t₂, rfl, rfl, hserved, hlast⟩ := h
  rw [mutations_append, hserved.mutations]
  obtain ⟨rfl, rfl⟩ | ⟨op, rfl, hop, reply, rest, rfl, hwaits, -⟩ := hlast
  · rfl
  · rw [mutations_cons reply hop hwaits]

/-- **A mutation is confirmed before the next one is sent.** -/
theorem Interrupted.sequential {ops : List (Operation F)} {t₁ t₂ t₃ : List (Call F)}
    {c c' : Call F} (h : Interrupted config ops (t₁ ++ c :: (t₂ ++ c' :: t₃)))
    (hwait : config.waitForMutations = true) (hc : c.operation.isMutation = true)
    (hc' : c'.operation.isMutation = true) : Confirmed config c t₂ := by
  obtain ⟨settled, last, u₁, u₂, rfl, heq, hserved, hlast⟩ := h
  -- the last block has at most one mutation, so the first of the two is in a settled block
  have hfew : ∀ m, u₂ ≠ m ++ c :: (t₂ ++ c' :: t₃) := by
    rintro m rfl
    have hlen : (SuperhumanDocs.mutations (m ++ c :: (t₂ ++ c' :: t₃))).length ≤ 1 := by
      obtain ⟨-, h⟩ | ⟨op, -, hop, reply, rest, h, hwaits, -⟩ := hlast
      · simp at h
      · rw [h, mutations_cons reply hop hwaits, List.length_singleton]
    simp [SuperhumanDocs.mutations, hc, hc'] at hlen
    omega
  obtain ⟨m, hu₁, heq⟩ | ⟨m, -, heq⟩ := List.append_eq_append_iff.1 heq
  · cases m with
    | nil => exact absurd heq.symm (hfew [])
    | cons d m =>
      rw [List.cons_append, List.cons.injEq] at heq
      obtain ⟨rfl, heq⟩ := heq
      obtain ⟨rest, u, rfl, hsettled, hrest⟩ := (hu₁ ▸ hserved).settled hc
      rw [List.append_assoc] at heq
      obtain ⟨m', rfl, -⟩ := split_after heq.symm hrest hc'
      exact (hsettled.mono m').confirmed hwait
  · exact absurd heq (hfew m)

/-- Without waiting there are no status requests. -/
theorem Interrupted.all_mutations {ops : List (Operation F)} (h : Interrupted config ops t)
    (hwait : config.waitForMutations = false) : ∀ c ∈ t, c.operation.isMutation = true := by
  have hnone : ∀ {rest : List (Call F)}, Waits config rest → rest = [] := by
    intro rest hwaits
    apply List.eq_nil_iff_forall_not_mem.2
    intro c hc
    cases hwait.symm.trans (hwaits c hc).1
  obtain ⟨settled, last, t₁, t₂, -, rfl, ⟨hops, blocks, hblocks, rfl⟩, hlast⟩ := h
  intro c hc
  obtain hc | hc := List.mem_append.1 hc
  · obtain ⟨block, hblock, hc⟩ := List.mem_flatten.1 hc
    obtain ⟨n, hn, rfl⟩ := List.getElem_of_mem hblock
    obtain ⟨reply, rest, heq, hwaits, -⟩ := hblocks.get (hblocks.length_eq ▸ hn) hn
    simp only [List.get_eq_getElem] at heq
    rw [heq, hnone hwaits, List.mem_singleton] at hc
    rw [hc]
    exact hops _ (List.get_mem _ _)
  · obtain ⟨-, rfl⟩ | ⟨op, -, hop, reply, rest, rfl, hwaits, -⟩ := hlast
    · cases hc
    · rw [hnone hwaits, List.mem_singleton] at hc
      rw [hc]
      exact hop

end

/-! ## Every call -/

section
variable {F σ : Type} [F64 F] [SerdeJson] (w : World F σ) (config : ClientConfig) (table : Table)

/-- The operation updates the row with its own payload. -/
def Updates (columns : List RustExtWriteColumn) (values : List (RustExtInputValue F))
    (row : String × Nat) (operation : Operation F) : Prop :=
  ∃ payload, rowPayload table columns values row.2 = .ok payload ∧
    operation = updateRowOperation config table row.1 payload

variable {config table}

theorem served_of_blocks {columns : List RustExtWriteColumn} {values : List (RustExtInputValue F)}
    {rows : List (String × Nat)} {t : List (Call F)}
    (h : Blocks (RowUpdated config table columns values) rows t) :
    ∃ ops, List.Forall₂ (Updates config table columns values) rows ops ∧ Served config ops t := by
  have hchoice : Blocks (fun row t => ∃ op, Updates config table columns values row op ∧
      Settles config op t) rows t := by
    obtain ⟨blocks, hb, rfl⟩ := h
    refine ⟨blocks, hb.imp ?_, rfl⟩
    intro row block ⟨payload, hpayload, hsettles⟩
    exact ⟨_, ⟨payload, hpayload, rfl⟩, hsettles⟩
  obtain ⟨ops, hops, hblocks⟩ := hchoice.choose
  refine ⟨ops, hops, fun op hop => ?_, hblocks⟩
  obtain ⟨n, hn, rfl⟩ := List.getElem_of_mem hop
  obtain ⟨payload, -, heq⟩ := hops.get (hops.length_eq ▸ hn) hn
  simp only [List.get_eq_getElem] at heq
  rw [heq]
  rfl

variable (config table)

/-- **The requests of an update: one for each row, in order, up to a row that fails.** -/
theorem updateRows_interrupted (rowIds : List String) (columns : List RustExtWriteColumn)
    (values : List (RustExtInputValue F)) (s : σ) :
    let outcome := runFrom (updateRows w config table rowIds columns values) s
    ∃ done rest ops, rowIds.zipIdx = done ++ rest ∧
      List.Forall₂ (Updates config table columns values) done ops ∧
      Interrupted config ops outcome.events ∧
      (Succeeds outcome.result → rest = [] ∧ Served config ops outcome.events) := by
  intro outcome
  obtain ⟨n, hn, -, hblocks⟩ | ⟨e, he, herr⟩ :=
    (updateRows_emits w config table columns values rowIds).outcome s
  · obtain ⟨ops, hops, hserved⟩ := served_of_blocks hblocks
    exact ⟨rowIds.zipIdx, [], ops, by simp, hops, hserved.interrupted, fun _ => ⟨rfl, hserved⟩⟩
  · have hfails : ¬ Succeeds outcome.result := fun h => not_succeeds_error (he ▸ h)
    obtain ⟨-, hevents⟩ | ⟨-, done, row, rest, t₁, t₂, hrows, hblocks, hrow, hevents⟩ := herr
    · refine ⟨[], rowIds.zipIdx, [], rfl, .nil, ?_, fun h => absurd h hfails⟩
      rw [hevents]
      exact Served.interrupted ⟨by simp, Blocks.nil⟩
    · obtain ⟨ops, hops, hserved⟩ := served_of_blocks hblocks
      obtain ⟨-, rfl⟩ | ⟨payload, hpayload, hbreaks⟩ := hrow
      · refine ⟨done, row :: rest, ops, hrows, hops, ?_, fun h => absurd h hfails⟩
        rw [hevents, List.append_nil]
        exact hserved.interrupted
      · refine ⟨done ++ [row], rest, ops ++ [updateRowOperation config table row.1 payload],
          by rw [hrows, List.append_assoc, List.singleton_append],
          List.rel_append hops (.cons ⟨payload, hpayload, rfl⟩ .nil), ?_, fun h => absurd h hfails⟩
        rw [hevents]
        exact ⟨ops, _, t₁, t₂, rfl, rfl, hserved, .inr ⟨_, rfl, rfl, hbreaks⟩⟩

/-- **The requests of a call.** -/
theorem dml_interrupted (call : Dml F) (s : σ) :
    let outcome := runFrom (call.run w config table) s
    ∃ ops, Interrupted config ops outcome.events ∧
      (Succeeds outcome.result → Served config ops outcome.events) := by
  intro outcome
  have hnone : Served config ([] : List (Operation F)) [] := ⟨by simp, Blocks.nil⟩
  have hone : ∀ {op : Operation F} {t}, op.isMutation = true → Settles config op t →
      Served config [op] t := by
    intro op t hop h
    refine ⟨by simpa using hop, ?_⟩
    have hblocks : Blocks (Settles config) [op] (t ++ []) := Blocks.cons h Blocks.nil
    rwa [List.append_nil] at hblocks
  have hbreak : ∀ {op : Operation F} {t}, op.isMutation = true → Breaks config op t →
      Interrupted config [op] t :=
    fun hop h => ⟨[], [_], [], _, rfl, rfl, hnone, .inr ⟨_, rfl, hop, h⟩⟩
  cases call with
  | insert columns values rowCount valueColumnCount =>
    obtain ⟨n, hn, payload, -, h⟩ | ⟨e, he, h⟩ := (insertRows_emits w config table columns values
      rowCount valueColumnCount).outcome s
    · exact ⟨_, (hone rfl h).interrupted, fun _ => hone rfl h⟩
    · have hfails : ¬ Succeeds outcome.result := fun h => not_succeeds_error (he ▸ h)
      obtain h | ⟨payload, -, h⟩ := h
      · exact ⟨[], h ▸ hnone.interrupted, fun h => absurd h hfails⟩
      · exact ⟨_, hbreak rfl h, fun h => absurd h hfails⟩
  | update rowIds columns values =>
    obtain ⟨done, rest, ops, -, -, hinterrupted, hserved⟩ :=
      updateRows_interrupted w config table rowIds columns values s
    exact ⟨ops, hinterrupted, fun h => (hserved h).2⟩
  | delete rowIds =>
    obtain ⟨n, hn, h⟩ | ⟨e, he, h⟩ := (deleteRows_emits w config table rowIds).outcome s
    · obtain ⟨-, h⟩ | h := h
      · exact ⟨[], h ▸ hnone.interrupted, fun _ => h ▸ hnone⟩
      · exact ⟨_, (hone rfl h).interrupted, fun _ => hone rfl h⟩
    · have hfails : ¬ Succeeds outcome.result := fun h => not_succeeds_error (he ▸ h)
      obtain h | h := h
      · exact ⟨[], h ▸ hnone.interrupted, fun h => absurd h hfails⟩
      · exact ⟨_, hbreak rfl h, fun h => absurd h hfails⟩

/-- **A call waits as its config says.** -/
theorem dml_waits (call : Dml F) (s : σ) :
    (config.waitForMutations = true → Succeeds (call.outcome w config table s).result →
      ∀ t₁ c t₂, (call.outcome w config table s).events = t₁ ++ c :: t₂ →
        c.operation.isMutation = true → Confirmed config c t₂) ∧
    (∀ rowIds columns values, call = .update rowIds columns values →
      (∃ done rest, rowIds.zipIdx = done ++ rest ∧
        List.Forall₂ (Updates config table columns values) done
          (mutations (call.outcome w config table s).events) ∧
        (Succeeds (call.outcome w config table s).result → rest = [])) ∧
      (config.waitForMutations = true → ∀ t₁ c t₂ c' t₃,
        (call.outcome w config table s).events = t₁ ++ c :: (t₂ ++ c' :: t₃) →
        c.operation.isMutation = true → c'.operation.isMutation = true →
        Confirmed config c t₂)) ∧
    (config.waitForMutations = false →
      ∀ c ∈ (call.outcome w config table s).events, c.operation.isMutation = true) := by
  obtain ⟨ops, hinterrupted, hserved⟩ := dml_interrupted w config table call s
  refine ⟨?_, ?_, hinterrupted.all_mutations⟩
  · intro hwait hok t₁ c t₂ hevents hc
    have hserved : Served config ops (call.outcome w config table s).events := hserved hok
    rw [hevents] at hserved
    obtain ⟨rest, u, rfl, hsettled, -⟩ := hserved.settled hc
    exact (hsettled.mono u).confirmed hwait
  · rintro rowIds columns values rfl
    obtain ⟨done, rest, ops, hrows, hops, hinterrupted, hserved⟩ :=
      updateRows_interrupted w config table rowIds columns values s
    have hinterrupted : Interrupted config ops
        (Dml.outcome w config table (.update rowIds columns values) s).events := hinterrupted
    refine ⟨⟨done, rest, hrows, ?_, fun h => (hserved h).1⟩, ?_⟩
    · rw [hinterrupted.mutations]
      exact hops
    · intro hwait t₁ c t₂ c' t₃ hevents hc hc'
      rw [hevents] at hinterrupted
      exact hinterrupted.sequential hwait hc hc'

end

open Json.Reference Reference

theorem dml_waits_delete :
    Confirmed (F := Binary64) config
      ⟨deleteRowsOperation config table ["r1"], mutationReply "m1"⟩
      [⟨.mutationStatus "m1", statusReply true⟩] := by
  have hrun := delete_scripted table "r1" (show "m1" ≠ "" by decide) [] 0
  refine (dml_waits scripted config table (.delete ["r1"])
    ([mutationReply "m1", statusReply true], 0)).1 rfl ?_ [] _ _ ?_ rfl
  · exact ⟨1, congrArg (·.result) hrun⟩
  · exact congrArg (·.events) hrun

end SuperhumanDocs
