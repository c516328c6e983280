import SuperhumanDocs.Sdk.Calls

/-!
# Whose response a call returns

The calls keep to the mutex `execution`, so each of them sees the exchange slot as if nobody else
wrote it (`sdkCall_discipline`). What is left is one call on its own (`CallInv`): the slot holds
the last response its requests received, whatever a dropped call left there before.

* `calls_keep_responses`: a call returns the body of the last response of its own requests.
-/

set_option autoImplicit false

namespace SuperhumanDocs

open Concurrency

/-! ## The lock -/

namespace SdkCall

def HoldsLock (call : SdkCall) : Prop :=
  match call.phase with
  | .waiting | .concluding _ | .ended => False
  | _ => True

/-- The call relies on what is in the slot. -/
def UsesSlot (call : SdkCall) : Prop :=
  match call.phase with
  | .operating _ | .storing _ _ | .operated _ => True
  | _ => False

end SdkCall

theorem sdkCall_discipline :
    executionLock.Discipline SdkCall.Step SdkCall.HoldsLock SdkCall.UsesSlot where
  holds_of_inside call h := by
    obtain ⟨entry, phase⟩ := call
    cases phase <;> simp_all [SdkCall.UsesSlot, SdkCall.HoldsLock]
  acquire call a call' hstep h := by
    cases hstep <;>
      simp_all [executionLock, SdkAction.locks, SdkCall.HoldsLock, SdkCall.UsesSlot]
  release call a call' hstep h := by
    cases hstep <;> simp_all [executionLock, SdkAction.unlocks, SdkCall.HoldsLock]
  keep call a call' hstep hlocks hunlocks := by
    cases hstep <;>
      simp_all [executionLock, SdkAction.locks, SdkAction.unlocks, SdkCall.HoldsLock]
  untouched call a call' slot slot' hstep hlocks hunlocks hholds huse := by
    cases hstep <;>
      simp_all [executionLock, SdkAction.locks, SdkAction.unlocks, SdkAction.usesSlot,
        SdkCall.HoldsLock]
  enter call a call' slot slot' other hstep hlocks hunlocks hinside huse := by
    cases hstep with
    | clear => exact ⟨none, rfl, fun _ => huse.symm⟩
    | finish => exact ⟨other, rfl, fun h => h.elim⟩
    | lock => simp [executionLock, SdkAction.locks] at hlocks
    | inner | cancel => simp [executionLock, SdkAction.unlocks] at hunlocks
    | _ => simp [SdkCall.UsesSlot] at hinside

/-! ## One call -/

/-- The responses the requests of a call received. -/
def received (acts : List SdkAction) : List Exchange :=
  acts.filterMap fun
    | .receive exchange => some exchange
    | _ => none

/-- How the operation of a call ended. -/
def results (acts : List SdkAction) : List (Except SdkError Unit) :=
  acts.filterMap fun
    | .returned result => some result
    | _ => none

/-- A call did not end yet. -/
def Unfinished (acts : List SdkAction) : Prop :=
  ∀ outcome, .inner outcome ∉ acts ∧ .finish outcome ∉ acts

/-- What `execute_inner` works with is what happened in the call. -/
def Observed (acts : List SdkAction) (reply : Reply) : Prop :=
  reply.exchange = (received acts).getLast? ∧ results acts = [reply.result]

/-- A call on its own, by how far it has come: the slot, what was received, and that nothing was
returned before the end. -/
def PhaseInv (slot : Option Exchange) (acts : List SdkAction) : SdkPhase → Prop
  | .waiting | .locked => Unfinished acts ∧ received acts = [] ∧ results acts = []
  | .operating _ => Unfinished acts ∧ slot = (received acts).getLast? ∧ results acts = []
  | .storing _ exchange =>
    Unfinished acts ∧ (received acts).getLast? = some exchange ∧ results acts = []
  | .operated result =>
    Unfinished acts ∧ slot = (received acts).getLast? ∧ results acts = [result]
  | .taken reply => Unfinished acts ∧ Observed acts reply
  | .concluding inner => .inner inner ∈ acts
  | .ended => True

structure CallInv (entry : SdkEntry) (call : SdkCall) (slot : Option Exchange)
    (acts : List SdkAction) : Prop where
  entry_eq : call.entry = entry
  phase : PhaseInv slot acts call.phase
  inner : ∀ outcome, .inner outcome ∈ acts →
    ∃ reply, Observed acts reply ∧ outcome = executeInner entry.acceptedStatus reply
  finish : ∀ outcome, .finish outcome ∈ acts → ∃ reply, Observed acts reply ∧
    outcome = entry.conclude (executeInner entry.acceptedStatus reply)

theorem received_append (acts acts' : List SdkAction) :
    received (acts ++ acts') = received acts ++ received acts' := by
  simp [received]

theorem results_append (acts acts' : List SdkAction) :
    results (acts ++ acts') = results acts ++ results acts' := by
  simp [results]

theorem received_snoc {acts : List SdkAction} {a : SdkAction} (h : received [a] = []) :
    received (acts ++ [a]) = received acts := by
  rw [received_append, h, List.append_nil]

theorem results_snoc {acts : List SdkAction} {a : SdkAction} (h : results [a] = []) :
    results (acts ++ [a]) = results acts := by
  rw [results_append, h, List.append_nil]

theorem Unfinished.snoc {acts : List SdkAction} {a : SdkAction} (h : Unfinished acts)
    (ha : ∀ outcome, a ≠ .inner outcome ∧ a ≠ .finish outcome) : Unfinished (acts ++ [a]) := by
  intro outcome
  simp [h outcome, Ne.symm (ha outcome).1, Ne.symm (ha outcome).2]

/-- What was observed stays so when nothing more is received and the operation is over. -/
theorem Observed.snoc {acts : List SdkAction} {a : SdkAction} {reply : Reply}
    (h : Observed acts reply) (hreceived : received [a] = []) (hresults : results [a] = []) :
    Observed (acts ++ [a]) reply := by
  rwa [Observed, received_snoc hreceived, results_snoc hresults]

namespace CallInv

variable {entry : SdkEntry} {call call' : SdkCall} {slot slot' : Option Exchange}
  {acts : List SdkAction} {a : SdkAction}

theorem of_unfinished (hentry : call.entry = entry) (h : Unfinished acts)
    (hphase : PhaseInv slot acts call.phase) : CallInv entry call slot acts where
  entry_eq := hentry
  phase := hphase
  inner outcome hmem := absurd hmem (h outcome).1
  finish outcome hmem := absurd hmem (h outcome).2

/-- **The step** of one call on its own. -/
theorem step (h : CallInv entry call slot acts) (hstep : SdkCall.Step call a call')
    (hslot : executionLock.alone slot a slot') : CallInv entry call' slot' (acts ++ [a]) := by
  have hentry := h.entry_eq
  have hphase := h.phase
  cases hstep with
  | lock =>
    obtain ⟨hunfinished, hreceived, hresults⟩ := hphase
    have hsnoc := hunfinished.snoc (a := .lock) (by simp)
    exact of_unfinished hentry hsnoc
      ⟨hsnoc, (received_snoc rfl).trans hreceived, (results_snoc rfl).trans hresults⟩
  | clear =>
    obtain ⟨hunfinished, hreceived, hresults⟩ := hphase
    have hsnoc := hunfinished.snoc (a := .clear) (by simp)
    refine of_unfinished hentry hsnoc ⟨hsnoc, ?_, (results_snoc rfl).trans hresults⟩
    rw [received_snoc rfl, hreceived]
    exact hslot
  | @send _ _ expectedStatus =>
    obtain ⟨hunfinished, hlast, hresults⟩ := hphase
    have hsnoc := hunfinished.snoc (a := .send expectedStatus) (by simp)
    refine of_unfinished hentry hsnoc ⟨hsnoc, ?_, (results_snoc rfl).trans hresults⟩
    rw [received_snoc rfl, ← hlast]
    exact hslot
  | @receive _ _ exchange =>
    obtain ⟨hunfinished, -, hresults⟩ := hphase
    have hsnoc := hunfinished.snoc (a := .receive exchange) (by simp)
    refine of_unfinished hentry hsnoc ⟨hsnoc, ?_, (results_snoc rfl).trans hresults⟩
    rw [received_append]
    exact List.getLast?_concat
  | @store _ _ exchange =>
    obtain ⟨hunfinished, hlast, hresults⟩ := hphase
    have hsnoc := hunfinished.snoc (a := .store exchange) (by simp)
    refine of_unfinished hentry hsnoc ⟨hsnoc, ?_, (results_snoc rfl).trans hresults⟩
    rw [received_snoc rfl, hlast]
    exact hslot
  | @fail _ _ expectedStatus =>
    obtain ⟨hunfinished, hlast, hresults⟩ := hphase
    have hsnoc := hunfinished.snoc (a := .fail expectedStatus) (by simp)
    refine of_unfinished hentry hsnoc ⟨hsnoc, ?_, (results_snoc rfl).trans hresults⟩
    rw [received_snoc rfl, ← hlast]
    exact hslot
  | @returned _ _ result =>
    obtain ⟨hunfinished, hlast, hresults⟩ := hphase
    have hsnoc := hunfinished.snoc (a := .returned result) (by simp)
    refine of_unfinished hentry hsnoc ⟨hsnoc, ?_, ?_⟩
    · rw [received_snoc rfl, ← hlast]
      exact hslot
    · rw [results_append, hresults]; rfl
  | @take _ reply =>
    obtain ⟨hunfinished, hlast, hresults⟩ := hphase
    have hsnoc := hunfinished.snoc (a := .take reply.exchange) (by simp)
    have htaken : reply.exchange = slot := hslot.1
    have hobserved : Observed acts reply := ⟨htaken.trans hlast, hresults⟩
    exact of_unfinished hentry hsnoc ⟨hsnoc, hobserved.snoc rfl rfl⟩
  | @inner entry' reply =>
    obtain ⟨hunfinished, hobserved⟩ := hphase
    obtain rfl : entry' = entry := hentry
    refine ⟨rfl, by simp [PhaseInv], fun outcome hmem => ?_, fun outcome hmem => ?_⟩
    · have houtcome : outcome = executeInner entry'.acceptedStatus reply := by
        simpa [hunfinished outcome] using hmem
      exact ⟨reply, hobserved.snoc rfl rfl, houtcome⟩
    · simp [hunfinished outcome] at hmem
  | @finish entry' inner =>
    obtain rfl : entry' = entry := hentry
    obtain ⟨reply, hobserved, hinner⟩ := h.inner inner hphase
    refine ⟨rfl, trivial, fun outcome hmem => ?_, fun outcome hmem => ?_⟩
    · obtain ⟨reply, hobserved, houtcome⟩ := h.inner outcome (by simpa using hmem)
      exact ⟨reply, hobserved.snoc rfl rfl, houtcome⟩
    · rcases List.mem_append.mp hmem with hmem | hmem
      · obtain ⟨reply, hobserved, houtcome⟩ := h.finish outcome hmem
        exact ⟨reply, hobserved.snoc rfl rfl, houtcome⟩
      · have houtcome : outcome = entry'.conclude inner := by simpa using hmem
        exact ⟨reply, hobserved.snoc rfl rfl, hinner ▸ houtcome⟩
  | cancel =>
    refine ⟨hentry, trivial, fun outcome hmem => ?_, fun outcome hmem => ?_⟩
    · obtain ⟨reply, hobserved, houtcome⟩ := h.inner outcome (by simpa using hmem)
      exact ⟨reply, hobserved.snoc rfl rfl, houtcome⟩
    · obtain ⟨reply, hobserved, houtcome⟩ := h.finish outcome (by simpa using hmem)
      exact ⟨reply, hobserved.snoc rfl rfl, houtcome⟩

end CallInv

/-- **The invariant of a call** among any number of them. -/
theorem SdkClient.Run.callInv {ι : Type} [DecidableEq ι] {entries : ι → SdkEntry}
    {es : List (ι × SdkAction)} {s : State ι SdkCall (Locked ι (Option Exchange))}
    (h : SdkClient.Run entries es s) (i : ι) :
    ∃ slot, CallInv (entries i) (s.procs i) slot (own i es) := by
  have hunfinished : Unfinished [] := by simp [Unfinished]
  refine sdkCall_discipline.invariant (d := none) h (fun j hholds => hholds) ?_
    fun call slot acts a call' slot' hinv => hinv.step
  exact CallInv.of_unfinished rfl hunfinished ⟨hunfinished, rfl, rfl⟩

/-! ## What a call returns -/

theorem map_some_eq_ok {inner : Except String String} {value : Option String}
    (h : inner.map some = .ok value) : ∃ body, value = some body ∧ inner = .ok body := by
  cases inner with
  | error e => cases h
  | ok body => exact ⟨body, (Except.ok.inj h).symm, rfl⟩

/-- With a body, it is the one of the response observed. -/
theorem executeInner_eq_some {acceptedStatus : Option Nat} {reply : Reply} {body : String}
    (h : executeInner acceptedStatus reply = .ok (some body)) :
    ∃ exchange, reply.exchange = some exchange ∧ responseBody exchange.response = .ok body ∧
      (reply.result = .ok () ∨ ∃ text, reply.result = .error (.deserialize text) ∧
        exchange.response.status = exchange.expectedStatus) := by
  obtain ⟨result, exchange, accepted⟩ := reply
  have hbody : ∀ exchange : Exchange,
      (responseBody exchange.response).map some = .ok (some body) →
        responseBody exchange.response = .ok body := by
    intro exchange h
    obtain ⟨body', hsome, hbody⟩ := map_some_eq_ok h
    rwa [← Option.some.inj hsome] at hbody
  rcases result with (text | ⟨actual, text⟩ | text) | _ <;> rcases exchange with _ | exchange <;>
    simp only [executeInner, reduceCtorEq] at h
  · by_cases hstatus : exchange.response.status = exchange.expectedStatus
    · rw [if_pos hstatus] at h
      exact ⟨exchange, rfl, hbody exchange h, .inr ⟨text, rfl, hstatus⟩⟩
    · simp [if_neg hstatus] at h
  · split at h <;> simp at h
  · exact ⟨exchange, rfl, hbody exchange h, .inl rfl⟩

/-- Without one, the operation failed with the status that is accepted. -/
theorem executeInner_eq_none {acceptedStatus : Option Nat} {reply : Reply}
    (h : executeInner acceptedStatus reply = .ok none) :
    ∃ status text, acceptedStatus = some status ∧
      reply.result = .error (.unexpectedStatus status text) := by
  obtain ⟨result, exchange, accepted⟩ := reply
  have hbody : ∀ exchange : Exchange, (responseBody exchange.response).map some ≠ .ok none := by
    intro exchange h
    obtain ⟨body, hsome, -⟩ := map_some_eq_ok h
    cases hsome
  rcases result with (text | ⟨actual, text⟩ | text) | _ <;> rcases exchange with _ | exchange <;>
    simp only [executeInner, reduceCtorEq] at h
  · split at h
    · exact absurd h (hbody exchange)
    · simp at h
  · by_cases haccepted : acceptedStatus = some actual
    · exact ⟨actual, text, haccepted, rfl⟩
    · simp [if_neg haccepted] at h
  · exact absurd h (hbody exchange)

theorem SdkEntry.conclude_eq_ok {entry : SdkEntry} {inner : Except String (Option String)}
    {value : Option String} (h : entry.conclude inner = .ok value) : inner = .ok value := by
  unfold SdkEntry.conclude at h
  split at h
  · simp at h
  · exact h

/-- **A call returns its own response**: a body is that of the last response received by a
request of the same call, and the operation ended well or could not read a response of the
expected status; without a body, the operation failed with the accepted status; and `execute`
has always a body to return. -/
theorem calls_keep_responses {ι : Type} [DecidableEq ι] {entries : ι → SdkEntry}
    {es : List (ι × SdkAction)} {s : State ι SdkCall (Locked ι (Option Exchange))}
    (h : SdkClient.Run entries es s) (i : ι) :
    (∀ body, .finish (.ok (some body)) ∈ own i es → ∃ exchange result,
      (received (own i es)).getLast? = some exchange ∧
      responseBody exchange.response = .ok body ∧ results (own i es) = [result] ∧
      (result = .ok () ∨ ∃ text, result = .error (.deserialize text) ∧
        exchange.response.status = exchange.expectedStatus)) ∧
    (.finish (.ok none) ∈ own i es → ∃ status text,
      entries i = .executeAcceptingStatus status ∧
      results (own i es) = [.error (.unexpectedStatus status text)]) ∧
    (entries i = .execute → .inner (.ok none) ∉ own i es) := by
  obtain ⟨slot, hinv⟩ := h.callInv i
  refine ⟨fun body hmem => ?_, fun hmem => ?_, fun hentry hmem => ?_⟩
  · obtain ⟨reply, ⟨hlast, hresults⟩, hfinish⟩ := hinv.finish _ hmem
    obtain ⟨exchange, hexchange, hbody, hresult⟩ :=
      executeInner_eq_some (SdkEntry.conclude_eq_ok hfinish.symm)
    exact ⟨exchange, reply.result, hlast ▸ hexchange, hbody, hresults, hresult⟩
  · obtain ⟨reply, ⟨-, hresults⟩, hfinish⟩ := hinv.finish _ hmem
    obtain ⟨status, text, haccepted, hresult⟩ :=
      executeInner_eq_none (SdkEntry.conclude_eq_ok hfinish.symm)
    have hentry : entries i = .executeAcceptingStatus status := by
      cases he : entries i <;> simp_all [SdkEntry.acceptedStatus]
    exact ⟨status, text, hentry, hresult ▸ hresults⟩
  · obtain ⟨reply, -, hinner⟩ := hinv.inner _ hmem
    obtain ⟨status, text, haccepted, -⟩ := executeInner_eq_none hinner.symm
    simp [hentry, SdkEntry.acceptedStatus] at haccepted

/-! ### A call after one that was dropped -/

section

def okExchange (body : String) : Exchange := ⟨200, ⟨200, body.toUTF8⟩⟩

/-- The first call is dropped with its response in the slot; the second call gets its own. -/
def staleRun : List (Nat × SdkAction) :=
  [(0, .lock), (0, .clear), (0, .send 200), (0, .receive (okExchange "old")),
    (0, .store (okExchange "old")), (0, .cancel),
    (1, .lock), (1, .clear), (1, .send 200), (1, .receive (okExchange "new")),
    (1, .store (okExchange "new")), (1, .returned (.ok ())),
    (1, .take (some (okExchange "new"))), (1, .inner (.ok (some "new"))),
    (1, .finish (.ok (some "new")))]

theorem staleRun_run : ∃ s, SdkClient.Run (fun _ => .execute) staleRun s := by
  have hinner : executeInner none ⟨.ok (), some (okExchange "new"), true⟩ =
      .ok (some "new") := by
    simp only [executeInner, okExchange, responseBody, fromUTF8?_toUTF8, Except.map]
  have hconclude : SdkCall.Step ⟨.execute, .taken ⟨.ok (), some (okExchange "new"), true⟩⟩
      (.inner (.ok (some "new"))) ⟨.execute, .concluding (.ok (some "new"))⟩ := by
    rw [← hinner]
    exact .inner
  have h0 : SdkClient.Run (fun _ : Nat => .execute) [] _ := .nil
  have h1 := h0.snoc (i := 0) .lock (.acquire rfl)
  have h2 := h1.snoc (i := 0) .clear (.use rfl rfl rfl)
  have h3 := h2.snoc (i := 0) (@SdkCall.Step.send .execute [] 200) (.use rfl rfl rfl)
  have h4 := h3.snoc (i := 0) (@SdkCall.Step.receive .execute [200] (okExchange "old")
    List.mem_cons_self) (.use rfl rfl rfl)
  have h5 := h4.snoc (i := 0) .store (.use rfl rfl rfl)
  have h6 := h5.snoc (i := 0) (.cancel (by simp)) (.release rfl rfl)
  have h7 := h6.snoc (i := 1) .lock (.acquire rfl)
  have h8 := h7.snoc (i := 1) .clear (.use rfl rfl rfl)
  have h9 := h8.snoc (i := 1) (@SdkCall.Step.send .execute [] 200) (.use rfl rfl rfl)
  have h10 := h9.snoc (i := 1) (@SdkCall.Step.receive .execute [200] (okExchange "new")
    List.mem_cons_self) (.use rfl rfl rfl)
  have h11 := h10.snoc (i := 1) .store (.use rfl rfl rfl)
  have h12 := h11.snoc (i := 1) (@SdkCall.Step.returned .execute [] (.ok ())) (.use rfl rfl rfl)
  have h13 := h12.snoc (i := 1) (@SdkCall.Step.take .execute
    ⟨.ok (), some (okExchange "new"), true⟩) (.use rfl rfl ⟨rfl, rfl⟩)
  have h14 := h13.snoc (i := 1) hconclude (.release rfl rfl)
  have h15 := h14.snoc (i := 1) .finish (.use rfl rfl rfl)
  exact ⟨_, h15⟩

theorem calls_keep_responses_after_cancel : ∃ exchange result,
    (received (own 1 staleRun)).getLast? = some exchange ∧
    responseBody exchange.response = .ok "new" ∧ results (own 1 staleRun) = [result] ∧
    (result = .ok () ∨ ∃ text, result = .error (.deserialize text) ∧
      exchange.response.status = exchange.expectedStatus) := by
  obtain ⟨s, hrun⟩ := staleRun_run
  exact (calls_keep_responses hrun 1).1 "new" (by simp [own, staleRun])

end

end SuperhumanDocs
