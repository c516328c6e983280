import SuperhumanDocs.Mutation.Reference

/-!
# Asking for the status of a mutation

`pollMutationStatus` in a world that logs the requests and the sleeps with their times. `Polls`
says what each round of the loop does; the bounds follow from it by induction on the rounds.

* `polling_bounded`: the number and the times of the requests, the sleeps, the result.
-/

set_option autoImplicit false

namespace SuperhumanDocs

open Effect (Run Traced runFrom finish)
open Json (SerdeJson)

/-! ## Logs -/

/-- A request for the status, or a sleep, and the time at which it began. -/
inductive PollEvent where
  | fetch (time : Nat) (reply : Reply)
  | sleep (time duration : Nat)

/-- The requests of a log. -/
def fetches : List PollEvent → List (Nat × Reply)
  | [] => []
  | .fetch time reply :: log => (time, reply) :: fetches log
  | .sleep _ _ :: log => fetches log

/-- The sleeps of a log. -/
def sleeps : List PollEvent → List (Nat × Nat)
  | [] => []
  | .fetch _ _ :: log => sleeps log
  | .sleep time duration :: log => (time, duration) :: sleeps log

/-! ## Messages -/

/-- The message of a completion with a warning. -/
def warningMessage (requestId warning : String) : String :=
  "Superhuman Docs mutation " ++ requestId ++
    " completed with a warning and cannot be rolled back: " ++ warning

theorem timeoutMessage_eq (requestId : String) (timeout : Nat) :
    timeoutMessage requestId timeout = "Superhuman Docs mutation " ++ (requestId ++
      (" did not complete within " ++ (Nat.repr (timeout / nanosPerSecond) ++ (" " ++
        "seconds; remote completion is unknown and may occur later")))) := by
  change "Superhuman Docs mutation " ++ requestId ++ " did not complete within " ++
    Nat.repr (timeout / nanosPerSecond) ++ " " ++
      "seconds; remote completion is unknown and may occur later" = _
  simp only [String.append_assoc]

theorem warningMessage_eq (requestId warning : String) :
    warningMessage requestId warning = "Superhuman Docs mutation " ++ (requestId ++
      (" completed with a warning and cannot be rolled back: " ++ warning)) := by
  unfold warningMessage
  simp only [String.append_assoc]

theorem failedMessage_ne_timeout (requestId e : String) (timeout : Nat) :
    s!"failed to check Superhuman Docs mutation {requestId}: {e}" ≠
      timeoutMessage requestId timeout := by
  intro h
  have hfirst := congrArg (fun message => message.toList.head?) h
  rw [timeoutMessage_eq] at hfirst
  change ("failed to check Superhuman Docs mutation " ++ requestId ++ ": " ++ e).toList.head? = _
    at hfirst
  simp [String.toList_append] at hfirst

theorem warningMessage_ne_timeout (requestId warning : String) (timeout : Nat) :
    warningMessage requestId warning ≠ timeoutMessage requestId timeout := by
  intro h
  -- The messages differ behind the request id.
  have hbehind := (String.append_right_inj _).1 ((String.append_right_inj _).1
    ((warningMessage_eq requestId warning).symm.trans (h.trans (timeoutMessage_eq requestId timeout))))
  have hsecond := congrArg (fun message => message.toList[1]?) hbehind
  simp only [String.toList_append] at hsecond
  rw [List.getElem?_append_left (by decide +kernel),
    List.getElem?_append_left (by decide +kernel)] at hsecond
  revert hsecond
  decide +kernel

/-! ## The same rounds with a log -/

section
variable {F σ : Type}

/-- The same world with a log. -/
def World.logged (w : World F σ) : World F (σ × List PollEvent) where
  runtime := w.runtime
  newClient := w.newClient
  send s operation := ((w.send s.1 operation).1, (w.send s.1 operation).2,
    s.2 ++ [.fetch (w.now s.1) (w.send s.1 operation).1])
  now s := w.now s.1
  sleep s duration := (w.sleep s.1 duration, s.2 ++ [.sleep (w.now s.1) duration])
  now_send s operation := w.now_send s.1 operation
  now_sleep s duration := w.now_sleep s.1 duration

@[simp] theorem logged_elapsed (w : World F σ) (started : Nat) (s : σ) (log : List PollEvent) :
    w.logged.elapsed started (s, log) = w.elapsed started s := rfl

@[simp] theorem logged_sleep (w : World F σ) (s : σ) (log : List PollEvent) (duration : Nat) :
    w.logged.sleep (s, log) duration = (w.sleep s duration, log ++ [.sleep (w.now s) duration]) :=
  rfl

@[simp] theorem logged_send (w : World F σ) (s : σ) (log : List PollEvent)
    (operation : Operation F) : w.logged.send (s, log) operation = ((w.send s operation).1,
      ((w.send s operation).2, log ++ [.fetch (w.now s) (w.send s operation).1])) := rfl

/-- The requests of a log as calls of the client. -/
def statusCalls (requestId : String) (log : List PollEvent) : List (Call F) :=
  (fetches log).map fun fetch => ⟨.mutationStatus requestId, fetch.2⟩

variable [SerdeJson] (w : World F σ) (requestId : String) (timeout : Nat) (allowWarnings : Bool)
  (started : Nat)

/-- The rounds of the loop from a state: what is logged, the result and the state at the end. -/
inductive Polls : Bool → σ → List PollEvent → Except String Unit → σ → Prop
  | late {s : σ} : timeout ≤ w.elapsed started s →
      Polls false s [] (.error (timeoutMessage requestId timeout)) s
  | failed {firstCheck : Bool} {s s' : σ} {reply : Reply} {e : String} :
      (firstCheck = false → w.elapsed started s < timeout) →
      w.send s (.mutationStatus requestId) = (reply, s') →
      checkMutation requestId allowWarnings reply = .error e →
      Polls firstCheck s [.fetch (w.now s) reply] (.error e) s'
  | completed {firstCheck : Bool} {s s' : σ} {reply : Reply} :
      (firstCheck = false → w.elapsed started s < timeout) →
      w.send s (.mutationStatus requestId) = (reply, s') →
      checkMutation requestId allowWarnings reply = .ok true →
      Polls firstCheck s [.fetch (w.now s) reply] (.ok ()) s'
  | expired {firstCheck : Bool} {s s' : σ} {reply : Reply} :
      (firstCheck = false → w.elapsed started s < timeout) →
      w.send s (.mutationStatus requestId) = (reply, s') →
      checkMutation requestId allowWarnings reply = .ok false →
      timeout ≤ w.elapsed started s' →
      Polls firstCheck s [.fetch (w.now s) reply] (.error (timeoutMessage requestId timeout)) s'
  | again {firstCheck : Bool} {s s' final : σ} {reply : Reply} {pause : Nat}
      {log : List PollEvent} {result : Except String Unit} :
      (firstCheck = false → w.elapsed started s < timeout) →
      w.send s (.mutationStatus requestId) = (reply, s') →
      checkMutation requestId allowWarnings reply = .ok false →
      w.elapsed started s' < timeout →
      pause = min mutationPollInterval (timeout - w.elapsed started s') →
      Polls false (w.sleep s' pause) log result final →
      Polls firstCheck s (.fetch (w.now s) reply :: .sleep (w.now s') pause :: log) result final

section
variable {w requestId timeout allowWarnings started} {firstCheck : Bool} {run : Run σ (Call F)}
  {reply : Reply} {s' : σ}

theorem poll_late (hlate : timeout ≤ w.elapsed started run.state) :
    pollMutationStatus w requestId timeout allowWarnings started false run =
      .error (timeoutMessage requestId timeout) run := by
  rw [pollMutationStatus, if_pos (by simpa using hlate)]

/-- A round that asks for the status goes on as the reply says. -/
theorem poll_asks (hopen : firstCheck = false → w.elapsed started run.state < timeout)
    (hsend : w.send run.state (.mutationStatus requestId) = (reply, s')) :
    pollMutationStatus w requestId timeout allowWarnings started firstCheck run =
      match checkMutation requestId allowWarnings reply with
      | .error e => .error e ⟨s', run.trace ++ [⟨.mutationStatus requestId, reply⟩]⟩
      | .ok true => .ok () ⟨s', run.trace ++ [⟨.mutationStatus requestId, reply⟩]⟩
      | .ok false =>
        if timeout ≤ w.elapsed started s' then
          .error (timeoutMessage requestId timeout)
            ⟨s', run.trace ++ [⟨.mutationStatus requestId, reply⟩]⟩
        else
          pollMutationStatus w requestId timeout allowWarnings started false
            ⟨w.sleep s' (min mutationPollInterval (timeout - w.elapsed started s')),
              run.trace ++ [⟨.mutationStatus requestId, reply⟩]⟩ := by
  have hguard : ¬ (!firstCheck && decide (timeout ≤ w.elapsed started run.state)) = true := by
    cases firstCheck with
    | true => simp
    | false => simpa using hopen rfl
  obtain rfl : (w.send run.state (.mutationStatus requestId)).1 = reply := by rw [hsend]
  obtain rfl : (w.send run.state (.mutationStatus requestId)).2 = s' := by rw [hsend]
  rw [pollMutationStatus]
  exact if_neg hguard

end

/-- **The loop makes these rounds, and the log changes nothing else.** -/
theorem pollMutationStatus_polls (firstCheck : Bool) (run : Run σ (Call F)) :
    ∃ log result final,
      Polls w requestId timeout allowWarnings started firstCheck run.state log result final ∧
      pollMutationStatus w requestId timeout allowWarnings started firstCheck run =
        finish result ⟨final, run.trace ++ statusCalls requestId log⟩ ∧
      ∀ before, pollMutationStatus w.logged requestId timeout allowWarnings started firstCheck
          ⟨(run.state, before), run.trace⟩ =
        finish result ⟨(final, before ++ log), run.trace ++ statusCalls requestId log⟩ := by
  fun_induction pollMutationStatus w requestId timeout allowWarnings started firstCheck run with
  | case1 firstCheck run h =>
    simp only [Bool.and_eq_true, Bool.not_eq_true', decide_eq_true_eq] at h
    obtain ⟨rfl, hlate⟩ := h
    refine ⟨[], _, _, .late hlate, by simp [finish, statusCalls, fetches], fun before => ?_⟩
    rw [poll_late (w := w.logged) hlate]
    simp [finish, statusCalls, fetches]
  | case2 firstCheck run h operation reply s run' e hcheck =>
    have hopen : firstCheck = false → w.elapsed started run.state < timeout := by simpa using h
    refine ⟨_, _, _, .failed hopen rfl hcheck, rfl, fun before => ?_⟩
    rw [poll_asks (w := w.logged) hopen (logged_send ..), hcheck]
    rfl
  | case3 firstCheck run h operation reply s run' hcheck =>
    have hopen : firstCheck = false → w.elapsed started run.state < timeout := by simpa using h
    refine ⟨_, _, _, .completed hopen rfl hcheck, rfl, fun before => ?_⟩
    rw [poll_asks (w := w.logged) hopen (logged_send ..), hcheck]
    rfl
  | case4 firstCheck run h operation reply s run' hcheck hlate =>
    have hopen : firstCheck = false → w.elapsed started run.state < timeout := by simpa using h
    refine ⟨_, _, _, .expired hopen rfl hcheck hlate, rfl, fun before => ?_⟩
    rw [poll_asks (w := w.logged) hopen (logged_send ..), hcheck]
    exact if_pos hlate
  | case5 firstCheck run h operation reply s run' hcheck hleft pause ih =>
    have hopen : firstCheck = false → w.elapsed started run.state < timeout := by simpa using h
    obtain ⟨log, result, final, hpolls, hrun, hlogged⟩ := ih
    refine ⟨_, _, _, .again hopen rfl hcheck (Nat.lt_of_not_le hleft) rfl hpolls, ?_,
      fun before => ?_⟩
    · rw [hrun]
      simp [statusCalls, fetches, run', operation, reply]
    · rw [poll_asks (w := w.logged) hopen (logged_send ..), hcheck]
      refine (if_neg hleft).trans ?_
      rw [logged_sleep, logged_elapsed]
      refine (hlogged _).trans ?_
      simp [statusCalls, fetches, run', operation, reply]

/-! ## Bounds -/

variable {w requestId timeout allowWarnings started} {firstCheck : Bool} {s final : σ}
  {log : List PollEvent} {result : Except String Unit}

omit [SerdeJson] in
theorem World.now_le_of_send {operation : Operation F} {reply : Reply} {s s' : σ}
    (hsend : w.send s operation = (reply, s')) : w.now s ≤ w.now s' := by
  have hnow := w.now_send s operation
  rwa [hsend] at hnow

omit [SerdeJson] in
theorem elapsed_lt_iff (h : started ≤ w.now s) :
    w.elapsed started s < timeout ↔ w.now s < started + timeout := by
  rw [World.elapsed]
  omega

/-- What the log says of the sleeps: when they begin and how long they are. -/
theorem Polls.sleeps_eq (h : Polls w requestId timeout allowWarnings started firstCheck s log result
    final) : ∀ sleep ∈ sleeps log, sleep.1 - started < timeout ∧
      sleep.2 = min mutationPollInterval (timeout - (sleep.1 - started)) := by
  induction h with
  | late => simp [sleeps]
  | failed => simp [sleeps]
  | completed => simp [sleeps]
  | expired => simp [sleeps]
  | again _ _ _ hleft hpause _ ih =>
    intro sleep hsleep
    rcases List.mem_cons.1 hsleep with rfl | hsleep
    · exact ⟨hleft, hpause⟩
    · exact ih sleep hsleep

/-- The sleeps fit in the time left. -/
theorem Polls.sleeps_sum (h : Polls w requestId timeout allowWarnings started firstCheck s log result
    final) (hstarted : started ≤ w.now s) :
    ((sleeps log).map Prod.snd).sum ≤ started + timeout - w.now s := by
  induction h with
  | late => simp [sleeps]
  | failed => simp [sleeps]
  | completed => simp [sleeps]
  | expired => simp [sleeps]
  | @again _ s s' final reply pause log result _ hsend _ hleft hpause _ ih =>
    have hsent : w.now s ≤ w.now s' := World.now_le_of_send hsend
    have hslept := w.now_sleep s' pause
    have hrest := ih (by omega)
    rw [elapsed_lt_iff (by omega)] at hleft
    simp only [World.elapsed] at hpause
    simp only [sleeps, List.map_cons, List.sum_cons]
    omega

/-- A round that may be late asks only in time. -/
theorem Polls.early (h : Polls w requestId timeout allowWarnings started false s log result final) :
    ∀ fetch ∈ fetches log, fetch.1 - started < timeout := by
  generalize hfirst : false = firstCheck at h
  induction h with
  | late => simp [fetches]
  | failed hopen => simpa [fetches, World.elapsed] using hopen hfirst.symm
  | completed hopen => simpa [fetches, World.elapsed] using hopen hfirst.symm
  | expired hopen => simpa [fetches, World.elapsed] using hopen hfirst.symm
  | again hopen _ _ _ _ _ ih =>
    intro fetch hfetch
    rcases List.mem_cons.1 hfetch with rfl | hfetch
    · exact hopen hfirst.symm
    · exact ih rfl fetch hfetch

/-- The first request is made at once, the others in time. -/
theorem Polls.fetches_first (h : Polls w requestId timeout allowWarnings started true s log result
    final) : ∃ reply rest, fetches log = (w.now s, reply) :: rest ∧
      ∀ fetch ∈ rest, fetch.1 - started < timeout := by
  cases h with
  | failed => exact ⟨_, [], rfl, by simp⟩
  | completed => exact ⟨_, [], rfl, by simp⟩
  | expired => exact ⟨_, [], rfl, by simp⟩
  | again _ _ _ _ _ hpolls => exact ⟨_, _, rfl, hpolls.early⟩

/-- **Between two requests there is a whole interval**: a shorter sleep ends when the time is up. -/
theorem Polls.fetches_length (h : Polls w requestId timeout allowWarnings started firstCheck s log
    result final) (hstarted : started ≤ w.now s) {n : Nat} (hlength : (fetches log).length = n + 1) :
    n = 0 ∧ firstCheck = true ∨ w.now s + n * mutationPollInterval < started + timeout := by
  have hopen : ∀ {firstCheck : Bool} {s : σ}, started ≤ w.now s →
      (firstCheck = false → w.elapsed started s < timeout) →
      firstCheck = true ∨ w.now s < started + timeout := by
    intro firstCheck s hstarted hopen
    cases firstCheck with
    | true => exact .inl rfl
    | false => exact .inr ((elapsed_lt_iff hstarted).1 (hopen rfl))
  induction h generalizing n with
  | late => simp [fetches] at hlength
  | failed hguard =>
    obtain rfl : n = 0 := by simpa [fetches] using hlength.symm
    simpa using hopen hstarted hguard
  | completed hguard =>
    obtain rfl : n = 0 := by simpa [fetches] using hlength.symm
    simpa using hopen hstarted hguard
  | expired hguard =>
    obtain rfl : n = 0 := by simpa [fetches] using hlength.symm
    simpa using hopen hstarted hguard
  | @again _ s s' final reply pause log result hguard hsend _ hleft hpause _ ih =>
    obtain rfl : (fetches log).length = n := by simpa [fetches] using hlength
    cases hn : (fetches log).length with
    | zero => simpa using hopen hstarted hguard
    | succ n =>
      right
      have hsent : w.now s ≤ w.now s' := World.now_le_of_send hsend
      have hslept := w.now_sleep s' pause
      have hlater := (ih (by omega) hn).resolve_left (by simp)
      have hwhole : pause = mutationPollInterval := by
        simp only [World.elapsed] at hpause
        have := Nat.zero_le (n * mutationPollInterval)
        omega
      rw [Nat.succ_mul]
      omega

/-! ## The result -/

/-- The status is well formed and the mutation pending. -/
def Pending (reply : Reply) : Prop := ∃ warning, fetchStatus reply = .ok (false, warning)

/-- The status is well formed and the mutation completed, with no warning or with one that is
allowed. -/
def Accepted (allowWarnings : Bool) (reply : Reply) : Prop :=
  ∃ warning, fetchStatus reply = .ok (true, warning) ∧ (warning = none ∨ allowWarnings = true)

/-- **What a pending reply says**: the mutation is not known, or its body says so. -/
theorem pending_iff {reply : Reply} : Pending reply ↔
    executeAcceptingStatus 404 reply = .ok none ∨
    ∃ body root warning, executeAcceptingStatus 404 reply = .ok (some body) ∧
      SerdeJson.fromStr body = .ok root ∧ root.get "completed" = some (.bool false) ∧
      Warns root warning := by
  simp only [Pending, fetchStatus_eq_ok, exists_or]
  refine or_congr (by simp) ⟨?_, ?_⟩
  · intro ⟨warning, body, root, h⟩
    exact ⟨body, root, warning, h⟩
  · intro ⟨body, root, warning, h⟩
    exact ⟨warning, body, root, h⟩

/-- **What an accepting reply says.** -/
theorem accepted_iff {reply : Reply} : Accepted allowWarnings reply ↔
    ∃ body root warning, executeAcceptingStatus 404 reply = .ok (some body) ∧
      SerdeJson.fromStr body = .ok root ∧ root.get "completed" = some (.bool true) ∧
      Warns root warning ∧ (warning = none ∨ allowWarnings = true) := by
  simp only [Accepted, fetchStatus_eq_ok]
  apply Iff.intro
  · intro ⟨warning, hstatus, hallowed⟩
    obtain ⟨-, hfalse, -⟩ | ⟨body, root, hreply, hroot, hcompleted, hwarns⟩ := hstatus
    · cases hfalse
    · exact ⟨body, root, warning, hreply, hroot, hcompleted, hwarns, hallowed⟩
  · intro ⟨body, root, warning, hreply, hroot, hcompleted, hwarns, hallowed⟩
    exact ⟨warning, .inr ⟨body, root, hreply, hroot, hcompleted, hwarns⟩, hallowed⟩

theorem checkMutation_of_error {reply : Reply} {e : String} (h : fetchStatus reply = .error e) :
    checkMutation requestId allowWarnings reply =
      .error s!"failed to check Superhuman Docs mutation {requestId}: {e}" := by
  rw [checkMutation, h]
  rfl

theorem checkMutation_of_pending {reply : Reply} (h : Pending reply) :
    checkMutation requestId allowWarnings reply = .ok false := by
  obtain ⟨warning, h⟩ := h
  rw [checkMutation, h]
  rfl

theorem checkMutation_of_accepted {reply : Reply} (h : Accepted allowWarnings reply) :
    checkMutation requestId allowWarnings reply = .ok true := by
  obtain ⟨warning, h, hallowed⟩ := h
  rw [checkMutation, h]
  rcases hallowed with rfl | rfl
  · rfl
  · cases warning <;> rfl

theorem checkMutation_of_warning {reply : Reply} {warning : String}
    (h : fetchStatus reply = .ok (true, some warning)) :
    checkMutation requestId false reply = .error (warningMessage requestId warning) := by
  rw [checkMutation, h]
  rfl

/-- **What a status says.** -/
theorem status_cases (allowWarnings : Bool) (reply : Reply) :
    Pending reply ∨ Accepted allowWarnings reply ∨
      (∃ e, fetchStatus reply = .error e) ∨
      ∃ warning, fetchStatus reply = .ok (true, some warning) ∧ allowWarnings = false := by
  cases h : fetchStatus reply with
  | error e => exact .inr (.inr (.inl ⟨e, rfl⟩))
  | ok status =>
    obtain ⟨completed, warning⟩ := status
    cases completed with
    | false => exact .inl ⟨warning, h⟩
    | true =>
      cases warning with
      | none => exact .inr (.inl ⟨none, h, .inl rfl⟩)
      | some warning =>
        cases allowWarnings with
        | true => exact .inr (.inl ⟨some warning, h, .inr rfl⟩)
        | false => exact .inr (.inr (.inr ⟨warning, rfl, rfl⟩))

theorem checkMutation_pending_iff {reply : Reply} :
    checkMutation requestId allowWarnings reply = .ok false ↔ Pending reply := by
  refine ⟨fun h => ?_, checkMutation_of_pending⟩
  rcases status_cases allowWarnings reply with hp | ha | ⟨e, he⟩ | ⟨warning, hw, rfl⟩
  · exact hp
  · cases h.symm.trans (checkMutation_of_accepted ha)
  · cases h.symm.trans (checkMutation_of_error he)
  · cases h.symm.trans (checkMutation_of_warning hw)

theorem checkMutation_accepted_iff {reply : Reply} :
    checkMutation requestId allowWarnings reply = .ok true ↔ Accepted allowWarnings reply := by
  refine ⟨fun h => ?_, checkMutation_of_accepted⟩
  rcases status_cases allowWarnings reply with hp | ha | ⟨e, he⟩ | ⟨warning, hw, rfl⟩
  · cases h.symm.trans (checkMutation_of_pending hp)
  · exact ha
  · cases h.symm.trans (checkMutation_of_error he)
  · cases h.symm.trans (checkMutation_of_warning hw)

/-- A failed check does not say that the time is up. -/
theorem checkMutation_ne_timeout {reply : Reply} {e : String}
    (h : checkMutation requestId allowWarnings reply = .error e) :
    e ≠ timeoutMessage requestId timeout := by
  rcases status_cases allowWarnings reply with hp | ha | ⟨e', he⟩ | ⟨warning, hw, rfl⟩
  · cases h.symm.trans (checkMutation_of_pending hp)
  · cases h.symm.trans (checkMutation_of_accepted ha)
  · rw [← Except.error.inj ((checkMutation_of_error he).symm.trans h)]
    exact failedMessage_ne_timeout requestId e' timeout
  · rw [← Except.error.inj ((checkMutation_of_warning hw).symm.trans h)]
    exact warningMessage_ne_timeout requestId warning timeout

/-- The replies of a log. -/
def polledReplies (log : List PollEvent) : List Reply := (fetches log).map Prod.snd

/-- **The first status that is not pending decides.** -/
theorem Polls.outcome (h : Polls w requestId timeout allowWarnings started firstCheck s log result
    final) :
    (result = .error (timeoutMessage requestId timeout) ∧ ∀ reply ∈ polledReplies log, Pending reply) ∨
    ∃ pending last, polledReplies log = pending ++ [last] ∧ (∀ reply ∈ pending, Pending reply) ∧
      (result = .ok () ∧ Accepted allowWarnings last ∨
        ∃ e, result = .error e ∧ checkMutation requestId allowWarnings last = .error e) := by
  induction h with
  | late => exact .inl ⟨rfl, by simp [polledReplies, fetches]⟩
  | @failed _ _ _ reply e _ _ hcheck =>
    exact .inr ⟨[], reply, rfl, by simp, .inr ⟨e, rfl, hcheck⟩⟩
  | @completed _ _ _ reply _ _ hcheck =>
    exact .inr ⟨[], reply, rfl, by simp, .inl ⟨rfl, checkMutation_accepted_iff.1 hcheck⟩⟩
  | expired _ _ hcheck =>
    exact .inl ⟨rfl, by simpa [polledReplies, fetches] using checkMutation_pending_iff.1 hcheck⟩
  | @again _ _ _ _ reply _ log _ _ _ hcheck _ _ _ ih =>
    have hpending := checkMutation_pending_iff.1 hcheck
    rcases ih with ⟨rfl, hall⟩ | ⟨pending, last, hreplies, hall, hlast⟩
    · exact .inl ⟨rfl, List.forall_mem_cons.2 ⟨hpending, hall⟩⟩
    · exact .inr ⟨reply :: pending, last, congrArg (reply :: ·) hreplies,
        List.forall_mem_cons.2 ⟨hpending, hall⟩, hlast⟩

/-- With exact sleeps and immediate replies, a run in which every status is pending asks within
the last interval. -/
theorem Polls.asks_last (h : Polls w requestId timeout allowWarnings started firstCheck s log result
    final) (hstarted : started ≤ w.now s)
    (hsleep : ∀ s duration, w.now (w.sleep s duration) = w.now s + duration)
    (hsend : ∀ s operation, w.now (w.send s operation).2 = w.now s)
    (hopen : firstCheck = true ∨ w.now s < started + timeout)
    (hpending : ∀ reply ∈ polledReplies log, Pending reply) :
    ∃ fetch ∈ fetches log, started + timeout ≤ fetch.1 + mutationPollInterval := by
  induction h with
  | late hlate =>
    rw [World.elapsed] at hlate
    simp at hopen
    omega
  | failed _ _ hcheck =>
    have hlast := hpending _ (.head _)
    cases hcheck.symm.trans (checkMutation_of_pending hlast)
  | completed _ _ hcheck =>
    have hlast := hpending _ (.head _)
    cases hcheck.symm.trans (checkMutation_of_pending hlast)
  | @expired _ s s' _ _ hsent _ hlate =>
    have hnow := hsend s (.mutationStatus requestId)
    rw [hsent] at hnow
    rw [World.elapsed] at hlate
    refine ⟨_, .head _, ?_⟩
    dsimp only at hnow ⊢
    omega
  | @again _ s s' _ _ pause _ _ _ hsent _ hleft hpause _ ih =>
    have hnow := hsend s (.mutationStatus requestId)
    rw [hsent] at hnow
    have hslept := hsleep s' pause
    rw [World.elapsed] at hleft hpause
    dsimp only at hnow
    by_cases hearly : w.now (w.sleep s' pause) < started + timeout
    · obtain ⟨fetch, hfetch, hlast⟩ := ih (by omega) (.inr hearly)
        (List.forall_mem_cons.1 hpending).2
      exact ⟨fetch, .tail _ hfetch, hlast⟩
    · refine ⟨_, .head _, ?_⟩
      dsimp only
      omega

theorem not_pending_of_error {reply : Reply} {e : String} (h : fetchStatus reply = .error e) :
    ¬ Pending reply := by
  rintro ⟨warning, hpending⟩
  cases h.symm.trans hpending

theorem not_pending_of_completed {reply : Reply} {warning : Option String}
    (h : fetchStatus reply = .ok (true, warning)) : ¬ Pending reply := by
  rintro ⟨warning', hpending⟩
  cases h.symm.trans hpending

theorem Polls.ok_iff (h : Polls w requestId timeout allowWarnings started firstCheck s log result
    final) : result = .ok () ↔ ∃ pending last, polledReplies log = pending ++ [last] ∧
      (∀ reply ∈ pending, Pending reply) ∧ Accepted allowWarnings last := by
  constructor
  · rintro rfl
    rcases h.outcome with ⟨hlate, -⟩ | ⟨pending, last, hreplies, hall, ⟨-, haccepted⟩ | ⟨e, he, -⟩⟩
    · cases hlate
    · exact ⟨pending, last, hreplies, hall, haccepted⟩
    · cases he
  · rintro ⟨pending, last, hreplies, -, haccepted⟩
    rcases h.outcome with ⟨-, hall⟩ | ⟨pending', last', hreplies', -, hlast⟩
    · obtain ⟨warning, hstatus, -⟩ := haccepted
      exact absurd (hall last (by rw [hreplies]; simp)) (not_pending_of_completed hstatus)
    · obtain ⟨-, hsame⟩ := List.append_inj' (hreplies.symm.trans hreplies') rfl
      obtain rfl := List.singleton_inj.1 hsame
      rcases hlast with ⟨hok, -⟩ | ⟨e, -, hcheck⟩
      · exact hok
      · cases hcheck.symm.trans (checkMutation_of_accepted haccepted)

theorem Polls.error_of_fetch (h : Polls w requestId timeout allowWarnings started firstCheck s log
    result final) {reply : Reply} (hreply : reply ∈ polledReplies log) {e : String}
    (he : fetchStatus reply = .error e) :
    result = .error s!"failed to check Superhuman Docs mutation {requestId}: {e}" := by
  rcases h.outcome with ⟨-, hall⟩ | ⟨pending, last, hreplies, hall, hlast⟩
  · exact absurd (hall reply hreply) (not_pending_of_error he)
  · rw [hreplies, List.mem_append, List.mem_singleton] at hreply
    rcases hreply with hreply | rfl
    · exact absurd (hall reply hreply) (not_pending_of_error he)
    · rcases hlast with ⟨-, warning, haccepted, -⟩ | ⟨e', rfl, hcheck⟩
      · cases he.symm.trans haccepted
      · exact congrArg Except.error (Except.error.inj (hcheck.symm.trans (checkMutation_of_error he)))

/-- **A mutation that is completed an interval before the time is up is not timed out.** -/
theorem Polls.not_late (h : Polls w requestId timeout allowWarnings started true s log result final)
    (hstarted : started ≤ w.now s)
    (hsleep : ∀ s duration, w.now (w.sleep s duration) = w.now s + duration)
    (hsend : ∀ s operation, w.now (w.send s operation).2 = w.now s) {completed : Nat}
    (hcompleted : completed + mutationPollInterval ≤ timeout)
    (hserver : ∀ fetch ∈ fetches log, started + completed ≤ fetch.1 →
      ∃ warning, fetchStatus fetch.2 = .ok (true, warning)) :
    result ≠ .error (timeoutMessage requestId timeout) := by
  rcases h.outcome with ⟨-, hall⟩ | ⟨pending, last, -, -, ⟨rfl, -⟩ | ⟨e, rfl, hcheck⟩⟩
  · obtain ⟨fetch, hfetch, hlast⟩ := h.asks_last hstarted hsleep hsend (.inl rfl) hall
    obtain ⟨warning, hstatus⟩ := hserver fetch hfetch (by omega)
    exact absurd (hall fetch.2 (List.mem_map_of_mem hfetch)) (not_pending_of_completed hstatus)
  · simp
  · exact fun hlate => checkMutation_ne_timeout hcheck (Except.error.inj hlate)

/-! ## A poll from its start -/

/-- A poll with a timeout in seconds, in the world that logs. -/
def polled (w : World F σ) (requestId : String) (timeoutSeconds : Nat) (allowWarnings : Bool)
    (started : Nat) (s : σ) : Effect.Outcome String (σ × List PollEvent) (Call F) Unit :=
  runFrom (pollMutationStatus w.logged requestId (timeoutSeconds * nanosPerSecond) allowWarnings
    started true) (s, [])

/-- The requests and the sleeps of a poll. -/
structure PollsInTime (timeoutSeconds started : Nat) (log : List PollEvent) : Prop where
  fetches_pos : 1 ≤ (fetches log).length
  fetches_le : (fetches log).length ≤ timeoutSeconds
  fetches_later : ∀ fetch ∈ (fetches log).tail, fetch.1 - started < timeoutSeconds * nanosPerSecond
  sleeps_pos : ∀ sleep ∈ sleeps log, 0 < sleep.2 ∧ sleep.2 ≤ 1 * nanosPerSecond
  /-- The time left is not negative when a sleep is chosen. -/
  sleeps_left : ∀ sleep ∈ sleeps log, sleep.1 - started ≤ timeoutSeconds * nanosPerSecond
  sleeps_sum : ((sleeps log).map Prod.snd).sum ≤ timeoutSeconds * nanosPerSecond

theorem Polls.inTime {timeoutSeconds : Nat} (h : Polls w requestId (timeoutSeconds * nanosPerSecond)
    allowWarnings started true s log result final) (hseconds : 1 ≤ timeoutSeconds)
    (hstarted : started ≤ w.now s) : PollsInTime timeoutSeconds started log := by
  obtain ⟨reply, rest, hfetches, hlater⟩ := h.fetches_first
  refine ⟨by simp [hfetches], ?_, by simpa [hfetches] using hlater, ?_, ?_, ?_⟩
  · have hlength : (fetches log).length = rest.length + 1 := by simp [hfetches]
    rcases h.fetches_length hstarted hlength with ⟨hnone, -⟩ | hbound
    · omega
    · -- All but the first request come at a whole number of intervals after it.
      simp only [mutationPollInterval, nanosPerSecond] at hbound
      omega
  · intro sleep hsleep
    obtain ⟨hleft, hpause⟩ := h.sleeps_eq sleep hsleep
    simp only [mutationPollInterval, nanosPerSecond] at hleft hpause ⊢
    omega
  · intro sleep hsleep
    exact (h.sleeps_eq sleep hsleep).1.le
  · have := h.sleeps_sum hstarted
    omega

/-- **A poll is bounded, and the first status that is not pending decides its result.** -/
theorem polling_bounded (w : World F σ) (requestId : String) {timeoutSeconds : Nat}
    (allowWarnings : Bool) {started : Nat} {s : σ} (hseconds : 1 ≤ timeoutSeconds)
    (hstarted : started ≤ w.now s) :
    PollsInTime timeoutSeconds started
      (polled w requestId timeoutSeconds allowWarnings started s).state.2 ∧
    ((polled w requestId timeoutSeconds allowWarnings started s).result = .ok () ↔
      ∃ pending last, polledReplies (polled w requestId timeoutSeconds allowWarnings started
        s).state.2 = pending ++ [last] ∧ (∀ reply ∈ pending, Pending reply) ∧
        Accepted allowWarnings last) ∧
    (∀ reply ∈ polledReplies (polled w requestId timeoutSeconds allowWarnings started s).state.2,
      ∀ e, fetchStatus reply = .error e →
        (polled w requestId timeoutSeconds allowWarnings started s).result =
          .error s!"failed to check Superhuman Docs mutation {requestId}: {e}") ∧
    ((∀ s duration, w.now (w.sleep s duration) = w.now s + duration) →
      (∀ s operation, w.now (w.send s operation).2 = w.now s) →
      ∀ completed, completed ≤ (timeoutSeconds - 1) * nanosPerSecond →
      (∀ fetch ∈ fetches (polled w requestId timeoutSeconds allowWarnings started s).state.2,
        started + completed ≤ fetch.1 → ∃ warning, fetchStatus fetch.2 = .ok (true, warning)) →
      (polled w requestId timeoutSeconds allowWarnings started s).result ≠
        .error (timeoutMessage requestId (timeoutSeconds * nanosPerSecond))) ∧
    (runFrom (pollMutationStatus w requestId (timeoutSeconds * nanosPerSecond) allowWarnings started
      true) s).result = (polled w requestId timeoutSeconds allowWarnings started s).result ∧
    (runFrom (pollMutationStatus w requestId (timeoutSeconds * nanosPerSecond) allowWarnings started
      true) s).events = statusCalls requestId
        (polled w requestId timeoutSeconds allowWarnings started s).state.2 := by
  obtain ⟨log, result, final, hpolls, hrun, hlogged⟩ := pollMutationStatus_polls w requestId
    (timeoutSeconds * nanosPerSecond) allowWarnings started true ⟨s, []⟩
  have hpolled : polled w requestId timeoutSeconds allowWarnings started s =
      { result, state := (final, log), events := statusCalls requestId log } :=
    Effect.runFrom_of_finish (hlogged [])
  rw [hpolled, Effect.runFrom_of_finish hrun]
  refine ⟨hpolls.inTime hseconds hstarted, hpolls.ok_iff, fun reply hreply e he =>
    hpolls.error_of_fetch hreply he, ?_, rfl, rfl⟩
  intro hsleep hsend completed hcompleted hserver
  refine hpolls.not_late hstarted hsleep hsend ?_ hserver
  simp only [mutationPollInterval, nanosPerSecond] at hcompleted ⊢
  omega

end

open Json.Reference Reference

/-- A mutation is pending at first and completed a second later. -/
theorem polled_twice : polled scripted "m1" 2 false 0 ([statusReply false, statusReply true], 0) =
    { result := .ok ()
      state := (([], nanosPerSecond), [.fetch 0 (statusReply false), .sleep 0 nanosPerSecond,
        .fetch nanosPerSecond (statusReply true)])
      events := [⟨.mutationStatus "m1", statusReply false⟩,
        ⟨.mutationStatus "m1", statusReply true⟩] } := by
  have hfirst : pollMutationStatus scripted.logged "m1" (2 * nanosPerSecond) false 0 true
      ⟨(([statusReply false, statusReply true], 0), []), []⟩ =
        pollMutationStatus scripted.logged "m1" (2 * nanosPerSecond) false 0 false
          ⟨(([statusReply true], nanosPerSecond), [.fetch 0 (statusReply false),
            .sleep 0 nanosPerSecond]), [⟨.mutationStatus "m1", statusReply false⟩]⟩ := by
    rw [poll_asks (w := scripted.logged) (by simp) (logged_send ..)]
    simp only [scripted, List.headD_cons, List.tail_cons, checkMutation_statusReply]
    rfl
  have hsecond : pollMutationStatus scripted.logged "m1" (2 * nanosPerSecond) false 0 false
      ⟨(([statusReply true], nanosPerSecond), [.fetch 0 (statusReply false),
        .sleep 0 nanosPerSecond]), [⟨.mutationStatus "m1", statusReply false⟩]⟩ =
      finish (.ok ()) ⟨(([], nanosPerSecond), [.fetch 0 (statusReply false),
        .sleep 0 nanosPerSecond, .fetch nanosPerSecond (statusReply true)]),
        [⟨.mutationStatus "m1", statusReply false⟩, ⟨.mutationStatus "m1", statusReply true⟩]⟩ := by
    rw [poll_asks (w := scripted.logged) (fun _ => by decide) (logged_send ..)]
    simp only [scripted, List.headD_cons, List.tail_cons, checkMutation_statusReply]
    rfl
  exact Effect.runFrom_of_finish (hfirst.trans hsecond)

theorem polling_bounded_twice :
    PollsInTime 2 0 (polled scripted "m1" 2 false 0
      ([statusReply false, statusReply true], 0)).state.2 ∧
    (polled scripted "m1" 2 false 0 ([statusReply false, statusReply true], 0)).result ≠
      .error (timeoutMessage "m1" (2 * nanosPerSecond)) := by
  obtain ⟨hbounds, -, -, hexact, -⟩ := polling_bounded scripted "m1" false
    (s := ([statusReply false, statusReply true], 0)) (show 1 ≤ 2 by decide) (Nat.le_refl 0)
  refine ⟨hbounds, hexact (fun _ _ => rfl) (fun _ _ => rfl) nanosPerSecond (by decide) ?_⟩
  have hstatus : fetchStatus (statusReply true) = .ok (true, none) := by
    obtain ⟨warning, h, hnone⟩ := checkMutation_accepted_iff.1
      (checkMutation_statusReply "m1" false true)
    rw [h, hnone.resolve_right (by decide)]
  rw [polled_twice]
  intro fetch hfetch htime
  simp only [fetches, List.mem_cons, List.not_mem_nil, or_false] at hfetch
  rcases hfetch with rfl | rfl
  · exact absurd htime (by decide)
  · exact ⟨none, hstatus⟩

end SuperhumanDocs
